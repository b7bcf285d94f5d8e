import FaceAuth.Daemon.Resource
import FaceAuth.Daemon.Freshness

/-!
# Progress updates of a session

A session reports each pair that it sends back, each change of the challenge
prompt, each pair that it uses for an observation and each observation after
which it goes on. How many these are follows from what the session is told from
outside: its pairs, the answers of the models, the drawn action, the
cancellation signal and the callback. The engine that drives it lets a bounded
number through.
-/

namespace FaceAuth

open Foundation ObservationEnvironment

/-- The updates of an engine before its session. Enrollment reports that it is preparing. -/
def BiometricEngine.ownUpdates : BiometricEngine → Nat
  | .authentication => 0
  | .enrollment => 1

/-- The event tells the caller of progress. -/
def ObservationEvent.isReported : ObservationEvent → Bool
  | .reported _ => true
  | _ => false

/-- How many updates a session has reported. -/
def updates (history : ObservationHistory) : Nat := history.countP ObservationEvent.isReported

/-- What a session is asked to report by what it is told: the pairs that are sent back, the
changes of the challenge prompt, the pairs that are used for an observation, and the
observations after which it goes on. The landmarks are those of a face that the challenge has
still to see. -/
structure ProgressDemand where
  pair : Option PairedFrames
  landmarks : Option FacialLandmarks
  challenge : Option ChallengeSession
  passed : Bool
  prompt : Option ObservationProgress
  sentBack : Nat
  changes : Nat
  used : Nat
  continued : Nat

namespace ProgressDemand

/-- Nothing was demanded. -/
def start : ProgressDemand := ⟨none, none, none, false, none, 0, 0, 0, 0⟩

/-- Every session asks the user to position the face first. -/
def total (demand : ProgressDemand) : Nat :=
  1 + demand.sentBack + demand.changes + demand.used + demand.continued

/-- The challenge answers to the face that it has still to see. -/
def judge (demand : ProgressDemand) :
    Except ChallengeError ChallengeProgress × ChallengeSession → ProgressDemand
  | (.error _, challenge) => { demand with landmarks := none, challenge := some challenge }
  | (.ok state, challenge) =>
      let demand := { demand with landmarks := none, challenge := some challenge }
      if state = .passed then { demand with passed := true, used := demand.used + 1 }
      else if demand.prompt = some (observationProgress state) then demand
      else { demand with
        prompt := some (observationProgress state), changes := demand.changes + 1 }

/-- One more input. -/
def hear (config : ChallengeConfig) (demand : ProgressDemand) : SessionInput → ProgressDemand
  | .pair pair => { demand with pair := some pair }
  | .missed => { demand with sentBack := demand.sentBack + 1 }
  | .located landmarks =>
      if demand.passed then { demand with used := demand.used + 1 }
      else { demand with landmarks := some landmarks }
  | .drew action =>
      match demand.pair, demand.landmarks, demand.challenge with
      | some pair, some _, none =>
          { demand with challenge := (ChallengeSession.withAction config
            (FreshPairIdentity.fromPair pair).timestampMicros action).toOption }
      | _, _, _ => demand
  | .signal cancelled =>
      match demand.pair, demand.landmarks, demand.challenge with
      | some pair, some landmarks, some active =>
          demand.judge (active.observeCancellable (pair.challengeObservation landmarks) cancelled)
      | _, _, _ => demand
  | .more =>
      if demand.continued + 1 < MAX_DERIVED_OBSERVATION_ATTEMPTS then
        { demand with continued := demand.continued + 1 }
      else demand

end ProgressDemand

/-- What a session with these inputs is asked to report. -/
def progressDemand (config : ChallengeConfig) (told : List SessionInput) : ProgressDemand :=
  told.foldl (ProgressDemand.hear config) .start

section Demand

variable {Value : Type} {environment : ObservationEnvironment Value} {config : ChallengeConfig}
  {locals : Locals} {pair : PairedFrames} {landmarks : FacialLandmarks}
  {history added work rest : ObservationHistory} {demand : ProgressDemand}
  {result : Except ObservationFailure (Locals ⊕ Value)}

/-- Nothing was told. -/
@[simp] theorem updates_nil : updates [] = 0 := rfl

/-- One event more, and one update more if it is one. -/
@[simp] theorem updates_cons (event : ObservationEvent) :
    updates (event :: added) = updates added + if event.isReported then 1 else 0 :=
  List.countP_cons

/-- Updates add up. -/
@[simp] theorem updates_append (first second : ObservationHistory) :
    updates (first ++ second) = updates first + updates second := List.countP_append

/-- Work in the background tells nothing. -/
theorem updates_background (background : ∀ event ∈ work, event.IsBackground) :
    updates work = 0 := by
  refine List.countP_eq_zero.mpr fun event member => ?_
  have known := background event member
  cases event <;> first | exact Bool.false_ne_true | exact known.elim

/-- Quiet work tells nothing. -/
theorem updates_quiet (quiet : AllQuiet work) : updates work = 0 :=
  updates_background fun event member => (quiet event member).background

/-- What a session has heard after these events. -/
def hearing (environment : ObservationEnvironment Value) (config : ChallengeConfig)
    (demand : ProgressDemand) (history added : ObservationHistory) : ProgressDemand :=
  (inputs environment history added).foldl (ProgressDemand.hear config) demand

/-- Inputs are heard one history after the other. -/
theorem hearing_append (first second : ObservationHistory) :
    hearing environment config demand history (first ++ second) =
      hearing environment config (hearing environment config demand history first)
        (history ++ first) second := by
  rw [hearing, inputs_append, List.foldl_append]
  rfl

/-- The input of an event is heard before those that follow. -/
theorem hearing_cons {event : ObservationEvent} :
    hearing environment config demand history (event :: added) =
      hearing environment config
        ((environment.input history event).toList.foldl (ProgressDemand.hear config) demand)
        (history ++ [event]) added := by
  rw [hearing, inputs, gather_cons, List.foldl_append]
  rfl

/-- That a pair was admitted is no input. -/
@[simp] theorem hearing_admitted :
    hearing environment config demand history (.admitted pair :: added) =
      hearing environment config demand (history ++ [.admitted pair]) added := hearing_cons

/-- What was made of a pair is no input. -/
@[simp] theorem hearing_processed {outcome : Except AttemptFailure FacialLandmarks} :
    hearing environment config demand history (.processed pair outcome :: added) =
      hearing environment config demand (history ++ [.processed pair outcome]) added := hearing_cons

/-- What was made of the challenge is no input. -/
@[simp] theorem hearing_challenged {answer : Except ChallengeError ChallengeProgress} :
    hearing environment config demand history (.challenged pair answer :: added) =
      hearing environment config demand (history ++ [.challenged pair answer]) added := hearing_cons

/-- An update is no input. -/
@[simp] theorem hearing_reported {progress : ObservationProgress} :
    hearing environment config demand history (.reported progress :: added) =
      hearing environment config demand (history ++ [.reported progress]) added := hearing_cons

/-- Nothing is heard of nothing. -/
@[simp] theorem hearing_nil : hearing environment config demand history [] = demand := rfl

/-- No challenge hears what is told without a face for it. -/
theorem hear_idle {told : List SessionInput} (idle : ∀ input ∈ told, input.IsIdle)
    (settled : demand.landmarks = none) :
    told.foldl (ProgressDemand.hear config) demand = demand := by
  induction told with
  | nil => rfl
  | cons input told ih =>
      have same : demand.hear config input = demand := by
        have known := idle input (List.mem_cons_self ..)
        cases input with
        | drew action =>
            unfold ProgressDemand.hear
            rw [settled]
            split <;> simp_all
        | signal cancelled =>
            unfold ProgressDemand.hear
            rw [settled]
            split <;> simp_all
        | pair | missed | located | more => exact known.elim
      rw [List.foldl_cons, same]
      exact ih fun other member => idle other (.tail _ member)

/-- Quiet work is not heard while no landmarks wait. -/
theorem hearing_quiet (quiet : AllQuiet work) (settled : demand.landmarks = none) :
    hearing environment config demand history work = demand :=
  hear_idle (environment.inputs_idle quiet) settled

/-- After the work on a pair only its last input counts. -/
theorem hearing_tells {last : Option SessionInput}
    (tells : Tells (inputs environment history work) last) (settled : demand.landmarks = none) :
    hearing environment config demand history work =
      last.toList.foldl (ProgressDemand.hear config) demand := by
  obtain ⟨early, told, idle⟩ := tells
  rw [hearing, told, List.foldl_append, hear_idle idle settled]

/-- A session between two pairs and what it was asked to report agree. -/
structure Agrees (locals : Locals) (demand : ProgressDemand) : Prop where
  settled : demand.landmarks = none
  challenge : demand.challenge = locals.challenge
  passed : demand.passed = locals.challengePassed
  prompt : demand.prompt = locals.lastProgress
  continued : demand.continued = locals.derivedAttempts

/-- A pair whose observation is derived was announced before. -/
theorem observed_demand (config : ChallengeConfig)
    (observed : environment.Observed locals pair history result added)
    (agrees : Agrees locals demand) :
    (hearing environment config demand history added).total + 1 =
      demand.total + updates added ∧
    ∀ next, result = .ok (.inl next) →
      Agrees next (hearing environment config demand history added) := by
  cases observed with
  | @underived work quiet failure =>
      rw [hearing_reported, hearing_quiet quiet agrees.settled, updates_cons,
        updates_quiet quiet]
      exact ⟨rfl, by rintro next ⟨⟩⟩
  | @handed work observation _ quiet timing last =>
      have regroup : history ++ [.reported .processing] ++ work =
          history ++ .reported .processing :: work := List.append_assoc ..
      have ends : (environment.input (history ++ .reported .processing :: work)
          (.observed pair observation)).toList.foldl (ProgressDemand.hear config) demand =
            demand := by
        rw [ObservationEnvironment.input]
        split at last
        · rename_i failed
          rw [failed]
          rfl
        · rename_i given
          rw [given]
          rfl
        · rename_i wanted
          rw [wanted]
          exact if_neg (by rw [agrees.continued]; exact Nat.not_lt.mpr last.1)
      rw [List.cons_append, hearing_reported, hearing_append,
        hearing_quiet quiet agrees.settled, regroup, hearing_cons, ends, hearing_nil,
        updates_cons, updates_append, updates_quiet quiet]
      refine ⟨rfl, fun next given => ?_⟩
      rw [given] at last
      split at last <;> simp at last
  | @continues work observation _ quiet timing left told more =>
      have regroup : history ++ [.reported .processing] ++ work =
          history ++ .reported .processing :: work := List.append_assoc ..
      have goesOn : (environment.input (history ++ .reported .processing :: work)
          (.observed pair observation)).toList.foldl (ProgressDemand.hear config) demand =
            { demand with continued := demand.continued + 1 } := by
        rw [ObservationEnvironment.input, more]
        exact if_pos (by rw [agrees.continued]; exact left)
      rw [List.cons_append, hearing_reported, hearing_append,
        hearing_quiet quiet agrees.settled, regroup, hearing_cons, goesOn,
        hearing_reported, hearing_nil, updates_cons, updates_append, updates_quiet quiet]
      refine ⟨rfl, fun next given => ?_⟩
      cases next_of_told told given
      exact { agrees with continued := congrArg (· + 1) agrees.continued }

/-- The answer of a challenge settles what was still to see. -/
theorem ProgressDemand.judge_again (demand : ProgressDemand) (landmarks : Option FacialLandmarks)
    (challenge : Option ChallengeSession)
    (answer : Except ChallengeError ChallengeProgress × ChallengeSession) :
    ({ demand with landmarks, challenge } : ProgressDemand).judge answer =
      demand.judge answer := by
  obtain ⟨given | given, next⟩ := answer <;> rfl

/-- A challenge that goes on with the prompt that is shown demands nothing. -/
theorem ProgressDemand.judge_same {state : ChallengeProgress} (goesOn : state ≠ .passed)
    (same : demand.prompt = some (observationProgress state)) (challenge : ChallengeSession) :
    demand.judge (.ok state, challenge) =
      { demand with landmarks := none, challenge := some challenge } := by
  simp [judge, goesOn, same]

/-- A challenge that goes on with another prompt demands its change. -/
theorem ProgressDemand.judge_changed {state : ChallengeProgress} (goesOn : state ≠ .passed)
    (changed : demand.prompt ≠ some (observationProgress state)) (challenge : ChallengeSession) :
    demand.judge (.ok state, challenge) =
      { demand with
        landmarks := none
        challenge := some challenge
        prompt := some (observationProgress state)
        changes := demand.changes + 1 } := by
  simp [judge, goesOn, changed]

/-- When the challenge passes, its pair is used. -/
theorem ProgressDemand.judge_passed (demand : ProgressDemand) (challenge : ChallengeSession) :
    demand.judge (.ok .passed, challenge) =
      { demand with
        landmarks := none
        challenge := some challenge
        passed := true
        used := demand.used + 1 } := by
  simp [judge]

/-- What a challenge makes of a face does not depend on what it was before. -/
theorem hearing_offered {answer : Except ChallengeError ChallengeProgress × ChallengeSession}
    (offered : environment.Offered config locals pair landmarks history work answer)
    (agrees : Agrees locals demand) (seen : demand.pair = some pair) :
    hearing environment config { demand with landmarks := some landmarks } history work =
      demand.judge answer := by
  obtain ⟨begins, active, shouldCancel, rfl, known, rfl⟩ := offered
  have judged : ∀ waiting : ProgressDemand, waiting = { demand with
      landmarks := some landmarks, challenge := some active } →
      waiting.hear config (.signal shouldCancel) =
        demand.judge (active.observeCancellable (pair.challengeObservation landmarks)
          shouldCancel) := by
    rintro waiting rfl
    rw [← demand.judge_again (some landmarks) (some active)]
    simp only [ProgressDemand.hear, seen]
  cases known with
  | ongoing begun =>
      refine judged _ ?_
      rw [← begun, ← agrees.challenge]
  | @begins action _ none drawn began =>
      have unbegun := agrees.challenge.trans none
      have begun : hearing environment config { demand with landmarks := some landmarks } history
          [.drawn] = { demand with landmarks := some landmarks, challenge := some active } := by
        rw [hearing_cons, ObservationEnvironment.input, drawn, hearing_nil]
        simp only [tidings, Function.comp_apply, Option.toList_some, List.foldl_cons,
          List.foldl_nil, ProgressDemand.hear, seen, unbegun, began]
        rfl
      rw [hearing_append, begun]
      exact judged _ rfl

/-- What becomes of a pair with one face is reported as it has to be. -/
theorem judged_demand
    (judged : environment.Judged config locals pair landmarks history result added)
    (agrees : Agrees locals demand) (seen : demand.pair = some pair) :
    (hearing environment config (demand.hear config (.located landmarks)) history added).total =
      demand.total + updates added ∧
    ∀ next, result = .ok (.inl next) → Agrees next
      (hearing environment config (demand.hear config (.located landmarks)) history added) := by
  have waiting : locals.challengePassed = false → demand.hear config (.located landmarks) =
      { demand with landmarks := some landmarks } := by
    intro waits
    rw [← agrees.passed] at waits
    simp [ProgressDemand.hear, waits]
  cases judged with
  | observes passed observed =>
      rw [← agrees.passed] at passed
      have more : demand.hear config (.located landmarks) =
          { demand with used := demand.used + 1 } := if_pos passed
      have total : ({ demand with used := demand.used + 1 } : ProgressDemand).total =
          demand.total + 1 := by
        simp only [ProgressDemand.total]
        omega
      have used : Agrees locals { demand with used := demand.used + 1 } := { agrees with }
      obtain ⟨counted, goesOn⟩ := observed_demand config observed used
      rw [more]
      exact ⟨by omega, goesOn⟩
  | unbegun waits quiet failure drawn =>
      rw [waiting waits, drawn, hearing_cons]
      refine ⟨?_, by rintro next ⟨⟩⟩
      rw [ObservationEnvironment.input]
      cases random : environment.random history with
      | error error => rfl
      | ok action =>
          change (ProgressDemand.hear config _ (.drew action)).total = _
          unfold ProgressDemand.hear
          dsimp only
          split <;> rfl
  | @rejected work rest error waits quiet quietly failure offered =>
      obtain ⟨challenge, offered⟩ := offered
      rw [waiting waits, hearing_append, hearing_offered offered agrees seen,
        hearing_challenged, hearing_quiet quietly rfl, updates_append, updates_cons,
        updates_quiet quiet, updates_quiet quietly]
      exact ⟨rfl, by rintro next ⟨⟩⟩
  | @unchanged work state challenge waits quiet offered goesOn same =>
      have still := demand.judge_same goesOn (agrees.prompt.trans same) challenge
      rw [waiting waits, hearing_append, hearing_offered offered agrees seen,
        hearing_challenged, hearing_nil, still, updates_append, updates_quiet quiet]
      refine ⟨rfl, ?_⟩
      rintro next ⟨⟩
      exact { agrees with settled := rfl, challenge := rfl }
  | @prompted work state challenge _ waits quiet offered goesOn changed told =>
      rw [← agrees.prompt] at changed
      have asks := demand.judge_changed goesOn changed challenge
      rw [waiting waits, hearing_append, hearing_offered offered agrees seen,
        hearing_challenged, hearing_reported, hearing_nil, asks, updates_append,
        updates_quiet quiet]
      refine ⟨?_, fun next given => ?_⟩
      · simp only [ProgressDemand.total, updates_cons, updates_nil, ObservationEvent.isReported,
          Bool.false_eq_true, if_false, if_true]
        omega
      · cases next_of_told told given
        exact { agrees with settled := rfl, challenge := rfl, prompt := rfl }
  | @passes work later challenge _ waits quiet offered observed =>
      have passed := demand.judge_passed challenge
      have used : Agrees { locals with challenge := some challenge, challengePassed := true }
          (demand.judge (.ok .passed, challenge)) := by
        rw [passed]
        exact { agrees with settled := rfl, challenge := rfl, passed := rfl }
      obtain ⟨counted, goesOn⟩ := observed_demand config observed used
      have total : (demand.judge (.ok .passed, challenge)).total = demand.total + 1 := by
        rw [passed]
        simp only [ProgressDemand.total]
        omega
      rw [waiting waits, hearing_append, hearing_offered offered agrees seen,
        hearing_challenged, updates_append, updates_cons, updates_quiet quiet]
      refine ⟨?_, goesOn⟩
      simp only [ObservationEvent.isReported, Bool.false_eq_true, if_false]
      omega

/-- Each round is reported as it has to be. -/
theorem round_demand (round : environment.Round config locals history result added)
    (agrees : Agrees locals demand) :
    (hearing environment config demand history added).total = demand.total + updates added ∧
    ∀ next, result = .ok (.inl next) →
      Agrees next (hearing environment config demand history added) := by
  have shown : ∀ pair, Agrees locals { demand with pair := some pair } :=
    fun pair => { agrees with }
  -- What was heard before the search for the face, and what the search is told.
  have searched : ∀ {work rest pair last}, AllQuiet work →
      Tells (inputs environment (history ++ work ++ [.captured pair, .admitted pair]) rest) last →
      hearing environment config demand history (work ++ .captured pair :: .admitted pair :: rest) =
        last.toList.foldl (ProgressDemand.hear config) { demand with pair := some pair } := by
    intro work rest pair last quiet tells
    rw [hearing_append, hearing_quiet quiet agrees.settled, hearing_cons, hearing_admitted,
      List.append_assoc, List.append_assoc]
    rw [List.append_assoc] at tells
    exact hearing_tells tells agrees.settled
  cases round with
  | unpaired quiet failure =>
      rw [hearing_quiet quiet agrees.settled, updates_quiet quiet]
      exact ⟨rfl, by rintro next ⟨⟩⟩
  | stale quiet remembered old =>
      rw [hearing_append, hearing_quiet quiet agrees.settled, hearing_cons, hearing_nil,
        updates_append, updates_quiet quiet]
      exact ⟨rfl, by rintro next ⟨⟩⟩
  | @unprocessed work rest pair failure quiet fresh background came answers =>
      rw [hearing_append, searched quiet answers, hearing_processed, hearing_nil]
      simp only [updates_append, updates_cons, updates_nil, updates_quiet quiet,
        updates_background background]
      exact ⟨rfl, by rintro next ⟨⟩⟩
  | @repositioned work rest pair _ _ quiet fresh background detected sent told =>
      rw [hearing_append, searched quiet sent, hearing_processed, hearing_reported,
        hearing_nil]
      simp only [updates_append, updates_cons, updates_nil, updates_quiet quiet,
        updates_background background, ObservationEvent.isReported, Bool.false_eq_true, if_false,
        if_true, Option.toList_some, List.foldl_cons, List.foldl_nil, ProgressDemand.hear,
        ProgressDemand.total]
      refine ⟨by omega, fun next given => ?_⟩
      cases next_of_told told given
      exact { agrees with }
  | @positioned work rest later pair landmarks _ quiet fresh background detected kept judged =>
      have total : updates (work ++ .captured pair :: .admitted pair :: rest ++
          .processed pair (.ok landmarks) :: later) = updates later := by
        simp [ObservationEvent.isReported, updates_quiet quiet, updates_background background]
      have same : Agrees { locals with previousPair := some (.fromPair pair) }
          { demand with pair := some pair } := { agrees with }
      rw [total, hearing_append, searched quiet kept, hearing_processed, List.append_assoc]
      exact judged_demand judged same rfl

/-- Every round of a run tells as many updates as its inputs demand. -/
theorem carries_demand (environment : ObservationEnvironment Value) (config : ChallengeConfig) :
    Carries environment config
      (fun _ locals history => Agrees locals (hearing environment config .start [] history) ∧
        (hearing environment config .start [] history).total = updates history)
      (fun _ history => (hearing environment config .start [] history).total = updates history ∨
        updates history = 0 ∧ (hearing environment config .start [] history).total = 1) where
  unopened failure work quiet := by
    rw [hearing_append, hearing_quiet quiet rfl, updates_append, updates_quiet quiet]
    exact ⟨.inr ⟨rfl, rfl⟩, .inl rfl⟩
  opened work quiet := by
    rw [hearing_append, hearing_quiet quiet rfl, updates_append, updates_quiet quiet]
    exact ⟨⟨rfl, rfl, rfl, rfl, rfl⟩, rfl⟩
  goesOn between round := by
    obtain ⟨counted, goesOn⟩ := round_demand round between.1
    rw [hearing_append, updates_append, ← between.2]
    exact ⟨goesOn _ rfl, counted⟩
  stops between round := by
    rw [hearing_append, updates_append, ← between.2]
    exact .inl (round_demand round between.1).1
  finishes between round := by
    rw [hearing_append, updates_append, ← between.2]
    exact .inl (round_demand round between.1).1
  spent between := by
    rename_i locals history
    have quiet : AllQuiet [.polled (environment.cancelled history)] := by
      simp [AllQuiet, ObservationEvent.IsQuiet, ObservationEvent.IsBackground]
    rw [hearing_append, updates_append, updates_quiet quiet, ← between.2]
    exact .inl (congrArg ProgressDemand.total (hearing_quiet quiet between.1.settled))

end Demand

/-! ## The budget of the engine -/

/-- The session and its engine report no more updates than the engine lets through, and none is
refused because of their number. -/
structure WithinBudget (engine : BiometricEngine) (history : ObservationHistory) : Prop where
  total : engine.ownUpdates + updates history ≤ engine.maxProgressUpdates
  admitted : ∀ early progress late, history = early ++ .reported progress :: late →
    engine.ownUpdates + updates early < engine.maxProgressUpdates

/-- The budget covers the updates of the engine and those of its session. -/
theorem withinBudget_iff {engine : BiometricEngine} {history : ObservationHistory} :
    WithinBudget engine history ↔
      engine.ownUpdates + updates history ≤ engine.maxProgressUpdates := by
  refine ⟨WithinBudget.total, fun total => ⟨total, ?_⟩⟩
  rintro early progress late rfl
  rw [updates_append, updates_cons] at total
  simp only [ObservationEvent.isReported, if_true] at total
  omega

/-- A session keeps to the budget of its engine exactly when the pairs that are sent back, the
changes of the challenge prompt, the pairs that are used and the observations after which it
goes on, as its inputs ask for them, fit the budget together with the first prompt. -/
theorem progress_budget_iff {Value : Type} (engine : BiometricEngine)
    (pipeline : ProductionObservationPipeline) (environment : ObservationEnvironment Value)
    (config : ChallengeConfig) :
    let history := (pipeline.runSession environment config []).state
    WithinBudget engine history ↔
      engine.ownUpdates + (progressDemand config (inputs environment [] history)).total ≤
        engine.maxProgressUpdates := by
  intro history
  rw [withinBudget_iff]
  rcases (carries_demand environment config).runSession pipeline with same | ⟨none, one⟩
  · exact iff_of_eq (congrArg (engine.ownUpdates + · ≤ engine.maxProgressUpdates) same.symm)
  · have silent : updates history = 0 := none
    have single : (progressDemand config (inputs environment [] history)).total = 1 := one
    rw [silent, single]
    cases engine <;> decide

/-- The callback that an engine gives its session: the counter of its job, behind a relay that
tells a cancelled job from every other refusal. -/
def BiometricEngine.relay (engine : BiometricEngine) (cancelled sent : ObservationHistory → Bool)
    (history : ObservationHistory) : Except ObservationFailure Unit :=
  if cancelled history then .error .cancelled
  else if engine.maxProgressUpdates ≤ engine.ownUpdates + updates history then .error .internal
  else if sent history then .ok ()
  else .error .internal

/-- A user whom the detector does not find, in front of a running engine. -/
def unseenEnvironment (engine : BiometricEngine) : ObservationEnvironment Unit where
  cancelled _ := false
  stream _ _ := .ok ()
  frame camera history :=
    let reads := history.countP fun
      | .read other => camera = other
      | _ => false
    .ok (replayFrame camera (if camera = .infrared then .gray8 else .yuyv)
      (1_000_000 + 30_000 * reads) (.ofNat (reads + 1)))
  rows _ _ := 0
  work _ _ := .ok ()
  faces _ := .ok 0
  landmarks _ := .error .embeddingInvalid
  quality _ := .error .invalidComputation
  embedding _ := .error .embeddingInvalid
  passiveLiveness _ _ := .error .passiveLivenessOutputInvalid
  random _ := .ok .blink
  progress _ := engine.relay (fun _ => false) fun _ => true
  observe _ _ := .ok none

/-- The counter of the engine ends a session that has used few of its capture attempts. -/
theorem progress_budget_exceeded :
    blinkConfig.validate = .ok () ∧
    (replayPipeline.runSession (unseenEnvironment .authentication) blinkConfig []).result =
      .error .internal ∧
    (pairHistory (replayPipeline.runSession (unseenEnvironment .authentication) blinkConfig
      []).state).captured.length < blinkConfig.captureAttempts ∧
    ¬ WithinBudget .authentication
      (replayPipeline.runSession (unseenEnvironment .authentication) blinkConfig []).state := by
  have valid : blinkConfig.validate = .ok () := by decide +kernel
  -- One evaluation of the session for all three facts.
  have ran : (fun ran : Outcome ObservationHistory ObservationFailure Unit =>
      (ran.result, (pairHistory ran.state).captured.length, updates ran.state))
        (replayPipeline.runSession (unseenEnvironment .authentication) blinkConfig []) =
          (.error .internal, 32, 33) := by
    decide +kernel
  rw [Prod.mk.injEq, Prod.mk.injEq] at ran
  obtain ⟨failed, captured, many⟩ := ran
  refine ⟨valid, failed, ?_, fun within => ?_⟩
  · rw [captured]
    decide
  · have total := within.total
    rw [many] at total
    exact absurd total (by decide)

end FaceAuth
