import FaceAuth.Foundation.Run
import FaceAuth.Liveness.Challenge
import Mathlib.Data.List.Chain

/-!
# Soundness of the active-liveness challenge over whole runs

Each phase of a session explains the observations that the session accepted so
far: which of them was the baseline, which consecutive ones showed the action,
and which ones the neutral pose after it. A passed session therefore carries a
complete challenge in its accepted observations, whatever was offered, refused
or cancelled in between.
-/

namespace FaceAuth

open Foundation

/-- The later of the two capture times of an observation. -/
def ChallengeObservation.time (observation : ChallengeObservation) : Nat :=
  match observation.timing.visibleTimestampMicros with
  | none => observation.timing.infraredTimestampMicros
  | some visible => max observation.timing.infraredTimestampMicros visible

/-- Both sequences and the time have gone on. -/
def ChallengeObservation.Earlier (first second : ChallengeObservation) : Prop :=
  first.time < second.time

instance : Trans ChallengeObservation.Earlier ChallengeObservation.Earlier
    ChallengeObservation.Earlier := ⟨Nat.lt_trans⟩

/-- The sequences of the two frames. -/
def ChallengeObservation.sequences (observation : ChallengeObservation) : UInt32 × UInt32 :=
  (observation.infraredSequence, observation.visibleSequence)

/-- A visible frame close enough to the infrared one, and exactly one face. -/
def ChallengeConfig.WellPaired (config : ChallengeConfig) (observation : ChallengeObservation) :
    Prop :=
  (∃ visible, observation.timing.visibleTimestampMicros = some visible ∧
    absDiff observation.timing.infraredTimestampMicros visible ≤ config.maxPairSkewMicros) ∧
  observation.faceCount = 1

/-- The next observation is later, with a new frame of either camera. -/
def FreshAfter (previous next : ChallengeObservation) : Prop :=
  previous.time < next.time ∧ previous.infraredSequence ≠ next.infraredSequence ∧
    previous.visibleSequence ≠ next.visibleSequence

/-- A block of consecutive observations of the action, held long enough. -/
structure ActionBlock (config : ChallengeConfig) (action : ChallengeAction)
    (block : List ChallengeObservation) : Prop where
  long : config.actionConsecutiveObservations ≤ block.length
  shown : ∀ observation ∈ block, config.ActionObserved action observation
  dwell : ∃ first last, block.head? = some first ∧ block.getLast? = some last ∧
    first.time + config.minimumActionDurationMicros ≤ last.time

/-- A neutral baseline, and a closing block of `streak` or more observations of
the action whose first was seen at `started`. -/
def Acting (config : ChallengeConfig) (action : ChallengeAction) (streak : Nat)
    (started : Option Nat) (accepted : List ChallengeObservation) : Prop :=
  ∃ earlier baseline between block, accepted = earlier ++ baseline :: (between ++ block) ∧
    config.Neutral baseline ∧ streak ≤ block.length ∧
    (∀ observation ∈ block, config.ActionObserved action observation) ∧
    started = block.head?.map ChallengeObservation.time

/-- A neutral baseline, later the action, and a closing block of `streak` or
more neutral observations. -/
def Recovering (config : ChallengeConfig) (action : ChallengeAction) (streak : Nat)
    (accepted : List ChallengeObservation) : Prop :=
  ∃ earlier baseline between block pause recovery,
    accepted = earlier ++ baseline :: (between ++ block ++ pause ++ recovery) ∧
    config.Neutral baseline ∧ ActionBlock config action block ∧ streak ≤ recovery.length ∧
    ∀ observation ∈ recovery, config.Neutral observation

namespace ChallengeSession

/-- The phase of a session agrees with the observations it accepted. -/
def Explains (session : ChallengeSession) (accepted : List ChallengeObservation) : Prop :=
  match session.phase with
  | .baseline => session.actionStreak = 0 ∧ session.actionStreakStartedAtMicros = none
  | .action => Acting session.config session.action session.actionStreak
      session.actionStreakStartedAtMicros accepted
  | .recovery => Recovering session.config session.action session.recoveryStreak accepted
  | .passed => Recovering session.config session.action
      session.config.recoveryConsecutiveObservations accepted

/-- An action takes some time. -/
theorem minimum_positive (session : ChallengeSession) :
    0 < session.config.minimumActionDurationMicros := by
  have valid := session.configured
  rw [ChallengeConfig.validate, require_eq_ok_iff] at valid
  omega

/-! ## One observation -/

section Step

variable {session : ChallengeSession} {observation : ChallengeObservation} {timestamp : Nat}
  {accepted : List ChallengeObservation}

/-- An observation before the action is explained. -/
theorem explains_baseline (phase : session.phase = .baseline)
    (explained : session.Explains accepted) :
    (session.advance observation timestamp).Explains (accepted ++ [observation]) := by
  unfold Explains at explained
  rw [phase] at explained
  unfold advance
  rw [phase]
  by_cases neutral : session.config.Neutral observation
  · simp only [neutral, ↓reduceIte]
    refine ⟨accepted, observation, [], [], rfl, neutral, ?_, List.forall_mem_nil _, ?_⟩
    · exact Nat.le_of_eq explained.1
    · exact explained.2
  · simp only [neutral, ↓reduceIte]
    unfold Explains
    rw [phase]
    exact explained

/-- The first time of a block that grows by one observation. -/
theorem block_started (block : List ChallengeObservation) :
    ((block ++ [observation]).head?.map ChallengeObservation.time) =
      some ((block.head?.map ChallengeObservation.time).getD observation.time) := by
  cases block <;> rfl

/-- A positive difference of clocks is a real lapse of time. -/
theorem held_long {started now minimum : Nat} (positive : 0 < minimum)
    (held : minimum ≤ now - started) : started + minimum ≤ now := by
  omega

/-- An observation of the action is explained. -/
theorem explains_action (phase : session.phase = .action) (time : observation.time = timestamp)
    (explained : session.Explains accepted) :
    (session.advance observation timestamp).Explains (accepted ++ [observation]) := by
  unfold Explains at explained
  rw [phase] at explained
  obtain ⟨earlier, baseline, between, block, rfl, neutral, streak, shown, started⟩ := explained
  unfold advance
  rw [phase]
  unfold observeAction
  by_cases seen : session.config.ActionObserved session.action observation
  · simp only [seen, ↓reduceIte]
    have longer : saturatingAdd U8_MAX session.actionStreak 1 ≤
      (block ++ [observation]).length := by
      rw [List.length_append, List.length_singleton]
      exact (Nat.min_le_left _ _).trans (Nat.add_le_add_right streak 1)
    have all : ∀ seen ∈ block ++ [observation],
        session.config.ActionObserved session.action seen := by
      intro later member
      rcases List.mem_append.mp member with inside | last
      · exact shown later inside
      · rw [List.mem_singleton.mp last]
        exact seen
    have began : some (session.actionStreakStartedAtMicros.getD timestamp) =
        (block ++ [observation]).head?.map ChallengeObservation.time := by
      rw [block_started, started, time]
    by_cases enough : session.config.actionConsecutiveObservations ≤
          saturatingAdd U8_MAX session.actionStreak 1 ∧
        session.config.minimumActionDurationMicros ≤
          timestamp - session.actionStreakStartedAtMicros.getD timestamp
    · simp only [enough, and_self, ↓reduceIte]
      refine ⟨earlier, baseline, between, block ++ [observation], [], [], ?_, neutral,
        ⟨enough.1.trans longer, all, ?_⟩, Nat.le_refl _, List.forall_mem_nil _⟩
      · simp only [List.append_assoc, List.cons_append, List.append_nil]
      · obtain ⟨first, head, same⟩ := Option.map_eq_some_iff.mp began.symm
        refine ⟨first, observation, head, List.getLast?_concat .., ?_⟩
        rw [same, time]
        exact held_long session.minimum_positive enough.2
    · simp only [enough, ↓reduceIte]
      unfold Explains
      simp only [phase]
      exact ⟨earlier, baseline, between, block ++ [observation], by simp, neutral, longer, all,
        began⟩
  · simp only [seen, ↓reduceIte]
    unfold Explains
    simp only [phase]
    exact ⟨earlier, baseline, between ++ block ++ [observation], [], by simp, neutral,
      Nat.le_refl _, List.forall_mem_nil _, rfl⟩

/-- An observation after the action is explained. -/
theorem explains_recovery (phase : session.phase = .recovery)
    (explained : session.Explains accepted) :
    (session.advance observation timestamp).Explains (accepted ++ [observation]) := by
  unfold Explains at explained
  rw [phase] at explained
  obtain ⟨earlier, baseline, between, block, pause, recovery, rfl, first, acted, streak, back⟩ :=
    explained
  unfold advance
  rw [phase]
  unfold observeRecovery
  by_cases neutral : session.config.Neutral observation
  · simp only [neutral, ↓reduceIte]
    have longer : saturatingAdd U8_MAX session.recoveryStreak 1 ≤
        (recovery ++ [observation]).length := by
      rw [List.length_append, List.length_singleton]
      exact (Nat.min_le_left _ _).trans (Nat.add_le_add_right streak 1)
    have all : ∀ seen ∈ recovery ++ [observation], session.config.Neutral seen := by
      intro later member
      rcases List.mem_append.mp member with inside | last
      · exact back later inside
      · rw [List.mem_singleton.mp last]
        exact neutral
    by_cases enough : session.config.recoveryConsecutiveObservations ≤
        saturatingAdd U8_MAX session.recoveryStreak 1
    · simp only [enough, ↓reduceIte]
      exact ⟨earlier, baseline, between, block, pause, recovery ++ [observation], by simp, first,
        acted, enough.trans longer, all⟩
    · simp only [enough, ↓reduceIte]
      unfold Explains
      simp only [phase]
      exact ⟨earlier, baseline, between, block, pause, recovery ++ [observation], by simp, first,
        acted, longer, all⟩
  · simp only [neutral, ↓reduceIte]
    unfold Explains
    simp only [phase]
    exact ⟨earlier, baseline, between, block, pause ++ recovery ++ [observation], [], by simp,
      first, acted, Nat.le_refl _, List.forall_mem_nil _⟩

/-- An accepted observation extends the explanation of the ones before it. -/
theorem explains_advance (open_ : session.phase ≠ .passed) (time : observation.time = timestamp)
    (explained : session.Explains accepted) :
    (session.advance observation timestamp).Explains (accepted ++ [observation]) := by
  cases phase : session.phase with
  | baseline => exact explains_baseline phase explained
  | action => exact explains_action phase time explained
  | recovery => exact explains_recovery phase explained
  | passed => exact absurd phase open_

/-- The checks that let an observation count. -/
theorem screen_eq_ok_iff {shouldCancel : Bool} :
    session.screen observation shouldCancel = .ok timestamp ↔
      shouldCancel = false ∧ session.phase ≠ .passed ∧
      observation.validate session.config.maxPairSkewMicros = .ok () ∧
      observation.timestamp = .ok timestamp ∧ session.issuedAtMicros ≤ timestamp ∧
      timestamp ≤ session.deadlineMicros ∧
      (∀ last ∈ session.lastTimestampMicros, last < timestamp) ∧
      ∀ last ∈ session.lastSequences,
        last.1 ≠ observation.infraredSequence ∧ last.2 ≠ observation.visibleSequence := by
  simp only [screen, check_bind_eq_ok_iff, require_eq_ok_iff]
  rw [bind_eq_ok_iff]
  simp only [check_bind_eq_ok_iff, require_eq_ok_iff, Option.any_eq_false, decide_eq_false_iff_not,
    Nat.not_le, not_or]
  constructor
  · rintro ⟨active, open_, valid, found, stamped, issued, early, later, fresh, done⟩
    cases done
    exact ⟨active, open_, valid, stamped, issued, early, later, fresh⟩
  · rintro ⟨active, open_, valid, stamped, issued, early, later, fresh⟩
    exact ⟨active, open_, valid, timestamp, stamped, issued, early, later, fresh, rfl⟩

/-- The timestamp is the time of the observation. -/
theorem timestamp_time (stamped : observation.timestamp = .ok timestamp) :
    observation.time = timestamp := by
  unfold ChallengeObservation.timestamp at stamped
  unfold ChallengeObservation.time
  cases visible : observation.timing.visibleTimestampMicros with
  | none =>
      rw [visible] at stamped
      cases stamped
  | some moment =>
      rw [visible] at stamped
      cases stamped
      rfl

/-- A valid observation is well paired. -/
theorem validate_wellPaired {config : ChallengeConfig}
    (valid : observation.validate config.maxPairSkewMicros = .ok ()) :
    config.WellPaired observation := by
  simp only [ChallengeObservation.validate, check_bind_eq_ok_iff, require_eq_ok_iff,
    mapError_eq_ok_iff, CapturePolicy.accepts_eq_ok_iff, CapturePolicy.Admits] at valid
  obtain ⟨⟨-, paired⟩, single, -⟩ := valid
  cases visible : observation.timing.visibleTimestampMicros with
  | none =>
      rw [visible] at paired
      cases paired
  | some moment =>
      rw [visible] at paired
      exact ⟨⟨moment, visible, paired⟩, single⟩

/-- Advancing leaves the configuration and what was seen last. -/
theorem advance_unchanged (session : ChallengeSession) (observation : ChallengeObservation)
    (timestamp : Nat) :
    (session.advance observation timestamp).config = session.config ∧
      (session.advance observation timestamp).action = session.action ∧
      (session.advance observation timestamp).issuedAtMicros = session.issuedAtMicros ∧
      (session.advance observation timestamp).deadlineMicros = session.deadlineMicros ∧
      (session.advance observation timestamp).observations = session.observations ∧
      (session.advance observation timestamp).lastTimestampMicros = session.lastTimestampMicros ∧
      (session.advance observation timestamp).lastSequences = session.lastSequences := by
  unfold advance
  cases session.phase with
  | baseline =>
      dsimp only
      split_ifs <;> simp
  | action =>
      unfold observeAction
      dsimp only
      split_ifs <;> simp
  | recovery =>
      unfold observeRecovery
      dsimp only
      split_ifs <;> simp
  | passed => simp

end Step

/-- The session after an admitted observation was counted and recorded. -/
def recorded (session : ChallengeSession) (observation : ChallengeObservation)
    (timestamp : Nat) : ChallengeSession :=
  { session with
    observations := session.observations + 1
    lastTimestampMicros := some timestamp
    lastSequences := some observation.sequences }

/-- What one call can do. It refuses the observation, and then at most counts
it against the budget; or it records the observation and advances the phase. -/
inductive Observed (session : ChallengeSession) (observation : ChallengeObservation)
    (shouldCancel : Bool) : Except ChallengeError ChallengeProgress → ChallengeSession → Prop where
  | refused {error : ChallengeError} {observations : Nat}
      (grown : session.observations ≤ observations)
      (kept : error ≠ .observationBudgetExhausted → observations = session.observations) :
      Observed session observation shouldCancel (.error error) { session with observations }
  | accepted {timestamp : Nat} (admitted : session.screen observation shouldCancel = .ok timestamp)
      (budget : session.observations + 1 ≤ session.config.maxObservations) :
      Observed session observation shouldCancel
        (.ok ((session.recorded observation timestamp).advance observation timestamp).progress)
        ((session.recorded observation timestamp).advance observation timestamp)

/-- Every call stays inside the relation. -/
theorem observeCancellable_observed (session : ChallengeSession)
    (observation : ChallengeObservation) (shouldCancel : Bool) :
    session.Observed observation shouldCancel
      (session.observeCancellable observation shouldCancel).1
      (session.observeCancellable observation shouldCancel).2 := by
  unfold observeCancellable
  cases admitted : session.screen observation shouldCancel with
  | error error => exact .refused (Nat.le_refl _) fun _ => rfl
  | ok timestamp =>
      cases counted : checkedAdd U16_MAX session.observations 1 with
      | none => exact .refused (Nat.le_refl _) fun different => absurd rfl different
      | some observations =>
          obtain ⟨-, rfl⟩ := checkedAdd_eq_some_iff.mp counted
          dsimp only
          by_cases spent : session.config.maxObservations < session.observations + 1
          · rw [if_pos spent]
            exact .refused (Nat.le_succ _) fun different => absurd rfl different
          · rw [if_neg spent]
            exact .accepted admitted (Nat.le_of_not_lt spent)

/-- A cancelled call changes nothing. -/
theorem observeCancellable_cancelled (session : ChallengeSession)
    (observation : ChallengeObservation) :
    session.observeCancellable observation true = (.error .cancelled, session) := rfl

/-! ## Runs -/

/-- One call on the session. -/
def step (session : ChallengeSession) (call : ChallengeObservation × Bool) :
    Except ChallengeError ChallengeProgress × ChallengeSession :=
  session.observeCancellable call.1 call.2

end ChallengeSession

/-- One recorded call on a challenge session. -/
abbrev ChallengeEntry :=
  Entry ChallengeSession (ChallengeObservation × Bool) (Except ChallengeError ChallengeProgress)

/-- The observation of a call that was accepted. -/
def ChallengeEntry.accepted? (entry : ChallengeEntry) : Option ChallengeObservation :=
  match entry.output with
  | .ok _ => some entry.action.1
  | .error _ => none

/-- The observations that a history accepted, in order. -/
def acceptedOf (entries : List ChallengeEntry) : List ChallengeObservation :=
  entries.filterMap ChallengeEntry.accepted?

/-- What a session has to do with the observations it accepted. -/
structure ChallengeInvariant (config : ChallengeConfig) (action : ChallengeAction)
    (issuedAtMicros : Nat) (accepted : List ChallengeObservation) (session : ChallengeSession) :
    Prop where
  sameConfig : session.config = config
  sameAction : session.action = action
  sameIssue : session.issuedAtMicros = issuedAtMicros
  sameDeadline : session.deadlineMicros = issuedAtMicros + config.durationMicros
  counted : accepted.length ≤ session.observations
  bounded : accepted.length ≤ config.maxObservations
  lastTimestamp : session.lastTimestampMicros = accepted.getLast?.map ChallengeObservation.time
  lastSequences : session.lastSequences = accepted.getLast?.map ChallengeObservation.sequences
  fresh : accepted.IsChain FreshAfter
  within : ∀ observation ∈ accepted, issuedAtMicros ≤ observation.time ∧
    observation.time ≤ issuedAtMicros + config.durationMicros
  paired : ∀ observation ∈ accepted, config.WellPaired observation
  explained : session.Explains accepted

namespace ChallengeInvariant

variable {config : ChallengeConfig} {action : ChallengeAction} {issuedAtMicros : Nat}
  {accepted : List ChallengeObservation} {session : ChallengeSession}

/-- A challenge that was issued keeps its invariant. -/
theorem withAction (started : ChallengeSession.withAction config issuedAtMicros action =
      .ok session) :
    ChallengeInvariant config action issuedAtMicros [] session := by
  obtain ⟨configured, rfl⟩ := ChallengeSession.withAction_eq_ok started
  exact {
    sameConfig := rfl
    sameAction := rfl
    sameIssue := rfl
    sameDeadline := rfl
    counted := Nat.zero_le _
    bounded := Nat.zero_le _
    lastTimestamp := rfl
    lastSequences := rfl
    fresh := List.IsChain.nil
    within := List.forall_mem_nil _
    paired := List.forall_mem_nil _
    explained := ⟨rfl, rfl⟩ }

/-- A refused observation changes neither side of the invariant. -/
theorem refused (holds : ChallengeInvariant config action issuedAtMicros accepted session)
    {observations : Nat} (grown : session.observations ≤ observations) :
    ChallengeInvariant config action issuedAtMicros accepted { session with observations } :=
  { holds with counted := holds.counted.trans grown }

/-- An admitted observation is fresher than the last accepted one. -/
theorem fresh_append (holds : ChallengeInvariant config action issuedAtMicros accepted session)
    {observation : ChallengeObservation} {timestamp : Nat}
    (time : observation.time = timestamp)
    (later : ∀ last ∈ session.lastTimestampMicros, last < timestamp)
    (frames : ∀ last ∈ session.lastSequences,
      last.1 ≠ observation.infraredSequence ∧ last.2 ≠ observation.visibleSequence) :
    (accepted ++ [observation]).IsChain FreshAfter := by
  refine List.isChain_append.mpr ⟨holds.fresh, List.IsChain.singleton _, ?_⟩
  intro previous last next head
  cases head
  have earlier : previous.time ∈ session.lastTimestampMicros := by
    rw [holds.lastTimestamp, last]
    rfl
  have before : previous.sequences ∈ session.lastSequences := by
    rw [holds.lastSequences, last]
    rfl
  exact ⟨time ▸ later _ earlier, frames _ before⟩

/-- An accepted observation extends the invariant. -/
theorem accepted_append
    (holds : ChallengeInvariant config action issuedAtMicros accepted session)
    {observation : ChallengeObservation} {shouldCancel : Bool} {timestamp : Nat}
    (admitted : session.screen observation shouldCancel = .ok timestamp)
    (budget : session.observations + 1 ≤ session.config.maxObservations) :
    ChallengeInvariant config action issuedAtMicros (accepted ++ [observation])
      ((session.recorded observation timestamp).advance observation timestamp) := by
  obtain ⟨-, open_, valid, stamped, issued, early, later, frames⟩ :=
    ChallengeSession.screen_eq_ok_iff.mp admitted
  have time := ChallengeSession.timestamp_time stamped
  have paired := ChallengeSession.validate_wellPaired valid
  obtain ⟨keptConfig, keptAction, keptIssue, keptDeadline, keptCount, keptTime, keptSequences⟩ :=
    (session.recorded observation timestamp).advance_unchanged observation timestamp
  have counted : accepted.length + 1 ≤ session.observations + 1 :=
    Nat.add_le_add_right holds.counted 1
  rw [holds.sameConfig] at budget paired
  exact {
    sameConfig := keptConfig.trans holds.sameConfig
    sameAction := keptAction.trans holds.sameAction
    sameIssue := keptIssue.trans holds.sameIssue
    sameDeadline := keptDeadline.trans holds.sameDeadline
    counted := by
      rw [keptCount, List.length_append]
      exact counted
    bounded := by
      rw [List.length_append]
      exact counted.trans budget
    lastTimestamp := by
      rw [keptTime, List.getLast?_concat, Option.map_some, time]
      rfl
    lastSequences := by
      rw [keptSequences, List.getLast?_concat]
      rfl
    fresh := holds.fresh_append time later frames
    within := by
      intro seen member
      rcases List.mem_append.mp member with inside | last
      · exact holds.within seen inside
      · rw [List.mem_singleton.mp last, time, ← holds.sameIssue]
        refine ⟨issued, ?_⟩
        rw [holds.sameIssue, ← holds.sameDeadline]
        exact early
    paired := by
      intro seen member
      rcases List.mem_append.mp member with inside | last
      · exact holds.paired seen inside
      · rw [List.mem_singleton.mp last]
        exact paired
    explained := by
      have before : (session.recorded observation timestamp).Explains accepted := holds.explained
      exact ChallengeSession.explains_advance open_ time before }

/-- Every call keeps the invariant. -/
theorem step (holds : ChallengeInvariant config action issuedAtMicros accepted session)
    (call : ChallengeObservation × Bool) :
    ChallengeInvariant config action issuedAtMicros
      (accepted ++ acceptedOf [entryAt ChallengeSession.step session call])
      (session.step call).2 := by
  have taken := session.observeCancellable_observed call.1 call.2
  unfold acceptedOf ChallengeEntry.accepted?
  simp only [List.filterMap_cons, List.filterMap_nil, entryAt_output, entryAt_action]
  unfold ChallengeSession.step
  generalize session.observeCancellable call.1 call.2 = result at taken
  rcases result with ⟨output, next⟩
  cases taken with
  | refused grown kept =>
      rw [List.append_nil]
      exact holds.refused grown
  | accepted admitted budget => exact holds.accepted_append admitted budget

/-- The invariant holds after every run of calls. -/
theorem run (holds : ChallengeInvariant config action issuedAtMicros [] session)
    (calls : List (ChallengeObservation × Bool)) :
    ChallengeInvariant config action issuedAtMicros
      (acceptedOf (run ChallengeSession.step session calls))
      (final ChallengeSession.step session calls) := by
  have kept : ∀ (history : List ChallengeEntry) current call,
      ChallengeInvariant config action issuedAtMicros (acceptedOf history) current →
      ChallengeInvariant config action issuedAtMicros
        (acceptedOf (history ++ [entryAt ChallengeSession.step current call]))
        (ChallengeSession.step current call).2 := by
    intro history current call before
    unfold acceptedOf
    rw [List.filterMap_append]
    exact before.step call
  exact run_history holds kept calls

end ChallengeInvariant

/-! ## The contract -/

/-- Phase, streaks, dwell start and last frame agree. -/
structure SameStanding (before after : ChallengeSession) : Prop where
  phase : after.phase = before.phase
  actionStreak : after.actionStreak = before.actionStreak
  dwellStart : after.actionStreakStartedAtMicros = before.actionStreakStartedAtMicros
  recoveryStreak : after.recoveryStreak = before.recoveryStreak
  lastTimestamp : after.lastTimestampMicros = before.lastTimestampMicros
  lastSequences : after.lastSequences = before.lastSequences

/-- What every history of calls on a challenge session satisfies. -/
structure ChallengeContract (config : ChallengeConfig) (action : ChallengeAction)
    (issuedAtMicros : Nat) (entries : List ChallengeEntry) : Prop where
  /-- A call that passes ends a complete challenge among the accepted observations. -/
  passedSound : ∀ left entry right, entries = left ++ entry :: right →
    entry.output = .ok .passed →
      Recovering config action config.recoveryConsecutiveObservations
        (acceptedOf left ++ [entry.action.1])
  timestampsIncrease : (acceptedOf entries).Pairwise ChallengeObservation.Earlier
  timestampsWithin : ∀ observation ∈ acceptedOf entries, issuedAtMicros ≤ observation.time ∧
    observation.time ≤ issuedAtMicros + config.durationMicros
  wellPaired : ∀ observation ∈ acceptedOf entries, config.WellPaired observation
  framesDiffer : (acceptedOf entries).IsChain fun previous next =>
    previous.infraredSequence ≠ next.infraredSequence ∧
      previous.visibleSequence ≠ next.visibleSequence
  withinBudget : (acceptedOf entries).length ≤ config.maxObservations
  /-- An error leaves the challenge where it stood. -/
  errorKeeps : ∀ entry ∈ entries, ∀ error, entry.output = .error error →
    SameStanding entry.before entry.after
  /-- Only an exhausted budget is recorded at all, and a cancelled call never is. -/
  errorUnchanged : ∀ entry ∈ entries, ∀ error, entry.output = .error error →
    error ≠ .observationBudgetExhausted → entry.after = entry.before
  /-- A cancelled call is refused before anything else. -/
  cancelledRefused : ∀ entry ∈ entries, entry.action.2 = true →
    entry.output = .error .cancelled ∧ entry.after = entry.before

namespace ChallengeSession

/-- An error at most counts the observation against the budget. -/
theorem step_error {session : ChallengeSession} {call : ChallengeObservation × Bool}
    {error : ChallengeError} (failed : (session.step call).1 = .error error) :
    SameStanding session (session.step call).2 ∧
      (error ≠ .observationBudgetExhausted → (session.step call).2 = session) := by
  have taken := session.observeCancellable_observed call.1 call.2
  unfold step at failed ⊢
  generalize session.observeCancellable call.1 call.2 = result at taken failed
  rcases result with ⟨output, next⟩
  cases taken with
  | refused grown kept =>
      cases failed
      refine ⟨⟨rfl, rfl, rfl, rfl, rfl, rfl⟩, fun other => ?_⟩
      rw [kept other]
  | accepted admitted budget => cases failed

/-- The progress that a call reports is that of the session it leaves. -/
theorem step_progress {session : ChallengeSession} {call : ChallengeObservation × Bool}
    {progress : ChallengeProgress} (answered : (session.step call).1 = .ok progress) :
    (session.step call).2.progress = progress := by
  have taken := session.observeCancellable_observed call.1 call.2
  unfold step at answered ⊢
  generalize session.observeCancellable call.1 call.2 = result at taken answered
  rcases result with ⟨output, next⟩
  cases taken with
  | refused grown kept => cases answered
  | accepted admitted budget =>
      cases answered
      rfl

/-- A challenge has passed in its last phase. -/
theorem progress_passed {session : ChallengeSession} (passed : session.progress = .passed) :
    session.phase = .passed := by
  unfold progress at passed
  cases phase : session.phase with
  | passed => rfl
  | baseline => rw [phase] at passed; cases passed
  | action => rw [phase] at passed; cases passed
  | recovery => rw [phase] at passed; cases passed

end ChallengeSession

/-- A call that passes leaves a complete challenge behind it. -/
theorem ChallengeInvariant.passed {config : ChallengeConfig} {action : ChallengeAction}
    {issuedAtMicros : Nat} {session : ChallengeSession}
    (holds : ChallengeInvariant config action issuedAtMicros [] session)
    {calls : List (ChallengeObservation × Bool)} {left right : List ChallengeEntry}
    {entry : ChallengeEntry}
    (split : Foundation.run ChallengeSession.step session calls = left ++ entry :: right)
    (passed : entry.output = .ok .passed) :
    Recovering config action config.recoveryConsecutiveObservations
      (acceptedOf left ++ [entry.action.1]) := by
  obtain ⟨first, second, -, rfl, taken, -⟩ := run_split_entry ChallengeSession.step split
  have before := holds.run first
  have after := before.step entry.action
  rw [taken, entryAt_output] at passed
  have accepted : acceptedOf [entryAt ChallengeSession.step
      (final ChallengeSession.step session first) entry.action] = [entry.action.1] := by
    simp only [acceptedOf, ChallengeEntry.accepted?, List.filterMap_cons, List.filterMap_nil,
      entryAt_output, passed, entryAt_action]
  rw [accepted] at after
  have explained := after.explained
  unfold ChallengeSession.Explains at explained
  rw [ChallengeSession.progress_passed (ChallengeSession.step_progress passed)] at explained
  rw [after.sameConfig, after.sameAction] at explained
  exact explained

/-- Every history of calls on a fresh challenge satisfies the challenge contract. -/
theorem challenge_contract {config : ChallengeConfig} {action : ChallengeAction}
    {issuedAtMicros : Nat} {session : ChallengeSession}
    (started : ChallengeSession.withAction config issuedAtMicros action = .ok session)
    (calls : List (ChallengeObservation × Bool)) :
    ChallengeContract config action issuedAtMicros (run ChallengeSession.step session calls) := by
  have holds := (ChallengeInvariant.withAction started).run calls
  have increasing : (acceptedOf (run ChallengeSession.step session calls)).IsChain
      ChallengeObservation.Earlier := holds.fresh.imp fun _ _ fresh => fresh.1
  exact {
    passedSound := fun left entry right split passed =>
      (ChallengeInvariant.withAction started).passed split passed
    timestampsIncrease := List.isChain_iff_pairwise.mp increasing
    timestampsWithin := holds.within
    wellPaired := holds.paired
    framesDiffer := holds.fresh.imp fun _ _ fresh => fresh.2
    withinBudget := holds.bounded
    errorKeeps := fun entry member error failed => by
      obtain ⟨first, second, -, taken⟩ := mem_run _ member
      rw [taken] at failed ⊢
      exact (ChallengeSession.step_error failed).1
    errorUnchanged := fun entry member error failed other => by
      obtain ⟨first, second, -, taken⟩ := mem_run _ member
      rw [taken] at failed ⊢
      exact (ChallengeSession.step_error failed).2 other
    cancelledRefused := fun entry member cancelled => by
      obtain ⟨first, second, -, taken⟩ := mem_run _ member
      rw [taken, entryAt_output, entryAt_after, entryAt_before, ChallengeSession.step, cancelled]
      exact ⟨rfl, rfl⟩ }

/-- A calibration for the blink challenge below. -/
def blinkConfig : ChallengeConfig where
  maxPairSkewMicros := 100_000
  durationMicros := 10_000_000
  maxObservations := 90
  openEyeThreshold := 0.65
  closedEyeThreshold := 0.25
  neutralYawDegrees := 10.0
  turnYawDegrees := 20.0
  actionConsecutiveObservations := 2
  minimumActionDurationMicros := 50_000
  recoveryConsecutiveObservations := 2

/-- An observation at a time, with the sequence numbers and eye openness given. -/
def blinkObservation (timestamp : Nat) (sequence : UInt32) (eyes : Float32) :
    ChallengeObservation where
  timing := ⟨timestamp, some (timestamp + 10_000)⟩
  infraredSequence := sequence
  visibleSequence := sequence + 100
  faceCount := 1
  eyeOpenness := eyes
  yawDegrees := 0.0

/-- A baseline, a cancelled call, two closed observations and two open ones. -/
def blinkCalls : List (ChallengeObservation × Bool) :=
  [(blinkObservation 1_100_000 1 0.8, false), (blinkObservation 1_150_000 2 0.1, true),
    (blinkObservation 1_200_000 2 0.1, false), (blinkObservation 1_300_000 3 0.1, false),
    (blinkObservation 1_400_000 4 0.8, false), (blinkObservation 1_500_000 5 0.8, false)]

/-- The configuration of the example is valid. -/
theorem blinkConfig_valid : blinkConfig.validate = .ok () := by decide +kernel

/-- The contract at a challenge that passes. -/
theorem challenge_contract_blink :
    (run ChallengeSession.step
        (.issued blinkConfig blinkConfig_valid .blink 1_000_000 11_000_000) blinkCalls).map
      Entry.output =
        [.ok (.actionRequired .blink), .error .cancelled, .ok (.actionRequired .blink),
          .ok .recoveryRequired, .ok .recoveryRequired, .ok .passed] ∧
    ChallengeContract blinkConfig .blink 1_000_000
      (run ChallengeSession.step
        (.issued blinkConfig blinkConfig_valid .blink 1_000_000 11_000_000) blinkCalls) :=
  ⟨by decide +kernel, challenge_contract
    (ChallengeSession.withAction_of_valid blinkConfig_valid (by decide) .blink) blinkCalls⟩

end FaceAuth
