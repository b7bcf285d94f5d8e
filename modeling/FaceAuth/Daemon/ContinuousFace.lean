import FaceAuth.Daemon.Freshness

/-!
# One face throughout the challenge

A pair that does not show one whole face is sent back before the challenge sees
it, so that neither the phase nor a running streak of the challenge changes. What
the challenge counts as consecutive is consecutive among the captured pairs as
long as no pair is sent back while a streak runs.
-/

namespace FaceAuth

open Foundation ObservationEnvironment

/-! ## Streaks -/

namespace ChallengeSession

/-- The challenge is past its baseline and has not passed. -/
def IsMeasuring (session : ChallengeSession) : Prop :=
  session.phase = .action ∨ session.phase = .recovery

/-- How many observations the challenge counts as consecutive at present. -/
def streak (session : ChallengeSession) : Nat :=
  match session.phase with
  | .action => session.actionStreak
  | .recovery => session.recoveryStreak
  | .baseline | .passed => 0

/-- Before the baseline no action is counted. -/
def Unstarted (session : ChallengeSession) : Prop :=
  session.phase = .baseline → session.actionStreak = 0

variable {session : ChallengeSession}

/-- Saturating addition of one adds at most one. -/
theorem saturatingAdd_le (count : Nat) : saturatingAdd U8_MAX count 1 ≤ count + 1 := by
  unfold saturatingAdd
  omega

/-- One observation lengthens the streak by at most one, and the session still waits. -/
theorem advance_streak (unstarted : session.Unstarted) (observation : ChallengeObservation)
    (timestamp : Nat) :
    (session.advance observation timestamp).streak ≤ session.streak + 1 ∧
      (session.advance observation timestamp).Unstarted := by
  unfold Unstarted streak advance at *
  cases phase : session.phase with
  | baseline =>
      have none := unstarted phase
      dsimp only
      split_ifs <;> simp [phase, none]
  | action =>
      have counts := saturatingAdd_le session.actionStreak
      unfold observeAction
      dsimp only
      split_ifs <;> simp [phase, counts]
  | recovery =>
      have counts := saturatingAdd_le session.recoveryStreak
      unfold observeRecovery
      dsimp only
      split_ifs <;> simp [phase, counts]
  | passed => simp [phase]

end ChallengeSession

/-! ## What a session knows of its challenge -/

section Rounds

variable {Value : Type} {environment : ObservationEnvironment Value} {config : ChallengeConfig}
  {locals next : Locals} {pair : PairedFrames} {landmarks : FacialLandmarks}
  {history earlier added work rest tail : ObservationHistory} {failure : ObservationFailure}
  {result : Except ObservationFailure (Locals ⊕ Value)}

/-- An event other than the passing of a challenge. -/
def ObservationEvent.Unpassing : ObservationEvent → Prop
  | .challenged _ result => result ≠ .ok .passed
  | _ => True

/-- Work in the background passes no face. -/
theorem unpassing_of_background (background : ∀ event ∈ work, event.IsBackground) :
    ∀ event ∈ work, event.Unpassing := by
  intro event member
  have known := background event member
  cases event <;> trivial

/-- Work that detects nothing passes no face. -/
theorem unpassing_of_quiet (quiet : AllQuiet work) : ∀ event ∈ work, event.Unpassing :=
  unpassing_of_background fun event member => (quiet event member).background

/-- The challenge of a session has passed exactly when the session saw it pass. -/
structure Tracks (locals : Locals) (history : ObservationHistory) : Prop where
  waits : locals.challengePassed = false → ∀ event ∈ history, event.Unpassing
  passed : locals.challengePassed = true →
    ∀ challenge ∈ locals.challenge, challenge.phase = .passed
  unstarted : ∀ challenge ∈ locals.challenge, challenge.Unstarted

/-- The streak of the challenge of a session. -/
def ObservationEnvironment.Locals.streak (locals : Locals) : Nat :=
  locals.challenge.elim 0 ChallengeSession.streak

/-- What a pair does to the streak of the challenge. -/
theorem offered_counts {state : ChallengeProgress} {challenge : ChallengeSession}
    (offered : environment.Offered config locals pair landmarks earlier work
      (.ok state, challenge))
    (unstarted : ∀ challenge ∈ locals.challenge, challenge.Unstarted) :
    challenge.streak ≤ locals.streak + 1 ∧ challenge.Unstarted ∧
      (state = .passed → challenge.phase = .passed) := by
  obtain ⟨begins, active, shouldCancel, -, begun, answered⟩ := offered
  have calm : active.streak = locals.streak ∧ active.Unstarted := by
    cases begun with
    | ongoing old => exact ⟨by rw [Locals.streak, old]; rfl, unstarted active old⟩
    | begins none drawn started =>
        obtain ⟨configured, rfl⟩ := ChallengeSession.withAction_eq_ok started
        exact ⟨by rw [Locals.streak, none]; rfl, fun _ => rfl⟩
  have observed := active.observeCancellable_observed (pair.challengeObservation landmarks)
    shouldCancel
  rw [answered] at observed
  rw [← calm.1]
  generalize same : (Except.ok state : Except ChallengeError ChallengeProgress) = given at observed
  cases observed with
  | refused grown kept => cases same
  | @accepted timestamp admitted budget =>
      have kept : (active.recorded (pair.challengeObservation landmarks) timestamp).Unstarted :=
        calm.2
      obtain ⟨counts, still⟩ := ChallengeSession.advance_streak kept
        (pair.challengeObservation landmarks) timestamp
      refine ⟨counts, still, fun passes => ChallengeSession.progress_passed ?_⟩
      rw [← passes]
      exact (Except.ok.inj same).symm

/-- What a session keeps of its challenge once it has passed. -/
theorem observed_keeps (observed : environment.Observed locals pair history
    (.ok (.inl next)) added) :
    next.challenge = locals.challenge ∧ next.challengePassed = locals.challengePassed := by
  generalize same : (Except.ok (.inl next) : Except ObservationFailure (Locals ⊕ Value)) = given
    at observed
  cases observed with
  | underived quiet failure => cases same
  | handed quiet timing last =>
      subst same
      split at last <;> simp at last
  | continues quiet timing left told =>
      cases next_of_told told same.symm
      exact ⟨rfl, rfl⟩

/-- A pair whose challenge goes on leaves the session waiting. -/
theorem offered_waits {state : ChallengeProgress} {challenge : ChallengeSession}
    (offered : environment.Offered config locals pair landmarks earlier work
      (.ok state, challenge))
    (tracks : Tracks locals history) (quiet : AllQuiet work) (goesOn : state ≠ .passed)
    (silent : ∀ event ∈ tail, event.Unpassing) (waits : locals.challengePassed = false)
    (kept : next.challengePassed = locals.challengePassed)
    (given : next.challenge = some challenge) :
    Tracks next (history ++ (work ++ .challenged pair (.ok state) :: tail)) ∧
      next.streak ≤ locals.streak + 1 := by
  obtain ⟨counts, unstarted, -⟩ := offered_counts offered tracks.unstarted
  have unpassing : (ObservationEvent.challenged pair (.ok state)).Unpassing :=
    fun passes => goesOn (Except.ok.inj passes)
  refine ⟨⟨fun _ => ?_, fun passed => ?_, fun other found => ?_⟩, ?_⟩
  · refine List.forall_mem_append.mpr ⟨tracks.waits waits, ?_⟩
    refine List.forall_mem_append.mpr ⟨unpassing_of_quiet quiet, ?_⟩
    exact List.forall_mem_cons.mpr ⟨unpassing, silent⟩
  · rw [kept, waits] at passed
    cases passed
  · rw [given] at found
    cases found
    exact unstarted
  · rw [Locals.streak, given]
    exact counts

/-- What a pair with one face makes of a session that goes on. -/
theorem judged_tracks (tracks : Tracks locals history)
    (judged : environment.Judged config locals pair landmarks earlier (.ok (.inl next)) added) :
    Tracks next (history ++ added) ∧ next.streak ≤ locals.streak + 1 := by
  generalize same : (Except.ok (.inl next) : Except ObservationFailure (Locals ⊕ Value)) = given
    at judged
  cases judged with
  | observes passed observed =>
      subst same
      obtain ⟨challenge, still⟩ := observed_keeps observed
      refine ⟨⟨fun waits => ?_, fun _ => ?_, ?_⟩, ?_⟩
      · rw [still, passed] at waits
        cases waits
      · rw [challenge]
        exact tracks.passed passed
      · rw [challenge]
        exact tracks.unstarted
      · rw [Locals.streak, challenge]
        exact Nat.le_succ _
  | unbegun waits quiet failure => cases same
  | rejected waits quiet quietly failure => cases same
  | unchanged waits quiet offered goesOn unchanged =>
      cases same
      exact offered_waits offered tracks quiet goesOn (List.forall_mem_nil _) waits rfl rfl
  | prompted waits quiet offered goesOn changed told =>
      cases next_of_told told same.symm
      exact offered_waits offered tracks quiet goesOn
        (by simp [ObservationEvent.Unpassing]) waits rfl rfl
  | passes waits quiet offered observed =>
      subst same
      obtain ⟨challenge, still⟩ := observed_keeps observed
      obtain ⟨counts, unstarted, passed⟩ := offered_counts offered tracks.unstarted
      refine ⟨⟨fun waits => ?_, fun _ other found => ?_, fun other found => ?_⟩, ?_⟩
      · rw [still] at waits
        cases waits
      · rw [challenge] at found
        cases found
        exact passed rfl
      · rw [challenge] at found
        cases found
        exact unstarted
      · rw [Locals.streak, challenge]
        exact counts

/-- Nothing that comes before the challenge sees the pair makes the challenge pass. -/
theorem unpassing_of_pair (quiet : AllQuiet work) (background : ∀ event ∈ rest, event.IsBackground)
    (silent : ∀ event ∈ tail, event.Unpassing) :
    ∀ event ∈ work ++ .captured pair :: .admitted pair :: rest ++ tail, event.Unpassing := by
  refine List.forall_mem_append.mpr ⟨?_, silent⟩
  refine List.forall_mem_append.mpr ⟨unpassing_of_quiet quiet, ?_⟩
  refine List.forall_mem_cons.mpr ⟨trivial, List.forall_mem_cons.mpr ⟨trivial, ?_⟩⟩
  exact unpassing_of_background background

/-- What passes no face leaves the streak as it was. -/
theorem Tracks.append (tracks : Tracks locals history)
    (silent : ∀ event ∈ added, event.Unpassing) : Tracks locals (history ++ added) :=
  { tracks with
    waits := fun waits => List.forall_mem_append.mpr ⟨tracks.waits waits, silent⟩ }

/-- After the challenge there is no streak to keep. -/
theorem Tracks.streak_eq_zero (tracks : Tracks locals history)
    (passed : locals.challengePassed = true) : locals.streak = 0 := by
  unfold Locals.streak
  cases found : locals.challenge with
  | none => rfl
  | some challenge =>
      simp [ChallengeSession.streak, tracks.passed passed challenge found]

/-- A pair with one face goes to the challenge or to the callback. -/
theorem Tracks.positioned (tracks : Tracks locals history) (quiet : AllQuiet work)
    (background : ∀ event ∈ rest, event.IsBackground)
    (judged : environment.Judged config { locals with previousPair := some (.fromPair pair) } pair
      landmarks earlier (.ok (.inl next)) added) :
    Tracks next (history ++ (work ++ .captured pair :: .admitted pair :: rest ++
      .processed pair (.ok landmarks) :: added)) ∧ next.streak ≤ locals.streak + 1 := by
  have met : ∀ event ∈ work ++ .captured pair :: .admitted pair :: rest ++
      [.processed pair (.ok landmarks)], event.Unpassing :=
    unpassing_of_pair quiet background (by simp [ObservationEvent.Unpassing])
  have before := tracks.append met
  have located : Tracks { locals with previousPair := some (.fromPair pair) } _ :=
    ⟨before.waits, before.passed, before.unstarted⟩
  obtain ⟨after, counts⟩ := judged_tracks located judged
  exact ⟨by simpa using after, counts⟩

/-- A round that goes on keeps count of the streak. -/
theorem Tracks.round (tracks : Tracks locals history)
    (round : environment.Round config locals history (.ok (.inl next)) added) :
    Tracks next (history ++ added) := by
  generalize same : (Except.ok (.inl next) : Except ObservationFailure (Locals ⊕ Value)) = given
    at round
  cases round with
  | unpaired quiet failure => cases same
  | stale quiet remembered old => cases same
  | unprocessed quiet fresh background => cases same
  | @repositioned work rest pair _ _ quiet fresh background detected sent told =>
      cases next_of_told told same.symm
      have met : ∀ event ∈ work ++ .captured pair :: .admitted pair :: rest ++
          [.processed pair (.error .retryPosition), .reported .positionFace], event.Unpassing :=
        unpassing_of_pair quiet background (by simp [ObservationEvent.Unpassing])
      have kept := tracks.append met
      exact ⟨kept.waits, kept.passed, kept.unstarted⟩
  | @positioned work rest later pair landmarks _ quiet fresh background detected kept judged =>
      subst same
      exact (tracks.positioned quiet background judged).1

/-! ## What sends a pair back -/

/-- What sends a pair back is told between its capture and its use. -/
theorem sentBack_pair (quiet : AllQuiet work) :
    SentBack environment history (work ++ .captured pair :: .admitted pair :: rest ++ tail) ↔
      SentBack environment (history ++ work ++ [.captured pair, .admitted pair]) rest ∨
        SentBack environment (history ++ (work ++ .captured pair :: .admitted pair :: rest))
          tail := by
  have regroup : work ++ .captured pair :: .admitted pair :: rest =
      work ++ ([.captured pair, .admitted pair] ++ rest) := rfl
  have marks : ∀ earlier, ¬ SentBack environment earlier [.captured pair, .admitted pair] := by
    simp [SentBack, Misses]
  rw [environment.sentBack_append]
  refine or_congr_left ?_
  rw [regroup, environment.sentBack_append, environment.sentBack_append,
    or_iff_right (environment.not_sentBack_of_quiet quiet), or_iff_right (marks _)]

/-- The first count decides. -/
theorem detection_append {answer : Except InferenceError Nat}
    (counted : detection environment history work = some answer) :
    detection environment history (work ++ rest) = some answer := by
  induction work generalizing history with
  | nil => cases counted
  | cons event work ih =>
      by_cases count : event = .worked .detections
      · rw [count, detection] at counted
        rw [count, List.cons_append, detection, counted]
      · rw [environment.detection_cons count] at counted
        rw [List.cons_append, environment.detection_cons count]
        exact ih counted

/-- The answer of the detector to a pair of the round is the one in the history. -/
theorem detection_pair {answer : Except InferenceError Nat} (quiet : AllQuiet work)
    (counted : detection environment (history ++ work ++ [.captured pair, .admitted pair]) rest =
      some answer) :
    detection environment history
      (work ++ .captured pair :: .admitted pair :: rest ++ tail) = some answer := by
  rw [List.append_assoc, environment.detection_of_quiet quiet, List.cons_append,
    environment.detection_cons (by simp), List.cons_append, environment.detection_cons (by simp)]
  refine detection_append ?_
  simpa only [List.append_assoc, List.singleton_append] using counted

/-- Faces are counted in captured pairs only. -/
theorem captured_of_detection {answer : Except InferenceError Nat}
    (counted : detection environment history added = some answer)
    (round : environment.Round config locals history result added) :
    ∃ pair, .captured pair ∈ added := by
  cases round with
  | unpaired quiet failure =>
      have none := @detection_of_quiet _ environment history _ [] quiet
      rw [List.append_nil, counted] at none
      cases none
  | @stale work pair _ _ _ _ => exact ⟨pair, by simp⟩
  | @unprocessed work rest pair _ _ _ _ => exact ⟨pair, by simp⟩
  | @repositioned work rest pair _ _ _ _ _ _ _ _ => exact ⟨pair, by simp⟩
  | @positioned work rest later pair _ _ _ _ _ _ _ _ => exact ⟨pair, by simp⟩

/-- A pair with a count of faces other than one is sent back, or ends the session. -/
theorem round_captured (round : environment.Round config locals history result added)
    (captured : .captured pair ∈ added) :
    (∃ faces, detection environment history added = some (.ok faces)) ∨
      ∃ failure, result = .error failure ∧ ∀ event ∈ added, event.Unpassing := by
  cases round with
  | unpaired quiet failure => exact (quiet _ captured).elim
  | stale quiet remembered old =>
      refine .inr ⟨_, rfl, List.forall_mem_append.mpr ⟨unpassing_of_quiet quiet, ?_⟩⟩
      simp [ObservationEvent.Unpassing]
  | unprocessed quiet fresh background =>
      refine .inr ⟨_, rfl, unpassing_of_pair quiet background ?_⟩
      simp [ObservationEvent.Unpassing]
  | repositioned quiet fresh background detected sent told =>
      exact .inl ⟨_, detection_pair quiet detected⟩
  | positioned quiet fresh background detected kept judged =>
      exact .inl ⟨1, detection_pair quiet detected⟩

/-- Once a pair is processed, nothing locates its face again. -/
theorem judged_unlocating
    (judged : environment.Judged config locals pair landmarks history result added) :
    ∀ event ∈ added, ∀ step, event = .worked step → ¬ step.Locates := by
  have derived : ∀ {locals earlier added}, environment.Observed locals pair earlier result added →
      ∀ event ∈ added, ∀ step, event = .worked step → ¬ step.Locates := by
    intro locals earlier added observed
    cases observed with
    | underived quiet failure => simpa using quiet.unlocating
    | handed quiet timing last =>
        have silent := quiet.unlocating
        simp only [List.cons_append, List.forall_mem_cons, List.forall_mem_append]
        exact ⟨by simp, silent, by simp⟩
    | continues quiet timing left told =>
        have silent := quiet.unlocating
        simp only [List.cons_append, List.forall_mem_cons, List.forall_mem_append]
        exact ⟨by simp, silent, by simp⟩
  cases judged with
  | observes passed observed => exact derived observed
  | unbegun waits quiet failure => exact quiet.unlocating
  | rejected waits quiet quietly failure =>
      refine List.forall_mem_append.mpr ⟨quiet.unlocating, ?_⟩
      exact List.forall_mem_cons.mpr ⟨by simp, quietly.unlocating⟩
  | unchanged waits quiet offered goesOn same =>
      exact List.forall_mem_append.mpr ⟨quiet.unlocating, by simp⟩
  | prompted waits quiet offered goesOn changed told =>
      exact List.forall_mem_append.mpr ⟨quiet.unlocating, by simp⟩
  | passes waits quiet offered observed =>
      refine List.forall_mem_append.mpr ⟨quiet.unlocating, ?_⟩
      exact List.forall_mem_cons.mpr ⟨by simp, derived observed⟩

/-- A pair that is sent back leaves the challenge as it was, or ends the session. -/
theorem round_of_sentBack (sent : SentBack environment history added)
    (round : environment.Round config locals history result added) :
    (∃ failure, result = .error failure ∧ ∀ event ∈ added, event.Unpassing) ∨
      ∃ next, result = .ok (.inl next) ∧ next.challenge = locals.challenge := by
  cases round with
  | unpaired quiet failure => exact (environment.not_sentBack_of_quiet quiet sent).elim
  | stale quiet remembered old =>
      rw [environment.sentBack_append] at sent
      rcases sent with sent | sent
      · exact (environment.not_sentBack_of_quiet quiet sent).elim
      · simp [SentBack, Misses] at sent
  | unprocessed quiet fresh background =>
      refine .inl ⟨_, rfl, unpassing_of_pair quiet background ?_⟩
      simp [ObservationEvent.Unpassing]
  | repositioned quiet fresh background detected sent told =>
      rcases told with ⟨failure, rfl⟩ | rfl
      · refine .inl ⟨failure, rfl, unpassing_of_pair quiet background ?_⟩
        simp [ObservationEvent.Unpassing]
      · exact .inr ⟨_, rfl, rfl⟩
  | positioned quiet fresh background detected kept judged =>
      have whole := mt (Tells.sentBack_iff environment kept).mp (by simp)
      rw [sentBack_pair quiet, or_iff_right whole] at sent
      refine (environment.not_sentBack ?_ sent).elim
      exact List.forall_mem_cons.mpr ⟨by simp, judged_unlocating judged⟩

/-! ## Streaks and captured pairs -/

/-- The last captured pairs are the last pairs of the challenge. -/
def Consecutive (streak : Nat) (history : ObservationHistory) : Prop :=
  ∃ run : List PairedFrames, run.length = streak ∧
    run <:+ (pairHistory history).captured ∧ run <:+ (pairHistory history).challenged

/-- No pairs are consecutive in any history. -/
theorem consecutive_zero (history : ObservationHistory) : Consecutive 0 history :=
  ⟨[], rfl, List.nil_suffix, List.nil_suffix⟩

/-- A pair that the challenge saw extends the run. -/
theorem Consecutive.extend {streak longer : Nat} (run : Consecutive streak history)
    (captured : (pairHistory (history ++ added)).captured =
      (pairHistory history).captured ++ [pair])
    (challenged : (pairHistory (history ++ added)).challenged =
      (pairHistory history).challenged ++ [pair])
    (counts : longer ≤ streak + 1) : Consecutive longer (history ++ added) := by
  obtain ⟨run, length, inCaptured, inChallenged⟩ := run
  refine ⟨(run ++ [pair]).drop (streak + 1 - longer), ?_, ?_, ?_⟩
  · rw [List.length_drop, List.length_append, length, List.length_singleton]
    omega
  · rw [captured]
    exact (List.drop_suffix _ _).trans (List.suffix_append_self_iff.mpr inCaptured)
  · rw [challenged]
    exact (List.drop_suffix _ _).trans (List.suffix_append_self_iff.mpr inChallenged)

/-- A pair with one face is offered to a challenge that has not passed. -/
theorem judged_challenged
    (judged : environment.Judged config locals pair landmarks history (.ok (.inl next)) added)
    (pairs : PairHistory) :
    (added.foldl PairHistory.record pairs).captured = pairs.captured ∧
      ((added.foldl PairHistory.record pairs).challenged = pairs.challenged ++ [pair] ∨
        next.challengePassed = true) := by
  refine ⟨(judged_pairs judged pairs).1.captured, ?_⟩
  generalize same : (Except.ok (.inl next) : Except ObservationFailure (Locals ⊕ Value)) = given
    at judged
  cases judged with
  | observes passed observed =>
      subst same
      exact .inr ((observed_keeps observed).2.trans passed)
  | unbegun waits quiet failure => cases same
  | rejected waits quiet quietly failure => cases same
  | unchanged waits quiet offered goesOn unchanged =>
      rw [List.foldl_append, record_quiet quiet]
      exact .inl rfl
  | prompted waits quiet offered goesOn changed told =>
      rw [List.foldl_append, record_quiet quiet]
      exact .inl rfl
  | passes waits quiet offered observed =>
      subst same
      exact .inr (observed_keeps observed).2

/-- While no pair is sent back, a streak is a run of captured pairs. -/
theorem Tracks.consecutive (tracks : Tracks locals history)
    (run : Consecutive locals.streak history)
    (steady : 0 < locals.streak → ¬ SentBack environment history added)
    (round : environment.Round config locals history (.ok (.inl next)) added) :
    Consecutive next.streak (history ++ added) := by
  generalize same : (Except.ok (.inl next) : Except ObservationFailure (Locals ⊕ Value)) = given
    at round
  cases round with
  | unpaired quiet failure => cases same
  | stale quiet remembered old => cases same
  | unprocessed quiet fresh background => cases same
  | repositioned quiet fresh background detected sent told =>
      cases next_of_told told same.symm
      have still : locals.streak = 0 := by
        by_contra running
        have back := (Tells.sentBack_iff environment sent).mpr rfl
        exact steady (Nat.pos_of_ne_zero running) ((sentBack_pair quiet).mpr (.inl back))
      change Consecutive locals.streak _
      rw [still]
      exact consecutive_zero _
  | @positioned work rest later pair landmarks _ quiet fresh background detected kept judged =>
      subst same
      obtain ⟨after, counts⟩ := tracks.positioned quiet background judged
      obtain ⟨captured, challenged⟩ := judged_challenged judged
        (pairHistory (history ++ (work ++ .captured pair :: .admitted pair :: rest ++
          [.processed pair (.ok landmarks)])))
      have regroup : work ++ .captured pair :: .admitted pair :: rest ++
          .processed pair (.ok landmarks) :: later = work ++ .captured pair :: .admitted pair ::
            rest ++ [.processed pair (.ok landmarks)] ++ later := by
        simp
      rw [← pairHistory_concat, List.append_assoc, ← regroup] at captured challenged
      have before : (pairHistory (history ++ (work ++ .captured pair :: .admitted pair :: rest ++
          [.processed pair (.ok landmarks)]))) = { pairHistory history with
            captured := (pairHistory history).captured ++ [pair]
            admitted := (pairHistory history).admitted ++ [pair] } := by
        simp [pairHistory_concat, record_quiet quiet, record_background background,
          PairHistory.record]
      rw [before] at captured challenged
      rcases challenged with challenged | passed
      · exact run.extend captured challenged counts
      · rw [after.streak_eq_zero passed]
        exact consecutive_zero _

end Rounds

/-! ## Whole sessions -/

section Session

variable {Value : Type} (pipeline : ProductionObservationPipeline)
  (environment : ObservationEnvironment Value) (config : ChallengeConfig)

/-- The challenge of the session passes. -/
def ChallengePasses : Prop :=
  ∃ pair, .challenged pair (.ok .passed) ∈ (pipeline.runSession environment config []).state

/-- A moment of the session after the neutral baseline and before the challenge passes, and
what the next pair adds. -/
structure Measures (locals : Locals) (history added : ObservationHistory) : Prop where
  underway : ∃ remaining, Underway pipeline environment config (remaining + 1) locals history
  measuring : ∃ challenge ∈ locals.challenge, challenge.IsMeasuring
  adds : (environment.nextPair pipeline.pairing config locals history).state = history ++ added

/-- If the challenge passes, one face was detected in every pair captured between the baseline
and the passing pair. A pair that is sent back in between fails the session or resets the
streak, so that a streak is a run of captured pairs. -/
structure ContinuousFace : Prop where
  single : ChallengePasses pipeline environment config → ∀ locals history added,
    Measures pipeline environment config locals history added →
      ∀ pair, .captured pair ∈ added → detection environment history added = some (.ok 1)
  resets : ∀ locals history added, Measures pipeline environment config locals history added →
    SentBack environment history added →
      (∃ failure, (environment.nextPair pipeline.pairing config locals history).result =
        .error failure) ∨
      ∃ next, (environment.nextPair pipeline.pairing config locals history).result =
        .ok (.inl next) ∧ next.streak = 0
  consecutive : ∀ remaining locals history,
    Underway pipeline environment config remaining locals history →
      Consecutive locals.streak history

/-- Between the baseline and the passing pair the detector counts one face in every pair, and
no pair is sent back while a streak runs. -/
structure FaceKept : Prop where
  counted : ∀ locals history added, Measures pipeline environment config locals history added →
    ∀ faces, detection environment history added = some (.ok faces) → faces = 1
  placed : ∀ locals history added, Measures pipeline environment config locals history added →
    0 < locals.streak → ¬ SentBack environment history added

variable {pipeline environment config} {locals : Locals} {history added : ObservationHistory}

/-- Every round of a run keeps count of the streak. -/
theorem carries_tracks (environment : ObservationEnvironment Value) (config : ChallengeConfig) :
    Carries environment config (fun _ locals history => Tracks locals history)
      (fun _ _ => True) where
  unopened _ _ _ := ⟨trivial, trivial⟩
  opened work quiet :=
    { waits := fun _ => List.forall_mem_append.mpr
        ⟨unpassing_of_quiet quiet, by simp [ObservationEvent.Unpassing]⟩
      passed := by simp [Locals.start]
      unstarted := by simp [Locals.start] }
  goesOn := Tracks.round
  stops _ _ := trivial
  finishes _ _ := trivial
  spent _ := trivial

/-- A round that measures is a round of the run. -/
theorem Measures.round (measures : Measures pipeline environment config locals history added) :
    environment.Round config locals history
      (environment.nextPair pipeline.pairing config locals history).result added := by
  obtain ⟨other, appended, round⟩ :=
    (environment.nextPair_adds pipeline.pairing config locals history).ended
  rw [measures.adds] at appended
  rwa [List.append_cancel_left appended]

/-- The streak was counted when the round began. -/
theorem Measures.tracks (measures : Measures pipeline environment config locals history added) :
    Tracks locals history := by
  obtain ⟨remaining, underway⟩ := measures.underway
  exact underway.carried (carries_tracks environment config)

/-- Between the baseline and the passing pair the challenge has not passed. -/
theorem Measures.waits (measures : Measures pipeline environment config locals history added) :
    ∀ event ∈ history, event.Unpassing := by
  obtain ⟨challenge, found, measuring⟩ := measures.measuring
  have tracks := measures.tracks
  refine tracks.waits ?_
  by_contra passed
  have ended := tracks.passed (eq_true_of_ne_false passed) challenge found
  rcases measuring with phase | phase <;> rw [phase] at ended <;> cases ended

/-- A session that fails before its challenge passes never passes it. -/
theorem Measures.not_passes (measures : Measures pipeline environment config locals history added)
    {failure : ObservationFailure}
    (failed : (environment.nextPair pipeline.pairing config locals history).result = .error failure)
    (silent : ∀ event ∈ added, event.Unpassing) :
    ¬ ChallengePasses pipeline environment config := by
  rintro ⟨pair, passed⟩
  obtain ⟨remaining, underway⟩ := measures.underway
  rw [(underway.stopped failed).2, measures.adds] at passed
  rcases List.mem_append.mp passed with early | late
  · exact measures.waits _ early rfl
  · exact silent _ late rfl

/-- A run that is under way with a streak measures in its next round. -/
theorem Underway.measures {remaining : Nat}
    (underway : Underway pipeline environment config (remaining + 1) locals history)
    (running : 0 < locals.streak) :
    ∃ added, Measures pipeline environment config locals history added := by
  obtain ⟨added, appended, -⟩ :=
    (environment.nextPair_adds pipeline.pairing config locals history).ended
  refine ⟨added, ⟨remaining, underway⟩, ?_, appended⟩
  unfold Locals.streak at running
  cases found : locals.challenge with
  | none =>
      rw [found] at running
      cases running
  | some challenge =>
      rw [found] at running
      refine ⟨challenge, rfl, ?_⟩
      unfold ChallengeSession.IsMeasuring
      cases phase : challenge.phase with
      | action => exact .inl rfl
      | recovery => exact .inr rfl
      | baseline => simp [ChallengeSession.streak, phase] at running
      | passed => simp [ChallengeSession.streak, phase] at running

/-- When no pair of a streak loses the face, its pairs are consecutive. -/
theorem FaceKept.consecutive (kept : FaceKept pipeline environment config) {remaining : Nat}
    (underway : Underway pipeline environment config remaining locals history) :
    Consecutive locals.streak history := by
  induction underway with
  | opened prepared told => exact consecutive_zero _
  | @next remaining locals next history before goesOn ih =>
      obtain ⟨added, appended, round⟩ :=
        (environment.nextPair_adds pipeline.pairing config locals history).ended
      rw [goesOn] at round
      rw [appended]
      refine Tracks.consecutive (before.carried (carries_tracks environment config)) ih ?_ round
      intro running
      obtain ⟨other, measures⟩ := before.measures running
      rw [measures.adds] at appended
      rw [← List.append_cancel_left appended]
      exact kept.placed _ _ _ measures running

/-- Where one face is kept in view, the session counts on one continuous face. In a session
whose challenge passes, that is also necessary. -/
theorem continuous_face_iff (pipeline : ProductionObservationPipeline)
    (environment : ObservationEnvironment Value) (config : ChallengeConfig) :
    (FaceKept pipeline environment config → ContinuousFace pipeline environment config) ∧
    (ChallengePasses pipeline environment config →
      ContinuousFace pipeline environment config → FaceKept pipeline environment config) := by
  constructor
  · intro kept
    constructor
    · intro passes locals history added measures pair captured
      rcases round_captured measures.round captured with
        ⟨faces, detected⟩ | ⟨failure, failed, silent⟩
      · rw [detected, kept.counted _ _ _ measures faces detected]
      · exact (measures.not_passes failed silent passes).elim
    · intro locals history added measures sent
      rcases round_of_sentBack sent measures.round with ⟨failure, failed, -⟩ | ⟨next, goesOn, same⟩
      · exact .inl ⟨failure, failed⟩
      · refine .inr ⟨next, goesOn, ?_⟩
        have still : next.streak = locals.streak := by rw [Locals.streak, same, Locals.streak]
        by_contra running
        rw [still] at running
        exact kept.placed _ _ _ measures (Nat.pos_of_ne_zero running) sent
    · exact fun remaining locals history underway => kept.consecutive underway
  · intro passes continuous
    constructor
    · intro locals history added measures faces detected
      obtain ⟨pair, captured⟩ := captured_of_detection detected measures.round
      have single := continuous.single passes _ _ _ measures pair captured
      rw [detected] at single
      exact Except.ok.inj (Option.some.inj single)
    · intro locals history added measures running sent
      rcases round_of_sentBack sent measures.round with
        ⟨failure, failed, silent⟩ | ⟨next, goesOn, same⟩
      · exact measures.not_passes failed silent passes
      · have still : next.streak = locals.streak := by rw [Locals.streak, same, Locals.streak]
        rcases continuous.resets _ _ _ measures sent with ⟨failure, failed⟩ | ⟨other, goes, reset⟩
        · rw [goesOn] at failed
          cases failed
        · rw [goesOn] at goes
          cases goes
          omega

end Session

/-! ## A face that is gone for one pair -/

/-- A session after a number of pairs, where it goes on that long. -/
def ProductionObservationPipeline.afterPairs {Value : Type}
    (pipeline : ProductionObservationPipeline) (environment : ObservationEnvironment Value)
    (config : ChallengeConfig) : Nat → Option (Locals × ObservationHistory)
  | 0 => some (.start, (pipeline.preparation environment config []).state ++
      [.reported .positionFace])
  | pairs + 1 => do
      let (locals, history) ← pipeline.afterPairs environment config pairs
      match environment.nextPair pipeline.pairing config locals history with
      | ⟨.ok (.inl next), state, _⟩ => some (next, state)
      | _ => none

/-- A run is under way after the pairs that it has gone through. -/
theorem underway_afterPairs {Value : Type} {pipeline : ProductionObservationPipeline}
    {environment : ObservationEnvironment Value} {config : ChallengeConfig} {pairs : Nat}
    {locals : Locals} {history : ObservationHistory}
    (prepared : (pipeline.preparation environment config []).result = .ok ())
    (told : environment.progress .positionFace (pipeline.preparation environment config []).state =
      .ok ())
    (left : pairs ≤ config.captureAttempts)
    (goesOn : pipeline.afterPairs environment config pairs = some (locals, history)) :
    Underway pipeline environment config (config.captureAttempts - pairs) locals history := by
  induction pairs generalizing locals history with
  | zero =>
      cases goesOn
      exact .opened prepared told
  | succ pairs ih =>
      rw [ProductionObservationPipeline.afterPairs, Option.bind_eq_bind,
        Option.bind_eq_some_iff] at goesOn
      obtain ⟨⟨before, earlier⟩, went, last⟩ := goesOn
      have underway := ih (Nat.le_of_lt left) went
      have more : config.captureAttempts - pairs = config.captureAttempts - (pairs + 1) + 1 := by
        omega
      rw [more] at underway
      dsimp only at last
      split at last
      · rename_i next state seen found
        cases last
        have goes : (environment.nextPair pipeline.pairing config before earlier).result =
            .ok (.inl locals) := by rw [found]
        have again := Underway.next underway goes
        rwa [found] at again
      · cases last

/-- Six pairs of a blink. In the third there is no face. -/
def absentEnvironment : ObservationEnvironment Unit where
  cancelled _ := false
  stream _ _ := .ok ()
  frame camera history :=
    let reads := history.countP fun
      | .read other => camera = other
      | _ => false
    if reads < 6 then
      .ok (replayFrame camera (if camera = .infrared then .gray8 else .yuyv)
        (1_000_000 + 30_000 * reads) (.ofNat (reads + 1)))
    else .error (.frameTimeout "/dev/video0")
  rows _ _ := 0
  work _ _ := .ok ()
  faces history := .ok (if (pairHistory history).captured.length = 3 then 0 else 1)
  landmarks history :=
    .ok ⟨if (pairHistory history).captured.length ∈ [2, 4] then 0.1 else 0.8, 0.0⟩
  quality _ := .error .invalidComputation
  embedding _ := .error .embeddingInvalid
  passiveLiveness _ _ := .error .passiveLivenessOutputInvalid
  random _ := .ok .blink
  progress _ _ := .ok ()
  observe _ _ := .ok none

/-- The passing of a challenge. -/
def ObservationEvent.passes : ObservationEvent → Bool
  | .challenged _ (.ok .passed) => true
  | _ => false

/-- The challenge passes although the third pair shows no face and the second and the fourth
count as consecutive. -/
theorem continuous_face_absent :
    ChallengePasses replayPipeline absentEnvironment blinkConfig ∧
    (∃ locals history added,
      Measures replayPipeline absentEnvironment blinkConfig locals history added ∧
        detection absentEnvironment history added = some (.ok 0)) ∧
    ¬ ContinuousFace replayPipeline absentEnvironment blinkConfig := by
  have prepared : (replayPipeline.preparation absentEnvironment blinkConfig []).result =
    .ok () := by
    decide +kernel
  refine ⟨?_, ?_, fun continuous => ?_⟩
  · have passed : (replayPipeline.runSession absentEnvironment blinkConfig []).state.any
        ObservationEvent.passes = true := by
      decide +kernel
    obtain ⟨event, member, passes⟩ := List.any_eq_true.mp passed
    unfold ObservationEvent.passes at passes
    split at passes
    · exact ⟨_, member⟩
    · cases passes
  · have second : (replayPipeline.afterPairs absentEnvironment blinkConfig 2).any
        (fun (locals, history) => locals.streak = 1 ∧ detection absentEnvironment history
          ((absentEnvironment.nextPair replayPipeline.pairing blinkConfig locals history).state.drop
            history.length) = some (.ok 0)) = true := by
      decide +kernel
    obtain ⟨⟨locals, history⟩, reached, holds⟩ := (Option.any_eq_true _ _).mp second
    obtain ⟨running, absent⟩ := of_decide_eq_true holds
    have underway := underway_afterPairs prepared rfl (by decide) reached
    obtain ⟨added, measures⟩ := Underway.measures underway (by omega)
    rw [measures.adds, List.drop_left] at absent
    exact ⟨locals, history, added, measures, absent⟩
  · have third : (replayPipeline.afterPairs absentEnvironment blinkConfig 3).any
        (fun (locals, history) => locals.streak = 1 ∧
          (pairHistory history).captured.getLast? ≠ (pairHistory history).challenged.getLast?) =
            true := by
      decide +kernel
    obtain ⟨⟨locals, history⟩, reached, holds⟩ := (Option.any_eq_true _ _).mp third
    obtain ⟨running, differ⟩ := of_decide_eq_true holds
    have underway := underway_afterPairs prepared rfl (by decide) reached
    obtain ⟨run, length, ⟨before, captured⟩, ⟨earlier, challenged⟩⟩ :=
      continuous.consecutive _ _ _ underway
    rw [running, List.length_eq_one_iff] at length
    obtain ⟨pair, rfl⟩ := length
    rw [← captured, ← challenged, List.getLast?_concat, List.getLast?_concat] at differ
    exact differ rfl

end FaceAuth
