import FaceAuth.Daemon.Freshness

/-!
# Order and bounds of an observation session

No derived observation leaves a session before its challenge has passed, each
comes from a pair of its own, and neither the pairs nor the observations exceed
their budgets. Once a query for cancellation was answered, nothing more is read.
-/

namespace FaceAuth

open Foundation ObservationEnvironment

/-! ## Cancellation -/

/-- A query that the session was cancelled. -/
def ObservationEvent.Stops : ObservationEvent → Prop
  | .polled cancelled => cancelled = true
  | _ => False

/-- A frame is read, or the callback is called. -/
def ObservationEvent.Uses : ObservationEvent → Prop
  | .read _ | .observed _ _ => True
  | _ => False

section Cancellation

variable {Value Answer Error : Type} {environment : ObservationEnvironment Value}
  {harmless : Error → Prop}

/-- A part of a session that heeds cancellation. -/
def Minds (harmless : Error → Prop) (part : Observing Error Answer) : Prop :=
  part.Heeds ObservationEvent.Stops ObservationEvent.Uses harmless

/-- A part that fails for good without a frame. -/
def Aborts (harmless : Error → Prop) (part : Observing Error Answer) : Prop :=
  part.Closes ObservationEvent.Uses harmless

/-- Failing minds nothing further. -/
theorem minds_fail (error : Error) : Minds harmless (fail error : Observing Error Answer) :=
  .ofExcept _

/-- A serious failure aborts. -/
theorem aborts_fail {error : Error} (serious : ¬ harmless error) :
    Aborts harmless (fail error : Observing Error Answer) := .ofExcept serious

/-- A look that does not stop the run minds nothing. -/
theorem minds_answer {event : ObservationEvent} (calm : ¬ event.Stops)
    (look : ObservationHistory → Except Error Answer) : Minds harmless (answer event look) :=
  .act fun _ told => (calm told).elim

/-- A poll whose positive answer aborts. -/
theorem minds_poll {next : Bool → Observing Error Answer} (goesOn : Minds harmless (next false))
    (aborts : Aborts harmless (next true)) : Minds harmless (environment.poll >>= next) := by
  apply Stepwise.Heeds.question
  · intro cancelled calm
    cases cancelled with
    | true => exact (calm rfl).elim
    | false => exact goesOn
  · intro cancelled told
    cases cancelled with
    | true => exact aborts
    | false => cases told

/-- Reporting a failure reads nothing. -/
theorem aborts_failure (failure : ObservationFailure) (wrap : ObservationFailure → Error)
    (serious : ∀ failure, ¬ harmless (wrap failure)) :
    Aborts harmless (do fail (wrap (← environment.failure failure)) :
      Observing Error Answer) := by
  intro start
  refine ⟨[.polled (environment.cancelled start)], rfl, ?_, _, rfl, serious _⟩
  simp [ObservationEvent.Uses]

/-- Checking for a cancellation aborts when there is one. -/
theorem minds_ensureActive {harmless : ObservationFailure → Prop}
    (serious : ¬ harmless .cancelled) :
    Minds harmless environment.ensureActive :=
  minds_poll (.pure _) (aborts_fail serious)

/-- Checking between the rows aborts when there is a cancellation. -/
theorem minds_checkRows {cancelled : Error} (serious : ¬ harmless cancelled) (rows : Nat) :
    Minds harmless (environment.checkRows cancelled rows) := by
  induction rows with
  | zero => exact .pure _
  | succ rows ih => exact minds_poll ih (aborts_fail serious)

/-- A frame that is not in the right place. -/
def Misplaced (error : InferenceError) : Prop := error = .faceRegionOutsideImage

/-- A pair that is not used. -/
def Retried (failure : AttemptFailure) : Prop := failure = .retryPosition

/-- No failure is harmless. -/
def Never {Failure : Type} (_ : Failure) : Prop := False

/-- Making a tensor fails in harmless ways only where a face is misplaced. -/
theorem minds_preprocess (step : VisionStep) : Minds Misplaced (environment.preprocess step) := by
  apply Stepwise.Heeds.bind (.ask _)
  intro rows
  apply Stepwise.Heeds.bind (minds_checkRows (by simp [Misplaced]) rows)
  intro _
  exact minds_answer id _

/-- So does making a tensor of a frame. -/
theorem minds_preprocessFrame (step : VisionStep) (frame : CapturedFrame) :
    Minds Misplaced (environment.preprocessFrame step frame) := by
  apply Stepwise.Heeds.bind (.ofExcept _)
  intro _
  exact minds_preprocess step

/-- Assessing the quality fails for good. -/
theorem minds_assessLandmarkFrameQuality (frame : CapturedFrame) :
    Minds Never (environment.assessLandmarkFrameQuality frame) := by
  apply Stepwise.Heeds.bind (.ofExcept _)
  intro _
  apply Stepwise.Heeds.bind (.ask _)
  intro rows
  apply Stepwise.Heeds.bind (minds_checkRows id rows)
  intro _
  exact minds_answer id _

/-- A step that fails for good is not tried again. -/
theorem minds_orFatal {step : Observing InferenceError Answer} (minds : Minds Misplaced step) :
    Minds Retried (environment.orFatal step) := by
  have aborts : Aborts Retried (do fail (.fatal (← environment.inferenceFailure)) :
      Observing AttemptFailure Answer) := aborts_failure _ _ (by simp [Retried])
  exact minds.rescue (fun _ _ => aborts.heeds) fun _ _ => aborts

/-- A misplaced face is tried again. -/
theorem minds_orReposition {step : Observing InferenceError Unit} (minds : Minds Misplaced step) :
    Minds Retried (environment.orReposition step) := by
  apply Stepwise.Heeds.rescue minds
  · rintro error rfl
    exact minds_fail _
  · intro error other
    split
    · exact (other rfl).elim
    · exact aborts_failure _ _ (by simp [Retried])

/-- A cancellation is not tried again. -/
theorem minds_stillActive : Minds Retried environment.stillActive := by
  have active : Minds Never environment.ensureActive := minds_ensureActive id
  apply Stepwise.Heeds.rescue active
  · exact fun _ harmless => harmless.elim
  · exact fun _ _ => aborts_fail (by simp [Retried])

/-- Working on a pair is tried again for a misplaced face only. -/
theorem minds_processPair (pair : PairedFrames) : Minds Retried (environment.processPair pair) := by
  have ran : ∀ role, Minds Retried (environment.orFatal (environment.perform (.run role))) :=
    fun role => minds_orFatal (minds_answer id _)
  have framed : Minds Retried (environment.orFatal
      (environment.preprocessFrame (.preprocess .faceDetector) pair.visible)) :=
    minds_orFatal (minds_preprocessFrame _ _)
  have counted : Minds Retried (environment.orFatal environment.extractFaceDetections) :=
    minds_orFatal (minds_answer id _)
  have region : Minds Retried (environment.orReposition (environment.perform .faceRegion)) :=
    minds_orReposition (minds_answer id _)
  have view : Minds Retried (environment.orFatal (.ofExcept (inferenceFrameView pair.visible))) :=
    minds_orFatal (.ofExcept _)
  have cropped : Minds Retried (environment.orReposition
      (environment.preprocess (.preprocess .faceLandmarks))) :=
    minds_orReposition (minds_preprocess _)
  have located : Minds Retried (environment.orFatal environment.extractFaceLandmarks) :=
    minds_orFatal (minds_answer id _)
  unfold processPair
  apply Stepwise.Heeds.bind framed
  intro _
  apply Stepwise.Heeds.bind minds_stillActive
  intro _
  apply Stepwise.Heeds.bind (ran _)
  intro _
  apply Stepwise.Heeds.bind minds_stillActive
  intro _
  apply Stepwise.Heeds.bind counted
  intro faces
  split
  · exact minds_fail _
  · exact minds_fail _
  · exact (aborts_failure _ _ (by simp [Retried])).heeds
  · apply Stepwise.Heeds.bind region
    intro _
    apply Stepwise.Heeds.bind view
    intro _
    apply Stepwise.Heeds.bind cropped
    intro _
    apply Stepwise.Heeds.bind minds_stillActive
    intro _
    apply Stepwise.Heeds.bind (ran _)
    intro _
    apply Stepwise.Heeds.bind minds_stillActive
    intro _
    exact located

/-- A failed inference ends the run. -/
theorem minds_orInference {step : Observing InferenceError Answer} (minds : Minds Misplaced step) :
    Minds Never (environment.orInference step) := by
  have aborts : Aborts Never (do fail (← environment.inferenceFailure) :
      Observing ObservationFailure Answer) := aborts_failure _ id fun _ => id
  exact minds.rescue (fun _ _ => aborts.heeds) fun _ _ => aborts

/-- A failure of scoring or embedding ends the run. -/
theorem minds_deriveObservation (pair : PairedFrames) (landmarks : FacialLandmarks) :
    Minds Never (environment.deriveObservation pair landmarks) := by
  have active : Minds Never environment.ensureActive := minds_ensureActive id
  have performed : ∀ step, Minds Never (environment.orInference (environment.perform step)) :=
    fun step => minds_orInference (minds_answer id _)
  have scored : ∀ role,
      Minds Never (environment.orInference (environment.extractPassiveLiveness role)) :=
    fun role => minds_orInference (minds_answer id _)
  have framed : ∀ step frame,
      Minds Never (environment.orInference (environment.preprocessFrame step frame)) :=
    fun step frame => minds_orInference (minds_preprocessFrame step frame)
  have view : Minds Never (environment.orInference (.ofExcept (inferenceFrameView pair.visible))) :=
    minds_orInference (.ofExcept _)
  have aligned : Minds Never (environment.orInference
      (environment.preprocess (.preprocess .faceEmbedding))) :=
    minds_orInference (minds_preprocess _)
  have embedded : Minds Never (environment.orInference environment.extractEmbedding) :=
    minds_orInference (minds_answer id _)
  have assessed : Minds Never
      ((environment.assessLandmarkFrameQuality pair.visible).rescue fun _ => do
        fail (← environment.invalidEvidenceFailure) : Observing ObservationFailure Float32) := by
    have aborts : Aborts Never (do fail (← environment.invalidEvidenceFailure) :
        Observing ObservationFailure Float32) := aborts_failure _ id fun _ => id
    exact (minds_assessLandmarkFrameQuality _).rescue (fun _ _ => aborts.heeds) fun _ _ => aborts
  unfold deriveObservation
  apply Stepwise.Heeds.bind assessed
  intro _
  apply Stepwise.Heeds.bind (performed _)
  intro _
  apply Stepwise.Heeds.bind view
  intro _
  apply Stepwise.Heeds.bind aligned
  intro _
  apply Stepwise.Heeds.bind active
  intro _
  apply Stepwise.Heeds.bind (performed _)
  intro _
  apply Stepwise.Heeds.bind active
  intro _
  apply Stepwise.Heeds.bind embedded
  intro _
  iterate 4
    apply Stepwise.Heeds.bind (framed _ _)
    intro _
  apply Stepwise.Heeds.bind active
  intro _
  iterate 3
    apply Stepwise.Heeds.bind (performed _)
    intro _
    apply Stepwise.Heeds.bind active
    intro _
  iterate 3
    apply Stepwise.Heeds.bind (scored _)
    intro _
  exact .pure _

/-- A challenge that cannot be issued ends the run. -/
theorem minds_activeChallenge (challenge : Option ChallengeSession) (config : ChallengeConfig)
    (observationTime : Nat) :
    Minds Never (environment.activeChallenge challenge config observationTime) := by
  cases challenge with
  | some active => exact .pure active
  | none =>
      have begun : Minds Never (environment.begin config observationTime) := by
        apply Stepwise.Heeds.bind (minds_answer id _)
        intro _
        exact .ofExcept _
      exact begun.rescue (fun _ _ => minds_fail _) fun _ _ => aborts_fail id

/-- A challenge that fails ends the run. -/
theorem minds_advanceChallenge (challenge : Option ChallengeSession) (config : ChallengeConfig)
    (pair : PairedFrames) (landmarks : FacialLandmarks) :
    Minds Never (environment.advanceChallenge challenge config pair landmarks) := by
  apply Stepwise.Heeds.bind (minds_activeChallenge challenge config _)
  intro active
  apply minds_poll
  · apply Stepwise.Heeds.bind (.change id)
    intro _
    split
    · exact .pure _
    · have aborts : Aborts Never (do fail (← environment.livenessFailure) :
          Observing ObservationFailure (ChallengeProgress × ChallengeSession)) :=
        aborts_failure _ id fun _ => id
      exact aborts.heeds
  · intro start
    have cancelled : ∀ observation, (active.observeCancellable observation true).1 =
        .error .cancelled := fun observation => by rw [active.observeCancellable_cancelled]
    rw [@Stepwise.bind_of_ok _ _ _ _ (note _) _ start () rfl]
    simp only [cancelled]
    exact ⟨_, List.append_assoc .., by simp [ObservationEvent.Uses], _, rfl, id⟩

/-- A capture that fails ends the run. -/
theorem minds_capture (pairing : PairingPolicy) : Minds Never
    ((capturePairCancellable environment.sources pairing).rescue fun _ => do
      fail (← environment.captureFailure) : Observing ObservationFailure PairedFrames) := by
  have share : environment.sources.Share (Minds Never) :=
    { frame := fun _ => .act fun _ told => told.elim
      signal := by
        apply Stepwise.Heeds.act
        intro history told
        change environment.cancelled history = true at told
        exact ⟨.cancelled, require_of_not (by simp [sources, told]) _, id⟩
      ofExcept := .ofExcept
      bind := .bind }
  have aborts : Aborts Never (do fail (← environment.captureFailure) :
      Observing ObservationFailure PairedFrames) := aborts_failure _ id fun _ => id
  exact share.capturePairCancellable.rescue (fun _ _ => aborts.heeds) fun _ _ => aborts

/-- An observation that fails ends the run. -/
theorem minds_observePair (locals : Locals) (pair : PairedFrames) (landmarks : FacialLandmarks) :
    Minds Never (environment.observePair locals pair landmarks) := by
  apply Stepwise.Heeds.bind (minds_answer id _)
  intro _
  apply Stepwise.Heeds.bind (minds_deriveObservation pair landmarks)
  intro observation
  apply Stepwise.Heeds.bind (minds_answer id _)
  intro enough
  split
  · exact .pure _
  · dsimp only
    split
    · apply Stepwise.Heeds.bind (minds_answer id _)
      intro _
      exact .pure _
    · exact minds_fail _

/-- A judgement that fails ends the run. -/
theorem minds_judgePair (config : ChallengeConfig) (locals : Locals) (pair : PairedFrames)
    (landmarks : FacialLandmarks) :
    Minds Never (environment.judgePair config locals pair landmarks) := by
  unfold judgePair
  split
  · exact minds_observePair locals pair landmarks
  · apply Stepwise.Heeds.bind (minds_advanceChallenge locals.challenge config pair landmarks)
    rintro ⟨state, challenge⟩
    dsimp only
    split
    · exact minds_observePair _ pair landmarks
    · split
      · exact .pure _
      · apply Stepwise.Heeds.bind (minds_answer id _)
        intro _
        exact .pure _

/-- A round that fails ends the run. -/
theorem minds_nextPair (pairing : PairingPolicy) (config : ChallengeConfig) (locals : Locals) :
    Minds Never (environment.nextPair pairing config locals) := by
  have active : Minds Never environment.ensureActive := minds_ensureActive id
  unfold nextPair
  apply Stepwise.Heeds.bind active
  intro _
  apply Stepwise.Heeds.bind (minds_capture pairing)
  intro pair
  apply Stepwise.Heeds.bind (.change id)
  intro _
  dsimp only
  split
  · exact minds_fail _
  apply Stepwise.Heeds.bind (.change id)
  intro _
  apply Stepwise.Heeds.attempt_bind (minds_processPair pair)
  · intro landmarks
    apply Stepwise.Heeds.bind (.change id)
    intro _
    exact minds_judgePair config _ pair landmarks
  · rintro error rfl
    apply Stepwise.Heeds.bind (.change id)
    intro _
    apply Stepwise.Heeds.bind (minds_answer id _)
    intro _
    exact .pure _
  · intro error serious start
    cases error with
    | retryPosition => exact (serious rfl).elim
    | fatal failure => exact ⟨_, rfl, by simp [ObservationEvent.Uses], _, rfl, id⟩

/-- The loop ends with the first round that fails. -/
theorem minds_runPairs (pairing : PairingPolicy) (config : ChallengeConfig) (remaining : Nat)
    (locals : Locals) : Minds Never (environment.runPairs pairing config remaining locals) := by
  induction remaining generalizing locals with
  | zero =>
      have active : Minds Never environment.ensureActive := minds_ensureActive id
      apply Stepwise.Heeds.bind active
      intro _
      exact minds_fail _
  | succ remaining ih =>
      apply Stepwise.Heeds.bind (minds_nextPair pairing config locals)
      intro flow
      split
      · exact ih _
      · exact .pure _

/-- After a positive query no frame is read, and the callback is not called. -/
theorem minds_runSession (pipeline : ProductionObservationPipeline) (config : ChallengeConfig) :
    Minds Never (pipeline.runSession environment config) := by
  have opens : ∀ camera warmupFrames, Minds Never
      ((environment.openStream camera warmupFrames).rescue fun _ => do
        fail (← environment.captureFailure) : Observing ObservationFailure Unit) := by
    intro camera warmupFrames
    have discards : ∀ frames, Minds Never (environment.discard camera frames) := by
      intro frames
      induction frames with
      | zero => exact .pure _
      | succ frames ih =>
          apply Stepwise.Heeds.bind (.act fun _ told => told.elim)
          intro _
          exact ih
    have opened : Minds Never (environment.openStream camera warmupFrames) := by
      apply Stepwise.Heeds.bind (minds_answer id _)
      intro _
      exact discards warmupFrames
    have aborts : Aborts Never (do fail (← environment.captureFailure) :
        Observing ObservationFailure Unit) := aborts_failure _ id fun _ => id
    exact opened.rescue (fun _ _ => aborts.heeds) fun _ _ => aborts
  have active : Minds Never environment.ensureActive := minds_ensureActive id
  unfold ProductionObservationPipeline.runSession
  iterate 4
    apply Stepwise.Heeds.bind (.ofExcept _)
    intro _
  apply Stepwise.Heeds.bind active
  intro _
  iterate 2
    apply Stepwise.Heeds.bind (opens _ _)
    intro _
  apply Stepwise.Heeds.bind (minds_answer id _)
  intro _
  exact minds_runPairs _ config _ _


end Cancellation

/-! ## Order -/

/-- A pair is admitted, or one is handed to the callback. -/
def ObservationEvent.IsMilestone : ObservationEvent → Prop
  | .admitted _ | .observed _ _ => True
  | _ => False

/-- An observation is handed to the callback. -/
def ObservationEvent.IsObserved : ObservationEvent → Prop
  | .observed _ _ => True
  | _ => False

/-- What precedes an observation that the callback is given. Its pair was admitted as fresh
since the last one, later than every pair before it, and the challenge has passed. The
first observation comes from the pair with which it did. -/
structure Handed (early : ObservationHistory) (pair : PairedFrames)
    (observation : DerivedBiometricObservation) : Prop where
  timing : observation.timing = pair.timing
  passed : ∃ completing, .challenged completing (.ok .passed) ∈ early
  fresh : ∃ before between, early = before ++ .admitted pair :: between ∧
    (∀ event ∈ between, ¬ event.IsMilestone) ∧
    (∀ earlier ∈ (pairHistory before).admitted,
      (FreshPairIdentity.fromPair earlier).timestampMicros <
        (FreshPairIdentity.fromPair pair).timestampMicros) ∧
    (∀ last ∈ (pairHistory before).admitted.getLast?, FreshPair last pair) ∧
    ((∀ event ∈ early, ¬ event.IsObserved) → .challenged pair (.ok .passed) ∈ between)

/-- A list splits in one way at its only element of a kind. -/
theorem split_unique {Element : Type} {kind : Element → Prop}
    {before after left right : List Element} {element other : Element}
    (same : before ++ element :: after = left ++ other :: right)
    (early : ∀ each ∈ before, ¬ kind each) (late : ∀ each ∈ after, ¬ kind each)
    (found : kind other) : before = left ∧ element = other ∧ after = right := by
  rcases List.append_eq_append_iff.mp same with ⟨middle, rfl, rest⟩ | ⟨middle, rfl, rest⟩
  · cases middle with
    | nil =>
        cases rest
        exact ⟨(List.append_nil _).symm, rfl, rfl⟩
    | cons first middle =>
        cases rest
        exact (late other (by simp) found).elim
  · cases middle with
    | nil =>
        cases rest
        exact ⟨List.append_nil _, rfl, rfl⟩
    | cons first middle =>
        cases rest
        exact (early other (by simp) found).elim

/-- A list with no element of a kind lies before the first of them. -/
theorem split_after {Element : Type} {kind : Element → Prop}
    {before after left right : List Element}
    {other : Element} (early : ∀ each ∈ before, ¬ kind each)
    (same : before ++ after = left ++ other :: right) (found : kind other) :
    ∃ middle, left = before ++ middle ∧ after = middle ++ other :: right := by
  rcases List.append_eq_append_iff.mp same with ⟨middle, rfl, rest⟩ | ⟨middle, rfl, rest⟩
  · exact ⟨middle, rfl, rest⟩
  · cases middle with
    | nil => exact ⟨[], by simp, rest.symm⟩
    | cons first middle =>
        cases rest
        exact (early other (by simp) found).elim

section Order

variable {Value : Type} {environment : ObservationEnvironment Value} {config : ChallengeConfig}
  {locals : Locals} {pair other : PairedFrames} {landmarks : FacialLandmarks}
  {observation : DerivedBiometricObservation}
  {history added work left right : ObservationHistory}
  {result : Except ObservationFailure (Locals ⊕ Value)}

/-- Work in the background is no milestone. -/
theorem background_not_milestone {event : ObservationEvent} (background : event.IsBackground) :
    ¬ event.IsMilestone := by
  cases event <;> first | exact background.elim | exact id

/-- Quiet work is no milestone. -/
theorem quiet_not_milestone (quiet : AllQuiet work) : ∀ event ∈ work, ¬ event.IsMilestone :=
  fun event member => background_not_milestone (quiet event member).background

/-- Work in the background observes nothing. -/
theorem background_not_observed {event : ObservationEvent} (background : event.IsBackground) :
    ¬ event.IsObserved := by
  cases event <;> first | exact background.elim | exact id

/-- Quiet work observes nothing. -/
theorem quiet_not_observed (quiet : AllQuiet work) : ∀ event ∈ work, ¬ event.IsObserved :=
  fun event member => background_not_observed (quiet event member).background

/-- Where nothing is observed there is no observation. -/
theorem not_observed (silent : ∀ event ∈ added, ¬ event.IsObserved)
    (same : added = left ++ .observed other observation :: right) : False :=
  silent (.observed other observation) (by simp [same]) trivial

/-- The last attempt ends the session when the callback asks for more. -/
def Exhausts (environment : ObservationEnvironment Value) (locals : Locals)
    (early : ObservationHistory) (observation : DerivedBiometricObservation)
    (result : Except ObservationFailure (Locals ⊕ Value)) : Prop :=
  environment.observe observation early = .ok none →
    MAX_DERIVED_OBSERVATION_ATTEMPTS ≤ locals.derivedAttempts + 1 → result = .error .attemptLimit

/-- What precedes an observation in its round, and what it exhausts. -/
theorem observed_split (observed : environment.Observed locals pair history result added)
    (same : added = left ++ .observed other observation :: right) :
    other = pair ∧ observation.timing = pair.timing ∧ (∀ event ∈ left, ¬ event.IsMilestone) ∧
      Exhausts environment locals (history ++ left) observation result := by
  cases observed with
  | underived quiet failure =>
      refine (not_observed ?_ same).elim
      simpa [ObservationEvent.IsObserved] using quiet_not_observed quiet
  | @handed work given result quiet timing last =>
      have before : ∀ event ∈ ObservationEvent.reported .processing :: work,
          ¬ event.IsMilestone := by
        simpa [ObservationEvent.IsMilestone] using quiet_not_milestone quiet
      obtain ⟨rfl, rest, -⟩ := split_unique same before (List.forall_mem_nil _) trivial
      cases rest
      refine ⟨rfl, timing, before, fun asked _ => ?_⟩
      rw [asked] at last
      exact last.2
  | @continues work given result quiet timing left_ told =>
      have before : ∀ event ∈ ObservationEvent.reported .processing :: work,
          ¬ event.IsMilestone := by
        simpa [ObservationEvent.IsMilestone] using quiet_not_milestone quiet
      have after : ∀ event ∈ [ObservationEvent.reported .holdStill], ¬ event.IsMilestone := by
        simp [ObservationEvent.IsMilestone]
      obtain ⟨rfl, rest, -⟩ := split_unique same before after trivial
      cases rest
      exact ⟨rfl, timing, before, fun _ spent => (Nat.not_lt.mpr spent left_).elim⟩

/-- What precedes an observation in a judged round, with the challenge passed by then. -/
theorem judged_split
    (judged : environment.Judged config locals pair landmarks history result added)
    (same : added = left ++ .observed other observation :: right) :
    other = pair ∧ observation.timing = pair.timing ∧ (∀ event ∈ left, ¬ event.IsMilestone) ∧
      (locals.challengePassed = false → .challenged pair (.ok .passed) ∈ left) ∧
      Exhausts environment locals (history ++ left) observation result := by
  cases judged with
  | observes passed observed =>
      obtain ⟨pairs, timing, before, exhausts⟩ := observed_split observed same
      exact ⟨pairs, timing, before, by simp [passed], exhausts⟩
  | unbegun waits quiet failure => exact (not_observed (quiet_not_observed quiet) same).elim
  | rejected waits quiet quietly failure =>
      refine (not_observed (List.forall_mem_append.mpr ⟨quiet_not_observed quiet, ?_⟩) same).elim
      exact List.forall_mem_cons.mpr ⟨id, quiet_not_observed quietly⟩
  | unchanged waits quiet offered goesOn unchanged =>
      refine (not_observed (List.forall_mem_append.mpr ⟨quiet_not_observed quiet, ?_⟩) same).elim
      simp [ObservationEvent.IsObserved]
  | prompted waits quiet offered goesOn changed told =>
      refine (not_observed (List.forall_mem_append.mpr ⟨quiet_not_observed quiet, ?_⟩) same).elim
      simp [ObservationEvent.IsObserved]
  | passes waits quiet offered observed =>
      obtain ⟨rest, rfl, again⟩ := split_after (quiet_not_milestone quiet) same trivial
      have challenged : ∀ event ∈ [ObservationEvent.challenged pair (.ok .passed)],
          ¬ event.IsMilestone := by
        simp [ObservationEvent.IsMilestone]
      rw [← List.singleton_append] at again
      obtain ⟨late, rfl, last⟩ := split_after challenged again trivial
      obtain ⟨pairs, timing, before, exhausts⟩ := observed_split observed last
      refine ⟨pairs, timing, List.forall_mem_append.mpr ⟨quiet_not_milestone quiet,
        List.forall_mem_append.mpr ⟨challenged, before⟩⟩, by simp, ?_⟩
      rw [← List.append_assoc, ← List.append_assoc]
      exact exhausts

/-- Before a pair is judged its round observes nothing. -/
theorem used_not_observed {rest tail : ObservationHistory} (quiet : AllQuiet work)
    (background : ∀ event ∈ rest, event.IsBackground)
    (silent : ∀ event ∈ tail, ¬ event.IsObserved) :
    ∀ event ∈ work ++ .captured pair :: .admitted pair :: rest ++ tail, ¬ event.IsObserved := by
  refine List.forall_mem_append.mpr ⟨List.forall_mem_append.mpr
    ⟨quiet_not_observed quiet, ?_⟩, silent⟩
  refine List.forall_mem_cons.mpr ⟨id, List.forall_mem_cons.mpr ⟨id, fun event member => ?_⟩⟩
  exact background_not_observed (background event member)

/-- An observation that a round hands to the callback comes from the pair of the round. -/
theorem round_split (round : environment.Round config locals history result added)
    (same : added = left ++ .observed other observation :: right) :
    observation.timing = other.timing ∧ Admits locals.previousPair other ∧
      ∃ work between, left = work ++ .captured other :: .admitted other :: between ∧
        AllQuiet work ∧ (∀ event ∈ between, ¬ event.IsMilestone) ∧
        (locals.challengePassed = false → .challenged other (.ok .passed) ∈ between) ∧
        Exhausts environment locals (history ++ left) observation result := by
  cases round with
  | unpaired quiet failure => exact (not_observed (quiet_not_observed quiet) same).elim
  | stale quiet remembered old =>
      refine (not_observed (List.forall_mem_append.mpr ⟨quiet_not_observed quiet, ?_⟩) same).elim
      simp [ObservationEvent.IsObserved]
  | unprocessed quiet fresh background =>
      refine (not_observed (used_not_observed quiet background ?_) same).elim
      simp [ObservationEvent.IsObserved]
  | repositioned quiet fresh background detected sent told =>
      refine (not_observed (used_not_observed quiet background ?_) same).elim
      simp [ObservationEvent.IsObserved]
  | @positioned work rest given pair landmarks result quiet fresh background detected kept judged =>
      have used : ∀ event ∈ work ++ .captured pair :: .admitted pair :: rest ++
          [.processed pair (.ok landmarks)], ¬ event.IsObserved :=
        used_not_observed quiet background (by simp [ObservationEvent.IsObserved])
      have regroup : work ++ .captured pair :: .admitted pair :: rest ++
          .processed pair (.ok landmarks) :: given =
            work ++ .captured pair :: .admitted pair :: rest ++ [.processed pair (.ok landmarks)] ++
              given := by
        simp only [List.append_assoc, List.cons_append, List.nil_append]
      rw [regroup] at same
      obtain ⟨late, rfl, again⟩ := split_after used same trivial
      obtain ⟨rfl, timing, before, passes, exhausts⟩ := judged_split judged again
      refine ⟨timing, fresh, work, rest ++ .processed other (.ok landmarks) :: late,
        ?_, quiet, ?_, ?_,
        ?_⟩
      · simp only [List.append_assoc, List.cons_append, List.nil_append]
      · refine List.forall_mem_append.mpr ⟨fun event member => ?_, ?_⟩
        · exact background_not_milestone (background event member)
        · exact List.forall_mem_cons.mpr ⟨id, before⟩
      · intro waits
        exact List.mem_append_right _ (List.mem_cons_of_mem _ (passes waits))
      · rw [← List.append_assoc]
        exact exhausts

/-- How far the observations of a session have come after a part of it that goes on. -/
structure Progresses (locals next : Locals) (added : ObservationHistory) : Prop where
  left : next.derivedAttempts < MAX_DERIVED_OBSERVATION_ATTEMPTS
  counted : ∀ pairs : PairHistory, (added.foldl PairHistory.record pairs).observed.length +
    locals.derivedAttempts = pairs.observed.length + next.derivedAttempts
  waits : next.challengePassed = false →
    locals.challengePassed = false ∧ next.derivedAttempts = locals.derivedAttempts
  passed : next.challengePassed = true → locals.challengePassed = true ∧
      locals.derivedAttempts ≤ next.derivedAttempts ∨
    0 < next.derivedAttempts ∧ ∃ completing, .challenged completing (.ok .passed) ∈ added

/-- A round that observes and goes on has used up one attempt. -/
theorem observed_progresses {next : Locals}
    (observed : environment.Observed locals pair history (.ok (.inl next)) added) :
    next = { locals with derivedAttempts := locals.derivedAttempts + 1 } ∧
      next.derivedAttempts < MAX_DERIVED_OBSERVATION_ATTEMPTS ∧
      ∀ pairs : PairHistory, (added.foldl PairHistory.record pairs).observed.length =
        pairs.observed.length + 1 := by
  generalize flow : (.ok (.inl next) : Except ObservationFailure (Locals ⊕ Value)) = result
    at observed
  cases observed with
  | underived quiet failure => cases flow
  | handed quiet timing last =>
      rw [← flow] at last
      split at last <;> simp at last
  | continues quiet timing left told =>
      rcases told with ⟨failure, rfl⟩ | rfl
      · cases flow
      · cases flow
        refine ⟨rfl, left, fun pairs => ?_⟩
        simp [record_quiet quiet, PairHistory.record]

/-- A judged round that goes on has used up what it observed. -/
theorem judged_progresses {next : Locals}
    (judged : environment.Judged config locals pair landmarks history (.ok (.inl next)) added)
    (left : locals.derivedAttempts < MAX_DERIVED_OBSERVATION_ATTEMPTS) :
    Progresses locals next added := by
  generalize flow : (.ok (.inl next) : Except ObservationFailure (Locals ⊕ Value)) = result
    at judged
  cases judged with
  | observes passed observed =>
      subst flow
      obtain ⟨rfl, fewer, counted⟩ := observed_progresses observed
      refine ⟨fewer, fun pairs => ?_, by simp [passed], fun _ => .inl ⟨passed, Nat.le_succ _⟩⟩
      rw [counted]
      dsimp only
      omega
  | unbegun waits quiet failure => cases flow
  | rejected waits quiet quietly failure => cases flow
  | unchanged waits quiet offered goesOn same =>
      cases flow
      refine ⟨left, fun pairs => ?_, fun _ => ⟨waits, rfl⟩, by simp [waits]⟩
      simp [record_quiet quiet, PairHistory.record]
  | prompted waits quiet offered goesOn changed told =>
      rcases told with ⟨failure, rfl⟩ | rfl
      · cases flow
      · cases flow
        refine ⟨left, fun pairs => ?_, fun _ => ⟨waits, rfl⟩, by simp [waits]⟩
        simp [record_quiet quiet, PairHistory.record]
  | passes waits quiet offered observed =>
      subst flow
      obtain ⟨rfl, fewer, counted⟩ := observed_progresses observed
      refine ⟨fewer, fun pairs => ?_, by simp, fun _ => .inr ⟨Nat.succ_pos _, pair, by simp⟩⟩
      rw [List.foldl_append, List.foldl_cons, counted, record_quiet quiet]
      dsimp only [PairHistory.record]
      omega

/-- Over a round that goes on, one more pair was captured. -/
theorem round_progresses {next : Locals}
    (round : environment.Round config locals history (.ok (.inl next)) added)
    (left : locals.derivedAttempts < MAX_DERIVED_OBSERVATION_ATTEMPTS) :
    Progresses locals next added ∧ ∀ pairs : PairHistory,
      (added.foldl PairHistory.record pairs).captured.length = pairs.captured.length + 1 := by
  generalize flow : (.ok (.inl next) : Except ObservationFailure (Locals ⊕ Value)) = result
    at round
  cases round with
  | unpaired quiet failure => cases flow
  | stale quiet remembered old => cases flow
  | unprocessed quiet fresh background => cases flow
  | repositioned quiet fresh background detected sent told =>
      rcases told with ⟨failure, rfl⟩ | rfl
      · cases flow
      · cases flow
        refine ⟨⟨left, fun pairs => ?_, fun waits => ⟨waits, rfl⟩, fun passed =>
          .inl ⟨passed, Nat.le_refl _⟩⟩, fun pairs => ?_⟩
        · simp [record_quiet quiet, record_background background, PairHistory.record]
        · simp [record_quiet quiet, record_background background, PairHistory.record]
  | positioned quiet fresh background detected kept judged =>
      subst flow
      have progresses := judged_progresses judged left
      refine ⟨⟨progresses.left, fun pairs => ?_, progresses.waits, fun passed => ?_⟩,
        fun pairs => ?_⟩
      · have counted := progresses.counted
        simp [record_quiet quiet, record_background background, PairHistory.record, counted]
      · refine (progresses.passed passed).imp id ?_
        rintro ⟨some_, completing, member⟩
        exact ⟨some_, completing, List.mem_append_right _ (List.mem_cons_of_mem _ member)⟩
      · simp [record_quiet quiet, record_background background, PairHistory.record,
          (judged_pairs judged _).1.captured]

/-- No round captures two pairs, or hands two observations to the callback. -/
theorem round_adds (round : environment.Round config locals history result added)
    (pairs : PairHistory) :
    (added.foldl PairHistory.record pairs).captured.length ≤ pairs.captured.length + 1 ∧
      (added.foldl PairHistory.record pairs).observed.length ≤ pairs.observed.length + 1 := by
  cases round with
  | unpaired quiet failure => simp [record_quiet quiet]
  | stale quiet remembered old => simp [record_quiet quiet, PairHistory.record]
  | unprocessed quiet fresh background =>
      simp [record_quiet quiet, record_background background, PairHistory.record]
  | repositioned quiet fresh background detected sent told =>
      simp [record_quiet quiet, record_background background, PairHistory.record]
  | positioned quiet fresh background detected kept judged =>
      obtain ⟨⟨captured, -, -, observed⟩, -⟩ := judged_pairs judged
        { pairs with captured := pairs.captured ++ [_], admitted := pairs.admitted ++ [_] }
      simp only [List.foldl_append, List.foldl_cons, record_quiet quiet,
        record_background background, PairHistory.record]
      rw [captured]
      refine ⟨by simp, ?_⟩
      rcases observed with same | same <;> rw [same] <;> simp

/-- Between two pairs: what was counted, and what was handed on in order. -/
structure InOrder (config : ChallengeConfig) (remaining : Nat) (locals : Locals)
    (history : ObservationHistory) : Prop where
  sound : Sound locals.previousPair (pairHistory history)
  captured : (pairHistory history).captured.length + remaining = config.captureAttempts
  observed : (pairHistory history).observed.length = locals.derivedAttempts
  left : locals.derivedAttempts < MAX_DERIVED_OBSERVATION_ATTEMPTS
  waits : locals.challengePassed = false → locals.derivedAttempts = 0
  passed : locals.challengePassed = true → 0 < locals.derivedAttempts ∧
    ∃ completing, .challenged completing (.ok .passed) ∈ history
  order : ∀ left pair observation right, history = left ++ .observed pair observation :: right →
    Handed left pair observation

/-- A history with observations has one among its events. -/
theorem mem_observed (history : ObservationHistory)
    (some_ : 0 < (pairHistory history).observed.length) : ∃ event ∈ history, event.IsObserved := by
  induction history using List.reverseRecOn with
  | nil => cases some_
  | append_singleton history event ih =>
      rw [pairHistory_append] at some_
      cases event with
      | observed pair observation => exact ⟨.observed pair observation, by simp, trivial⟩
      | _ =>
          obtain ⟨event, member, observed⟩ := ih some_
          exact ⟨event, List.mem_append_left _ member, observed⟩

/-- A pair that passes the freshness check is later than all before it. -/
theorem Sound.later {previous : Option FreshPairIdentity} {pairs : PairHistory}
    (sound : Sound previous pairs) (fresh : Admits previous pair) :
    (∀ earlier ∈ pairs.admitted, (FreshPairIdentity.fromPair earlier).timestampMicros <
      (FreshPairIdentity.fromPair pair).timestampMicros) ∧
    ∀ last ∈ pairs.admitted.getLast?, FreshPair last pair := by
  have again := (sound.admitted fresh ⟨rfl, rfl, .inl rfl, .inl rfl⟩).fresh
  constructor
  · have increasing : (pairs.admitted ++ [pair]).Pairwise fun first second =>
        (FreshPairIdentity.fromPair first).timestampMicros <
          (FreshPairIdentity.fromPair second).timestampMicros := by
      have : Trans (fun first second : PairedFrames =>
          (FreshPairIdentity.fromPair first).timestampMicros <
            (FreshPairIdentity.fromPair second).timestampMicros)
          (fun first second => (FreshPairIdentity.fromPair first).timestampMicros <
            (FreshPairIdentity.fromPair second).timestampMicros)
          (fun first second => (FreshPairIdentity.fromPair first).timestampMicros <
            (FreshPairIdentity.fromPair second).timestampMicros) := ⟨Nat.lt_trans⟩
      exact List.isChain_iff_pairwise.mp (again.imp fun _ _ fresh => fresh.2.2)
    intro earlier member
    exact (List.pairwise_append.mp increasing).2.2 earlier member pair (by simp)
  · intro last found
    exact (List.isChain_append.mp again).2.2 last found pair rfl

/-- Every observation of an ordered run is handed on after what must precede it. -/
theorem InOrder.handed {remaining : Nat} (inOrder : InOrder config remaining locals history)
    (round : environment.Round config locals history result added)
    (same : added = left ++ .observed other observation :: right) :
    Handed (history ++ left) other observation := by
  obtain ⟨timing, fresh, work, between, rfl, quiet, plain, passes, -⟩ := round_split round same
  obtain ⟨later, last⟩ := inOrder.sound.later fresh
  have before : (pairHistory (history ++ work ++ [.captured other])).admitted =
      (pairHistory history).admitted := by
    rw [pairHistory_append, pairHistory_concat, record_quiet quiet]
    rfl
  have regroup : history ++ (work ++ .captured other :: .admitted other :: between) =
      history ++ work ++ [.captured other] ++ .admitted other :: between := by
    simp only [List.append_assoc, List.cons_append, List.nil_append]
  refine ⟨timing, ?_, _, between, regroup, plain, before ▸ later, before ▸ last, fun first => ?_⟩
  · cases begun : locals.challengePassed with
    | true =>
        obtain ⟨-, completing, member⟩ := inOrder.passed begun
        exact ⟨completing, List.mem_append_left _ member⟩
    | false => exact ⟨other, by simp [passes begun]⟩
  · cases begun : locals.challengePassed with
    | true =>
        have some_ := (inOrder.passed begun).1
        rw [← inOrder.observed] at some_
        obtain ⟨event, member, observed⟩ := mem_observed history some_
        exact (first event (List.mem_append_left _ member) observed).elim
    | false => exact passes begun

/-- What is handed on over a round is handed on in order. -/
theorem InOrder.extend {remaining : Nat} (inOrder : InOrder config remaining locals history)
    (round : environment.Round config locals history result added) :
    ∀ left pair observation right,
      history ++ added = left ++ .observed pair observation :: right →
        Handed left pair observation := by
  intro left pair observation right split
  rcases List.append_eq_append_iff.mp split with ⟨middle, rfl, rest⟩ | ⟨middle, rfl, rest⟩
  · exact inOrder.handed round rest
  · cases middle with
    | nil =>
        have first : added = [] ++ .observed pair observation :: right := rest.symm
        simpa using inOrder.handed round first
    | cons first middle =>
        cases rest
        exact inOrder.order left pair observation middle rfl

/-- A round that goes on keeps the order. -/
theorem InOrder.next {remaining : Nat} {next : Locals}
    (inOrder : InOrder config (remaining + 1) locals history)
    (round : environment.Round config locals history (.ok (.inl next)) added) :
    InOrder config remaining next (history ++ added) := by
  obtain ⟨progresses, captured⟩ := round_progresses round inOrder.left
  have counted := progresses.counted (pairHistory history)
  have taken := captured (pairHistory history)
  have total := inOrder.captured
  have given := inOrder.observed
  constructor
  · rw [pairHistory_concat]
    exact (inOrder.sound.round round).2 next rfl
  · rw [pairHistory_concat, taken]
    omega
  · rw [pairHistory_concat]
    omega
  · exact progresses.left
  · intro waits
    obtain ⟨waited, same⟩ := progresses.waits waits
    rw [same, inOrder.waits waited]
  · intro passed
    rcases progresses.passed passed with ⟨before, more⟩ | ⟨some_, completing, member⟩
    · obtain ⟨some_, completing, member⟩ := inOrder.passed before
      exact ⟨by omega, completing, List.mem_append_left _ member⟩
    · exact ⟨some_, completing, List.mem_append_right _ member⟩
  · exact inOrder.extend round

/-- An observation is a milestone. -/
theorem ObservationEvent.IsMilestone.of_observed {event : ObservationEvent}
    (observed : event.IsObserved) :
    event.IsMilestone := by
  cases event <;> first | exact observed.elim | trivial

/-- Work without an observation records none. -/
theorem record_unobserved (silent : ∀ event ∈ work, ¬ event.IsObserved) (pairs : PairHistory) :
    (work.foldl PairHistory.record pairs).observed = pairs.observed := by
  induction work generalizing pairs with
  | nil => rfl
  | cons event work ih =>
      rw [List.foldl_cons, ih fun other member => silent other (.tail _ member)]
      have unseen := silent event (List.mem_cons_self ..)
      cases event <;> first | rfl | exact (unseen trivial).elim

/-- After an observation there is one more. -/
theorem observed_length_lt (left right : ObservationHistory) :
    (pairHistory left).observed.length <
      (pairHistory (left ++ .observed pair observation :: right)).observed.length := by
  induction right using List.reverseRecOn with
  | nil =>
      rw [pairHistory_append]
      simp [PairHistory.record]
  | append_singleton right event ih =>
      rw [← List.cons_append, ← List.append_assoc, pairHistory_append]
      refine Nat.lt_of_lt_of_le ih ?_
      cases event <;> simp [PairHistory.record]

/-- The callback that asks for more than the last observation ends the session. -/
theorem InOrder.exhausts {remaining : Nat} (inOrder : InOrder config remaining locals history)
    (round : environment.Round config locals history result added)
    (split : history ++ added = left ++ .observed other observation :: right)
    (last : (pairHistory left).observed.length + 1 = MAX_DERIVED_OBSERVATION_ATTEMPTS)
    (asked : environment.observe observation left = .ok none) : result = .error .attemptLimit := by
  have fewer := inOrder.left
  rw [← inOrder.observed] at fewer
  rcases List.append_eq_append_iff.mp split with ⟨middle, rfl, rest⟩ | ⟨middle, rfl, rest⟩
  · obtain ⟨-, -, work, between, rfl, quiet, plain, -, exhausts⟩ := round_split round rest
    refine exhausts asked ?_
    have unchanged : (pairHistory (history ++ (work ++ .captured other :: .admitted other ::
        between))).observed = (pairHistory history).observed := by
      rw [pairHistory_concat]
      refine record_unobserved (List.forall_mem_append.mpr ⟨quiet_not_observed quiet, ?_⟩) _
      refine List.forall_mem_cons.mpr ⟨id, List.forall_mem_cons.mpr ⟨id, ?_⟩⟩
      exact fun event member observed => plain event member (.of_observed observed)
    rw [unchanged, inOrder.observed] at last
    omega
  · cases middle with
    | nil =>
        have first : added = [] ++ .observed other observation :: right := rest.symm
        obtain ⟨-, -, work, between, same, -⟩ := round_split round first
        simp at same
    | cons first middle =>
        cases rest
        have more := @observed_length_lt other observation left middle
        omega

/-- Every round of a run keeps the order. -/
theorem carries_order (environment : ObservationEnvironment Value) (config : ChallengeConfig) :
    Carries environment config (InOrder config) fun result history =>
      (pairHistory history).captured.length ≤ config.captureAttempts ∧
      (pairHistory history).observed.length ≤ MAX_DERIVED_OBSERVATION_ATTEMPTS ∧
      ∀ left pair observation right, history = left ++ .observed pair observation :: right →
        Handed left pair observation ∧
        ((pairHistory left).observed.length + 1 = MAX_DERIVED_OBSERVATION_ATTEMPTS →
          environment.observe observation left = .ok none → result = .error .attemptLimit) := by
  have quiets : ∀ {work}, AllQuiet work → pairHistory work = .empty :=
    fun quiet => record_quiet quiet .empty
  have reported : ∀ {work}, AllQuiet work →
      ∀ event ∈ work ++ [ObservationEvent.reported .positionFace], ¬ event.IsObserved := by
    intro work quiet
    refine List.forall_mem_append.mpr ⟨quiet_not_observed quiet, ?_⟩
    simp [ObservationEvent.IsObserved]
  have step : ∀ {remaining : Nat} {locals : Locals} {history added : ObservationHistory}
      {result : Except ObservationFailure (Locals ⊕ Value)},
      InOrder config (remaining + 1) locals history →
      environment.Round config locals history result added →
      (pairHistory (history ++ added)).captured.length ≤ config.captureAttempts ∧
      (pairHistory (history ++ added)).observed.length ≤ MAX_DERIVED_OBSERVATION_ATTEMPTS := by
    intro remaining locals history added result inOrder round
    obtain ⟨captured, observed⟩ := round_adds round (pairHistory history)
    have total := inOrder.captured
    have given := inOrder.observed
    have fewer := inOrder.left
    rw [pairHistory_concat]
    omega
  constructor
  · intro failure work quiet
    rw [pairHistory_append, quiets quiet]
    have none := fun left pair observation right same =>
      @not_observed pair observation work left right (quiet_not_observed quiet) same
    have noneLater := fun left pair observation right same =>
      @not_observed pair observation _ left right (reported quiet) same
    exact ⟨⟨Nat.zero_le _, Nat.zero_le _, fun left pair observation right same =>
      (none left pair observation right same).elim⟩, Nat.zero_le _, Nat.zero_le _,
      fun left pair observation right same => (noneLater left pair observation right same).elim⟩
  · intro work quiet
    have empty : pairHistory (work ++ [.reported .positionFace]) = .empty := by
      rw [pairHistory_append, quiets quiet]
      rfl
    refine ⟨?_, ?_, ?_, by decide, fun _ => rfl, by simp [Locals.start],
      fun left pair observation right same => (not_observed (reported quiet) same).elim⟩
    · rw [empty]
      exact ⟨rfl, rfl, .nil, .refl _, .refl _⟩
    · rw [empty]
      exact Nat.zero_add _
    · rw [empty]
      rfl
  · exact fun inOrder round => inOrder.next round
  · intro remaining locals history failure added inOrder round
    refine ⟨(step inOrder round).1, (step inOrder round).2,
      fun left pair observation right split => ?_⟩
    refine ⟨inOrder.extend round left pair observation right split, fun last asked => ?_⟩
    cases inOrder.exhausts round split last asked
    rfl
  · intro remaining locals history value added inOrder round
    refine ⟨(step inOrder round).1, (step inOrder round).2,
      fun left pair observation right split => ?_⟩
    refine ⟨inOrder.extend round left pair observation right split, fun last asked => ?_⟩
    cases inOrder.exhausts round split last asked
  · intro locals history inOrder
    have polled : AllQuiet [.polled (environment.cancelled history)] := by
      simp [AllQuiet, ObservationEvent.IsQuiet, ObservationEvent.IsBackground]
    have round : environment.Round config locals history
        (.error (if environment.cancelled history then .cancelled else .attemptLimit))
        [.polled (environment.cancelled history)] := .unpaired polled _
    have total := inOrder.captured
    have given := inOrder.observed
    have fewer := inOrder.left
    refine ⟨?_, ?_, fun left pair observation right split => ?_⟩
    · rw [pairHistory_append]
      exact Nat.le_of_eq total
    · rw [pairHistory_append]
      exact (Nat.le_of_eq given).trans (Nat.le_of_lt fewer)
    · refine ⟨inOrder.extend round left pair observation right split, fun last asked => ?_⟩
      have limit := inOrder.exhausts round split last asked
      rw [Except.error.injEq] at limit
      rw [limit]

end Order

/-- A session in order: what its callback is given, when it reads nothing more, and what
bounds it. -/
structure ObservationContract {Value : Type} (pipeline : ProductionObservationPipeline)
    (environment : ObservationEnvironment Value) (config : ChallengeConfig)
    (result : Except ObservationFailure Value) (history : ObservationHistory) : Prop where
  order : ∀ early pair observation late, history = early ++ .observed pair observation :: late →
    Handed early pair observation
  cancellation : ∀ early late, history = early ++ .polled true :: late →
    ∀ event ∈ late, ¬ event.Uses
  captured : (pairHistory history).captured.length ≤
    2 * config.maxObservations + MAX_DERIVED_OBSERVATION_ATTEMPTS
  observed : (pairHistory history).observed.length ≤ MAX_DERIVED_OBSERVATION_ATTEMPTS
  captureLimit : ∀ locals earlier, Underway pipeline environment config 0 locals earlier →
    (pairHistory earlier).captured.length =
      2 * config.maxObservations + MAX_DERIVED_OBSERVATION_ATTEMPTS ∧
    result = .error (if environment.cancelled earlier then .cancelled else .attemptLimit)
  derivedLimit : ∀ early pair observation late,
    history = early ++ .observed pair observation :: late →
    (pairHistory early).observed.length + 1 = MAX_DERIVED_OBSERVATION_ATTEMPTS →
    environment.observe observation early = .ok none → result = .error .attemptLimit

/-- Whatever the cameras, the models, the callbacks and the queries answer, a session keeps
to its order and its bounds, and it ends. -/
theorem observation_contract {Value : Type} (pipeline : ProductionObservationPipeline)
    (environment : ObservationEnvironment Value) (config : ChallengeConfig) :
    ObservationContract pipeline environment config
      (pipeline.runSession environment config []).result
      (pipeline.runSession environment config []).state := by
  have carries := carries_order environment config
  obtain ⟨captured, observed, order⟩ := carries.runSession pipeline
  have attempts : config.captureAttempts =
      2 * config.maxObservations + MAX_DERIVED_OBSERVATION_ATTEMPTS := by
    rw [ChallengeConfig.captureAttempts, Nat.mul_comm]
  constructor
  · intro early pair observation late split
    exact (order early pair observation late split).1
  · have minds : Minds Never (pipeline.runSession environment config) :=
      minds_runSession pipeline config
    obtain ⟨added, appended, heeded, -⟩ := minds []
    intro early late split event member
    rw [appended, List.nil_append] at split
    subst split
    obtain ⟨-, later, -⟩ := List.pairwise_append.mp heeded
    exact (List.pairwise_cons.mp later).1 event member rfl
  · rwa [← attempts]
  · exact observed
  · intro locals earlier underway
    have total := (underway.carried carries).captured
    refine ⟨by omega, ?_⟩
    rw [underway.runSession.1]
    exact (runPairs_zero_eq locals earlier).1
  · intro early pair observation late split
    exact (order early pair observation late split).2

end FaceAuth
