import FaceAuth.Daemon.Evidence
import FaceAuth.Daemon.Observation
import FaceAuth.Enrollment.Refusal

/-!
# The enrollment accumulator

Observations of the vision pipeline reach an enrollment through an accumulator that
skips the ones too close to the last accepted, scores their liveness, and finishes
the transaction as soon as it is ready. Its own rules are those of the transaction,
so that none of its requests is one that the transaction would close on.
-/

namespace FaceAuth

open Foundation

/-- An observation of the pipeline as the evidence of an enrollment. -/
def DerivedBiometricObservation.forEnrollment (observation : DerivedBiometricObservation)
    (passiveLivenessPassed : Bool) : EnrollmentObservation where
  embedding := observation.embedding
  quality := observation.quality
  passiveLivenessPassed := passiveLivenessPassed
  activeLivenessPassed := true
  timestampMicros := observation.completedAtMicros
  yawDegrees := observation.yawDegrees

/-- A transaction with the rules of its accumulator. It is gone after it was finished. -/
structure EnrollmentAccumulator where
  session : Option EnrollmentSession
  passivePad : PassivePadPolicy
  minimumSampleIntervalMicros : Nat
  lastAcceptedTimestamp : Option Nat

/-- What one observation does: the answer of the transaction if it was asked, its
template if it was finished, and the outcome, which is a template when that ends the
observations. -/
structure AccumulatorTurn where
  answer : Option (Except EnrollmentError Unit)
  finished : Option (Except EnrollmentError TemplateRecord)
  outcome : Except ObservationFailure (Option TemplateRecord)
  after : EnrollmentAccumulator

namespace EnrollmentAccumulator

/-- A fresh accumulator around a session. -/
def new (session : EnrollmentSession) (passivePad : PassivePadPolicy)
    (minimumSampleIntervalMicros : Nat) : EnrollmentAccumulator where
  session := some session
  passivePad := passivePad
  minimumSampleIntervalMicros := minimumSampleIntervalMicros
  lastAcceptedTimestamp := none

variable (accumulator : EnrollmentAccumulator)

/-- The observation is too close to the last accepted one. -/
def skips (observation : DerivedBiometricObservation) : Bool :=
  accumulator.lastAcceptedTimestamp.any fun previous =>
    observation.completedAtMicros - previous < accumulator.minimumSampleIntervalMicros

/-- Finish a transaction that is ready, and fail one that is full before. -/
def settle (active : EnrollmentSession) (completedAtMicros : Nat) : AccumulatorTurn :=
  if active.readyToFinish then
    match active.finish completedAtMicros with
    | .ok record =>
        ⟨some (.ok ()), some (.ok record), .ok (some record), { accumulator with session := none }⟩
    | .error error =>
        ⟨some (.ok ()), some (.error error), .error .invalidEvidence,
          { accumulator with session := none }⟩
  else if active.isFull then ⟨some (.ok ()), none, .error .attemptLimit, accumulator⟩
  else ⟨some (.ok ()), none, .ok none, accumulator⟩

/-- Present the evidence of an observation to the transaction. -/
def ask (session : EnrollmentSession) (observation : EnrollmentObservation) : AccumulatorTurn :=
  match session.observe observation with
  | (.ok (), active) =>
      { accumulator with
        session := some active
        lastAcceptedTimestamp := some observation.timestampMicros }.settle active
          observation.timestampMicros
  | (.error .insufficientQuality, active) =>
      ⟨some (.error .insufficientQuality), none, .ok none,
        { accumulator with session := some active }⟩
  | (.error error, active) =>
      ⟨some (.error error), none, .error .invalidEvidence,
        { accumulator with session := some active }⟩

/-- One observation: skipped, refused, taken, or the last one that is needed. -/
def observe (observation : DerivedBiometricObservation) : AccumulatorTurn :=
  if accumulator.skips observation then ⟨none, none, .ok none, accumulator⟩
  else
    match accumulator.passivePad.accepts observation.passiveLiveness with
    | .error _ => ⟨none, none, .error .inference, accumulator⟩
    | .ok passiveLivenessPassed =>
        match accumulator.session with
        | none => ⟨none, none, .error .internal, accumulator⟩
        | some session => accumulator.ask session (observation.forEnrollment passiveLivenessPassed)

/-- The observations that an accumulator gets, each with the accumulator before it, up to
the first with an error or a template. -/
def visits : EnrollmentAccumulator → List DerivedBiometricObservation →
    List (EnrollmentAccumulator × DerivedBiometricObservation)
  | _, [] => []
  | accumulator, observation :: observations =>
      (accumulator, observation) ::
        match (accumulator.observe observation).outcome with
        | .ok none => visits (accumulator.observe observation).after observations
        | .ok (some _) | .error _ => []

end EnrollmentAccumulator

/-! ## The transaction -/

namespace EnrollmentSession

variable {session active : EnrollmentSession} {observation : EnrollmentObservation}
  {accepted : List EnrollmentObservation}

/-- An invalid observation is neither one too many nor late for a failed session. -/
theorem validateObservation_ne {error : EnrollmentError}
    (invalid : session.validateObservation observation = .error error) :
    error ≠ .sampleLimitReached ∧ error ≠ .sessionFailed := by
  constructor
  all_goals
    rintro rfl
    simp only [validateObservation, require_bind_eq_error_iff, require_eq_error_iff,
      reduceCtorEq, and_false, or_self] at invalid

/-- An open transaction with room left only refuses what is wrong with the evidence. -/
theorem observe_ne {error : EnrollmentError} (open_ : session.terminalFailure = false)
    (room : session.samples.length < session.config.maximumSamples)
    (refused : (session.observe observation).1 = .error error) :
    error ≠ .sampleLimitReached ∧ error ≠ .sessionFailed := by
  rcases observe_refused open_ refused with invalid | ⟨-, full⟩ | rfl | rfl | rfl
  · exact validateObservation_ne invalid
  · exact absurd full (Nat.not_le_of_lt room)
  all_goals exact ⟨nofun, nofun⟩

/-- An accepted observation is the last one of a transaction that stays open. -/
theorem observe_accepts (observed : session.observe observation = (.ok (), active)) :
    active.terminalFailure = false ∧
      active.lastTimestampMicros = some observation.timestampMicros := by
  cases observe_cases observed with
  | retains open_ _ _ _ _ => exact ⟨open_, rfl⟩

/-- Only an accepted observation makes a transaction ready. -/
theorem accepted_of_ready (waits : session.readyToFinish = false)
    (ready : (session.observe observation).2.readyToFinish = true) :
    (session.observe observation).1 = .ok () := by
  obtain ⟨result, active, observed⟩ : ∃ result active,
      session.observe observation = (result, active) := ⟨_, _, rfl⟩
  rw [observed] at ready ⊢
  cases observe_cases observed with
  | failed _ | discarded _ => exact absurd (waits.symm.trans ready) Bool.false_ne_true
  | closes _ _ | rejects _ _ _ => cases ready
  | retains _ _ _ _ _ => rfl

/-- Summing up fails in one way only. -/
theorem accumulate_error {weight : Float32} {sums values : List Float32} {error : EnrollmentError}
    (failed : accumulate weight sums values = .error error) : error = .aggregateInvalid := by
  induction sums generalizing values with
  | nil => cases values <;> cases failed
  | cons sum sums ih =>
      cases values with
      | nil => cases failed
      | cons value values =>
          rw [accumulate, require_bind_eq_error_iff, bind_eq_error_iff] at failed
          rcases failed with ⟨-, same⟩ | ⟨-, more | ⟨rest, -, done⟩⟩
          · exact same.symm
          · exact ih more
          · cases done

/-- Aggregating fails in one way only. -/
theorem aggregate_error {samples : List (List Float32 × Float32)} {sums : List Float32 × Float32}
    {error : EnrollmentError} (failed : aggregate samples sums = .error error) :
    error = .aggregateInvalid := by
  induction samples generalizing sums with
  | nil => cases failed
  | cons sample samples ih =>
      rw [aggregate, bind_eq_error_iff] at failed
      rcases failed with first | ⟨next, -, rest⟩
      · exact accumulate_error first
      · exact ih rest

/-- Normalizing fails in one way only. -/
theorem normalize_error {values : List Float32} {error : EnrollmentError}
    (failed : normalize values = .error error) : error = .aggregateInvalid := by
  unfold normalize at failed
  split at failed
  · exact (Except.error.inj failed).symm
  · dsimp only at failed
    rw [require_bind_eq_error_iff, require_bind_eq_error_iff] at failed
    rcases failed with ⟨-, same⟩ | ⟨-, ⟨-, same⟩ | ⟨-, done⟩⟩
    · exact same.symm
    · exact same.symm
    · cases done

/-- The failures of finishing that are about the aggregate alone. -/
def Unaggregated (error : EnrollmentError) : Prop :=
  error = .aggregateInvalid ∨ ∃ reason, error = .storage reason

/-- A transaction that is ready in time fails to finish only for its aggregate. -/
theorem finish_unaggregated {error : EnrollmentError} {nowMicros : Nat}
    (retains : session.Retains accepted) (ready : session.readyToFinish = true)
    (inTime : nowMicros < session.deadlineMicros)
    (failed : session.finish nowMicros = .error error) : Unaggregated error := by
  rw [readyToFinish, Bool.and_eq_true, Bool.and_eq_true, decide_eq_true_eq] at ready
  obtain ⟨⟨open_, enough⟩, covered⟩ := ready
  have some_ : accepted ≠ [] := by
    rintro rfl
    have least := session.config_valid.2.2.1
    rw [retains.samples, List.map_nil, List.length_nil] at enough
    omega
  obtain ⟨first, member⟩ := List.exists_mem_of_ne_nil accepted some_
  obtain ⟨digest, dimension⟩ := retains.contract first member
  rw [finish, require_bind_eq_error_iff, require_bind_eq_error_iff, require_bind_eq_error_iff,
    require_bind_eq_error_iff, dimension, digest] at failed
  rcases failed with ⟨closed, -⟩ | ⟨-, ⟨late, -⟩ | ⟨-, ⟨few, -⟩ | ⟨-, ⟨bare, -⟩ | ⟨-, failed⟩⟩⟩⟩
  · exact absurd (by simpa using open_) closed
  · exact absurd inTime late
  · exact absurd enough few
  · exact absurd covered bare
  · dsimp only at failed
    rw [bind_eq_error_iff] at failed
    rcases failed with summing | ⟨⟨sums, total⟩, -, failed⟩
    · exact .inl (aggregate_error summing)
    · dsimp only at failed
      rw [require_bind_eq_error_iff, bind_eq_error_iff] at failed
      rcases failed with ⟨-, same⟩ | ⟨-, scaling | ⟨embedding, -, failed⟩⟩
      · exact .inl same.symm
      · exact .inl (normalize_error scaling)
      · rw [bind_eq_error_iff] at failed
        rcases failed with invalid | ⟨done, -, recorded⟩
        · obtain ⟨reason, -, same⟩ := mapError_eq_error invalid
          exact .inr ⟨reason, same⟩
        · cases recorded

end EnrollmentSession

/-! ## Turns -/

/-- The observation was passed over without a question. -/
def AccumulatorTurn.Skipped (turn : AccumulatorTurn) : Prop :=
  turn.answer = none ∧ turn.outcome = .ok none

namespace EnrollmentAccumulator

variable {accumulator : EnrollmentAccumulator} {session : EnrollmentSession}
  {observation : DerivedBiometricObservation} {turn : AccumulatorTurn}

/-- What becomes of a transaction that accepted an observation. -/
inductive Settles (accumulator : EnrollmentAccumulator) (active : EnrollmentSession)
    (completedAtMicros : Nat) : AccumulatorTurn → Prop where
  | finishes {record : TemplateRecord} (ready : active.readyToFinish = true)
      (finished : active.finish completedAtMicros = .ok record) :
      Settles accumulator active completedAtMicros
        ⟨some (.ok ()), some (.ok record), .ok (some record), { accumulator with session := none }⟩
  | fails {error : EnrollmentError} (ready : active.readyToFinish = true)
      (failed : active.finish completedAtMicros = .error error) :
      Settles accumulator active completedAtMicros
        ⟨some (.ok ()), some (.error error), .error .invalidEvidence,
          { accumulator with session := none }⟩
  | full (waits : active.readyToFinish = false) :
      Settles accumulator active completedAtMicros
        ⟨some (.ok ()), none, .error .attemptLimit, accumulator⟩
  | goesOn (waits : active.readyToFinish = false) (room : active.isFull = false) :
      Settles accumulator active completedAtMicros ⟨some (.ok ()), none, .ok none, accumulator⟩

/-- What happens after a sample was taken. -/
theorem settle_cases (accumulator : EnrollmentAccumulator) (active : EnrollmentSession)
    (completedAtMicros : Nat) :
    Settles accumulator active completedAtMicros
      (accumulator.settle active completedAtMicros) := by
  unfold settle
  split
  · next ready =>
      split
      · next record finished => exact .finishes ready finished
      · next error failed => exact .fails ready failed
  · next waits =>
      replace waits : active.readyToFinish = false := by simpa using waits
      split
      · exact .full waits
      · next room => exact .goesOn waits (by simpa using room)

/-- Whatever happens after a sample was taken, the observation was accepted. -/
theorem Settles.answer {active : EnrollmentSession} {completedAtMicros : Nat}
    (settles : Settles accumulator active completedAtMicros turn) :
    turn.answer = some (.ok ()) := by
  cases settles <;> rfl

/-- What an observation does while there is a transaction. -/
inductive Observes (accumulator : EnrollmentAccumulator) (session : EnrollmentSession)
    (observation : DerivedBiometricObservation) : AccumulatorTurn → Prop where
  | skips (close : accumulator.skips observation = true) :
      Observes accumulator session observation ⟨none, none, .ok none, accumulator⟩
  | unscored {reason : AuthenticationPipelineError} (apart : accumulator.skips observation = false)
      (unscored : accumulator.passivePad.accepts observation.passiveLiveness = .error reason) :
      Observes accumulator session observation ⟨none, none, .error .inference, accumulator⟩
  | refuses {passed : Bool} {error : EnrollmentError} {active : EnrollmentSession}
      (apart : accumulator.skips observation = false)
      (scored : accumulator.passivePad.accepts observation.passiveLiveness = .ok passed)
      (observed : session.observe (observation.forEnrollment passed) = (.error error, active))
      (final : error ≠ .insufficientQuality) :
      Observes accumulator session observation ⟨some (.error error), none, .error .invalidEvidence,
        { accumulator with session := some active }⟩
  | discards {passed : Bool} {active : EnrollmentSession}
      (apart : accumulator.skips observation = false)
      (scored : accumulator.passivePad.accepts observation.passiveLiveness = .ok passed)
      (observed : session.observe (observation.forEnrollment passed) =
        (.error .insufficientQuality, active)) :
      Observes accumulator session observation ⟨some (.error .insufficientQuality), none, .ok none,
        { accumulator with session := some active }⟩
  | settles {passed : Bool} {active : EnrollmentSession} {turn : AccumulatorTurn}
      (apart : accumulator.skips observation = false)
      (scored : accumulator.passivePad.accepts observation.passiveLiveness = .ok passed)
      (observed : session.observe (observation.forEnrollment passed) = (.ok (), active))
      (settles : Settles
        { accumulator with
          session := some active
          lastAcceptedTimestamp := some observation.completedAtMicros }
        active observation.completedAtMicros turn) :
      Observes accumulator session observation turn

/-- What an observation does to an accumulator that still holds its session. -/
theorem observe_cases (current : accumulator.session = some session) :
    Observes accumulator session observation (accumulator.observe observation) := by
  unfold observe
  split
  · next close => exact .skips close
  · next apart =>
      replace apart : accumulator.skips observation = false := by simpa using apart
      split
      · next reason unscored => exact .unscored apart unscored
      · next passed scored =>
          rw [current]
          dsimp only [ask]
          split
          · next active observed => exact .settles apart scored observed (settle_cases ..)
          · next active observed => exact .discards apart scored observed
          · next error active final observed =>
              exact .refuses apart scored observed final

/-- Exactly the observations that are too close are skipped. -/
theorem Observes.skipped_iff (observes : Observes accumulator session observation turn) :
    turn.Skipped ↔ accumulator.skips observation = true := by
  cases observes with
  | skips close => exact iff_of_true ⟨rfl, rfl⟩ close
  | unscored apart =>
      rw [apart]
      exact iff_of_false (fun skipped => nomatch skipped.2) Bool.false_ne_true
  | refuses apart | discards apart =>
      rw [apart]
      exact iff_of_false (fun skipped => nomatch skipped.1) Bool.false_ne_true
  | settles apart _ _ settles =>
      rw [apart, AccumulatorTurn.Skipped, settles.answer]
      exact iff_of_false (fun skipped => nomatch skipped.1) Bool.false_ne_true

/-- A question is one about the evidence of an observation. -/
theorem Observes.asked (observes : Observes accumulator session observation turn)
    {answer : Except EnrollmentError Unit} (asked : turn.answer = some answer) :
    ∃ passed, accumulator.passivePad.accepts observation.passiveLiveness = .ok passed ∧
      (session.observe (observation.forEnrollment passed)).1 = answer := by
  cases observes with
  | skips _ | unscored _ _ => cases asked
  | refuses _ scored observed | discards _ scored observed =>
      obtain rfl := Option.some.inj asked
      exact ⟨_, scored, congrArg Prod.fst observed⟩
  | settles _ scored observed settles =>
      rw [settles.answer] at asked
      obtain rfl := Option.some.inj asked
      exact ⟨_, scored, congrArg Prod.fst observed⟩

/-- A transaction that an accepted observation makes ready is finished at once. -/
theorem Observes.finished (observes : Observes accumulator session observation turn)
    {passed : Bool} (apart : ¬ turn.Skipped)
    (scored : accumulator.passivePad.accepts observation.passiveLiveness = .ok passed)
    (waits : session.readyToFinish = false)
    (ready : (session.observe (observation.forEnrollment passed)).2.readyToFinish = true) :
    (∃ record, (session.observe (observation.forEnrollment passed)).2.finish
        observation.completedAtMicros = .ok record ∧
      turn.finished = some (.ok record) ∧ turn.outcome = .ok (some record)) ∨
    ∃ error, (session.observe (observation.forEnrollment passed)).2.finish
        observation.completedAtMicros = .error error ∧
      turn.finished = some (.error error) ∧ turn.outcome = .error .invalidEvidence := by
  have accepted := EnrollmentSession.accepted_of_ready waits ready
  cases observes with
  | skips close => exact absurd ⟨rfl, rfl⟩ apart
  | unscored _ unscored => cases unscored.symm.trans scored
  | refuses _ known observed | discards _ known observed =>
      obtain rfl := Except.ok.inj (known.symm.trans scored)
      rw [observed] at accepted
      cases accepted
  | settles _ known observed settles =>
      obtain rfl := Except.ok.inj (known.symm.trans scored)
      rw [observed] at ready ⊢
      cases settles with
      | finishes _ finished => exact .inl ⟨_, finished, rfl, rfl⟩
      | fails _ failed => exact .inr ⟨_, failed, rfl, rfl⟩
      | full waits | goesOn waits _ => exact absurd (waits.symm.trans ready) Bool.false_ne_true

/-- Only a transaction that an accepted observation makes ready is finished. -/
theorem Observes.ready (observes : Observes accumulator session observation turn)
    {result : Except EnrollmentError TemplateRecord} (finished : turn.finished = some result) :
    ∃ passed, accumulator.passivePad.accepts observation.passiveLiveness = .ok passed ∧
      (session.observe (observation.forEnrollment passed)).1 = .ok () ∧
      (session.observe (observation.forEnrollment passed)).2.readyToFinish = true ∧
      (session.observe (observation.forEnrollment passed)).2.finish
        observation.completedAtMicros = result := by
  cases observes with
  | skips _ | unscored _ _ | refuses _ _ _ _ | discards _ _ _ => cases finished
  | settles _ scored observed settles =>
      refine ⟨_, scored, congrArg Prod.fst observed, ?_⟩
      rw [observed]
      cases settles with
      | finishes ready made =>
          obtain rfl := Option.some.inj finished
          exact ⟨ready, made⟩
      | fails ready failed =>
          obtain rfl := Option.some.inj finished
          exact ⟨ready, failed⟩
      | full _ | goesOn _ _ => cases finished

/-- A template only comes from finishing. -/
theorem Observes.broken (observes : Observes accumulator session observation turn)
    {record : TemplateRecord} (broken : turn.outcome = .ok (some record)) :
    turn.finished = some (.ok record) := by
  cases observes with
  | skips _ | unscored _ _ | refuses _ _ _ _ | discards _ _ _ => cases broken
  | settles _ _ _ settles =>
      cases settles with
      | finishes _ _ =>
          obtain rfl := Option.some.inj (Except.ok.inj broken)
          rfl
      | fails _ _ | full _ | goesOn _ _ => cases broken

end EnrollmentAccumulator

/-! ## Agreement -/

/-- So close to the last accepted observation that another one is stale. -/
def EnrollmentSession.TooClose (session : EnrollmentSession) (timestampMicros : Nat) : Prop :=
  ∃ previous, session.lastTimestampMicros = some previous ∧
    timestampMicros - previous < session.config.minimumSampleIntervalMicros

/-- Inside the window of a transaction, and after its last accepted observation. -/
structure EnrollmentSession.Awaits (session : EnrollmentSession) (timestampMicros : Nat) :
    Prop where
  issued : session.issuedAtMicros < timestampMicros
  inTime : timestampMicros < session.deadlineMicros
  later : ∀ previous, session.lastTimestampMicros = some previous → previous < timestampMicros

/-- An observation of a waiting session is fresh unless it comes too close to the last one. -/
theorem EnrollmentSession.Awaits.fresh_iff {session : EnrollmentSession} {timestampMicros : Nat}
    (awaits : session.Awaits timestampMicros) :
    session.Fresh timestampMicros ↔ ¬ session.TooClose timestampMicros := by
  obtain ⟨issued, inTime, later⟩ := awaits
  unfold Fresh TooClose
  cases last : session.lastTimestampMicros with
  | none => simp [issued, inTime]
  | some previous =>
      have order := later previous last
      simp [issued, inTime, order]

namespace EnrollmentAccumulator

variable {accumulator : EnrollmentAccumulator} {session : EnrollmentSession}
  {observation : DerivedBiometricObservation} {accepted : List EnrollmentObservation}

/-- What an accumulator and its transaction agree on about an observation. -/
structure Agrees (accumulator : EnrollmentAccumulator) (observation : DerivedBiometricObservation)
    (session : EnrollmentSession) : Prop where
  current : accumulator.session = some session
  waits : session.readyToFinish = false
  asked : ∀ answer, (accumulator.observe observation).answer = some answer →
    ∃ passed, accumulator.passivePad.accepts observation.passiveLiveness = .ok passed ∧
      (session.observe (observation.forEnrollment passed)).1 = answer
  answers : ∀ error, (accumulator.observe observation).answer = some (.error error) →
    error ≠ .staleObservation ∧ error ≠ .sampleLimitReached ∧ error ≠ .sessionFailed
  spacing : (accumulator.observe observation).Skipped ↔
    session.TooClose observation.completedAtMicros
  skips : ∀ passed, (accumulator.observe observation).Skipped ↔
    (session.observe (observation.forEnrollment passed)).1 = .error .staleObservation
  finishes : ∀ passed,
    accumulator.passivePad.accepts observation.passiveLiveness = .ok passed →
    ¬ (accumulator.observe observation).Skipped →
    (session.observe (observation.forEnrollment passed)).2.readyToFinish = true →
    (∃ record, (session.observe (observation.forEnrollment passed)).2.finish
        observation.completedAtMicros = .ok record ∧
      (accumulator.observe observation).finished = some (.ok record) ∧
      (accumulator.observe observation).outcome = .ok (some record)) ∨
    ∃ error, (session.observe (observation.forEnrollment passed)).2.finish
        observation.completedAtMicros = .error error ∧
      (accumulator.observe observation).finished = some (.error error) ∧
      (accumulator.observe observation).outcome = .error .invalidEvidence
  finished : ∀ result, (accumulator.observe observation).finished = some result →
    ∃ passed, accumulator.passivePad.accepts observation.passiveLiveness = .ok passed ∧
      (session.observe (observation.forEnrollment passed)).1 = .ok () ∧
      (session.observe (observation.forEnrollment passed)).2.readyToFinish = true ∧
      (session.observe (observation.forEnrollment passed)).2.finish
        observation.completedAtMicros = result
  breaks : ∀ record, (accumulator.observe observation).outcome = .ok (some record) →
    (accumulator.observe observation).finished = some (.ok record)
  unfinished : ∀ error, (accumulator.observe observation).finished = some (.error error) →
    error = .aggregateInvalid ∨ ∃ reason, error = .storage reason

/-- The accumulator repeats what its transaction keeps of the accepted observations. -/
structure Tracks (accumulator : EnrollmentAccumulator) (session : EnrollmentSession)
    (accepted : List EnrollmentObservation) : Prop where
  current : accumulator.session = some session
  interval : accumulator.minimumSampleIntervalMicros = session.config.minimumSampleIntervalMicros
  last : accumulator.lastAcceptedTimestamp = session.lastTimestampMicros
  open_ : session.terminalFailure = false
  room : session.samples.length < session.config.maximumSamples
  waits : session.readyToFinish = false
  retains : session.Retains accepted

/-- The accumulator skips exactly what would be too close for its session. -/
theorem Tracks.skips_iff (tracks : Tracks accumulator session accepted) :
    accumulator.skips observation = true ↔ session.TooClose observation.completedAtMicros := by
  rw [skips, tracks.last, tracks.interval, Option.any_eq_true]
  simp [EnrollmentSession.TooClose]

/-- One observation finds the two in agreement. -/
theorem Tracks.agrees (tracks : Tracks accumulator session accepted)
    (awaits : session.Awaits observation.completedAtMicros) :
    Agrees accumulator observation session := by
  have observes : Observes _ _ observation _ := observe_cases tracks.current
  have spacing : (accumulator.observe observation).Skipped ↔
      session.TooClose observation.completedAtMicros :=
    observes.skipped_iff.trans tracks.skips_iff
  have skips : ∀ passed, (accumulator.observe observation).Skipped ↔
      (session.observe (observation.forEnrollment passed)).1 = .error .staleObservation := by
    intro passed
    rw [EnrollmentSession.observe_staleObservation_iff tracks.open_]
    change _ ↔ ¬ session.Fresh observation.completedAtMicros
    rw [awaits.fresh_iff, not_not, spacing]
  refine ⟨tracks.current, tracks.waits, fun answer => observes.asked, ?_, spacing, skips,
    fun passed scored apart => observes.finished apart scored tracks.waits,
    fun result => observes.ready, fun record => observes.broken, ?_⟩
  · intro error answered
    obtain ⟨passed, -, refused⟩ := observes.asked answered
    refine ⟨?_, EnrollmentSession.observe_ne tracks.open_ tracks.room refused⟩
    rintro rfl
    obtain ⟨silent, -⟩ := (skips passed).mpr refused
    cases silent.symm.trans answered
  · intro error failed
    obtain ⟨passed, -, observed, ready, failed⟩ := observes.ready failed
    obtain ⟨continues, retains⟩ :=
      tracks.retains.observe (Prod.ext observed rfl : session.observe _ = (.ok (), _))
    apply EnrollmentSession.finish_unaggregated retains ready _ failed
    rw [continues.deadlineMicros]
    exact awaits.inTime

/-- An observation that goes on leaves the two as they have to be. -/
theorem Tracks.next (tracks : Tracks accumulator session accepted)
    (goesOn : (accumulator.observe observation).outcome = .ok none) :
    ∃ next accepted, Tracks (accumulator.observe observation).after next accepted ∧
      session.Continues next ∧
      (next.lastTimestampMicros = session.lastTimestampMicros ∨
        next.lastTimestampMicros = some observation.completedAtMicros) := by
  have observes : Observes _ _ observation _ := observe_cases tracks.current
  generalize accumulator.observe observation = turn at observes goesOn
  cases observes with
  | skips close => exact ⟨session, accepted, tracks, .refl _, .inl rfl⟩
  | unscored _ _ | refuses _ _ _ _ => cases goesOn
  | discards _ _ observed =>
      obtain rfl := EnrollmentSession.observe_discards observed
      exact ⟨_, accepted, { tracks with current := rfl }, .refl _, .inl rfl⟩
  | settles _ _ observed settles =>
      cases settles with
      | finishes _ _ | fails _ _ | full _ => cases goesOn
      | goesOn waits room =>
          obtain ⟨continues, retains⟩ := tracks.retains.observe observed
          obtain ⟨open_, last⟩ := EnrollmentSession.observe_accepts observed
          have left : _ < _ := Nat.lt_of_not_le (of_decide_eq_false room)
          have interval := tracks.interval.trans
            (congrArg EnrollmentConfig.minimumSampleIntervalMicros continues.config.symm)
          exact ⟨_, _, ⟨rfl, interval, last.symm, open_, left, waits, retains⟩, continues,
            .inr last⟩

/-- A visit is the first observation, or one that follows when the session goes on. -/
theorem mem_visits_cons {first : DerivedBiometricObservation}
    {observations : List DerivedBiometricObservation}
    {visit : EnrollmentAccumulator × DerivedBiometricObservation}
    (member : visit ∈ accumulator.visits (first :: observations)) :
    visit = (accumulator, first) ∨ ((accumulator.observe first).outcome = .ok none ∧
      visit ∈ (accumulator.observe first).after.visits observations) := by
  rw [visits] at member
  cases member with
  | head => exact .inl rfl
  | tail _ member =>
      split at member
      · next goesOn => exact .inr ⟨goesOn, member⟩
      · cases member
      · cases member

/-- The first observation is visited. -/
theorem head_mem_visits (first : DerivedBiometricObservation)
    (observations : List DerivedBiometricObservation) :
    (accumulator, first) ∈ accumulator.visits (first :: observations) := by
  rw [visits]
  exact .head _

/-- The others are visited after the first one when the session goes on. -/
theorem visits_of_goesOn {first : DerivedBiometricObservation}
    {observations : List DerivedBiometricObservation}
    (goesOn : (accumulator.observe first).outcome = .ok none) :
    accumulator.visits (first :: observations) =
      (accumulator, first) :: (accumulator.observe first).after.visits observations := by
  rw [visits, goesOn]

/-- Every observation of increasing ones in the window finds the two in agreement. -/
theorem Tracks.visits (tracks : Tracks accumulator session accepted)
    {observations : List DerivedBiometricObservation}
    (increasing : observations.Pairwise fun first second =>
      first.completedAtMicros < second.completedAtMicros)
    (awaits : ∀ observation ∈ observations, session.Awaits observation.completedAtMicros) :
    ∀ visit ∈ accumulator.visits observations,
      ∃ current, session.Continues current ∧ Agrees visit.1 visit.2 current := by
  induction observations generalizing accumulator session accepted with
  | nil => exact fun visit member => (List.not_mem_nil member).elim
  | cons first observations ih =>
      intro visit member
      obtain ⟨after, increasing⟩ := List.pairwise_cons.mp increasing
      rcases mem_visits_cons member with rfl | ⟨goesOn, member⟩
      · exact ⟨session, .refl _, tracks.agrees (awaits first List.mem_cons_self)⟩
      · obtain ⟨next, _, tracks, continues, last⟩ := tracks.next goesOn
        have still : ∀ observation ∈ observations, next.Awaits observation.completedAtMicros := by
          intro observation member
          have waits := awaits observation (.tail _ member)
          refine ⟨continues.issuedAtMicros ▸ waits.issued, continues.deadlineMicros ▸ waits.inTime,
            fun previous known => ?_⟩
          rcases last with same | last
          · exact waits.later previous (same.symm.trans known)
          · obtain rfl := Option.some.inj (last.symm.trans known)
            exact after observation member
        obtain ⟨current, goesOn, agrees⟩ := ih tracks increasing still visit member
        exact ⟨current, continues.trans goesOn, agrees⟩

/-- An accumulator of a transaction that was just started tracks it. -/
theorem tracks_new {config : EnrollmentConfig} (configured : config.validate = .ok ())
    (uid : UInt32) (issuedAtMicros deadlineMicros : Nat) (passivePad : PassivePadPolicy) :
    Tracks (.new (.opened config configured uid issuedAtMicros deadlineMicros) passivePad
        config.minimumSampleIntervalMicros)
      (.opened config configured uid issuedAtMicros deadlineMicros) [] := by
  have enough := configured
  rw [EnrollmentConfig.validate, require_eq_ok_iff] at enough
  obtain ⟨-, ⟨least, -⟩, order, -⟩ := enough
  refine ⟨rfl, rfl, rfl, rfl, ?_, ?_, EnrollmentSession.retains_opened ..⟩
  · exact Nat.lt_of_lt_of_le (by omega : 0 < config.minimumSamples) order
  · rw [EnrollmentSession.readyToFinish, decide_eq_false]
    · rfl
    · exact Nat.not_le_of_lt (by omega : 0 < config.minimumSamples)

end EnrollmentAccumulator

/-- One model and one threshold for each camera. -/
def steadyPad : PassivePadPolicy :=
  ⟨List.replicate 64 97, 0.5, List.replicate 64 98, 0.5, none⟩

/-- Scores that pass the policy of the example. -/
def steadyScores : List PassiveLivenessScore :=
  [⟨.passiveLivenessInfrared, List.replicate 64 97, 0.8, by decide +kernel⟩,
    ⟨.passiveLivenessVisible, List.replicate 64 98, 0.75, by decide +kernel⟩]

/-- An observation of one face that is live. -/
def steadyDerived (completedAtMicros : Nat) (quality yawDegrees : Float32) :
    DerivedBiometricObservation :=
  ⟨⟨completedAtMicros, some completedAtMicros⟩, quality, yawDegrees,
    ⟨List.replicate 64 97, 1.0 :: List.replicate 31 0.0⟩, steadyScores, completedAtMicros⟩

/-- In every run over increasing observations in the window, the accumulator and its
transaction agree about each observation. -/
theorem accumulator_agrees {config : EnrollmentConfig} {uid : UInt32} {issuedAtMicros : Nat}
    {session : EnrollmentSession} {observations : List DerivedBiometricObservation}
    (started : EnrollmentSession.start config uid issuedAtMicros = .ok session)
    (increasing : observations.Pairwise fun first second =>
      first.completedAtMicros < second.completedAtMicros)
    (window : ∀ observation ∈ observations,
      session.issuedAtMicros < observation.completedAtMicros ∧
        observation.completedAtMicros < session.deadlineMicros) (passivePad : PassivePadPolicy) :
    ∀ visit ∈ (EnrollmentAccumulator.new session passivePad
        config.minimumSampleIntervalMicros).visits observations,
      ∃ current, session.Continues current ∧
        EnrollmentAccumulator.Agrees visit.1 visit.2 current := by
  obtain ⟨configured, rfl⟩ := EnrollmentSession.start_eq_ok started
  apply (EnrollmentAccumulator.tracks_new configured uid issuedAtMicros _ passivePad).visits
    increasing
  intro observation member
  exact ⟨(window observation member).1, (window observation member).2, nofun⟩

/-- The second observation is too close to the first. -/
theorem accumulator_agrees_steady :
    ∃ visit ∈ (EnrollmentAccumulator.new steadySession steadyPad 250_000).visits
        [steadyDerived 2_000_000 0.8 (-10.0), steadyDerived 2_100_000 0.8 10.0],
      ∃ current, steadySession.Continues current ∧ visit.2.completedAtMicros = 2_100_000 ∧
        (current.observe (visit.2.forEnrollment true)).1 = .error .staleObservation := by
  have started : EnrollmentSession.start steadyConfig 1000 1_000_000 = .ok steadySession :=
    EnrollmentSession.start_opened steadyConfig_valid 1000 (by decide)
  have agrees := @accumulator_agrees steadyConfig 1000 1_000_000 steadySession
    [steadyDerived 2_000_000 0.8 (-10.0), steadyDerived 2_100_000 0.8 10.0] started
    (by decide +kernel) (by decide +kernel) steadyPad
  have goesOn : ((EnrollmentAccumulator.new steadySession steadyPad 250_000).observe
      (steadyDerived 2_000_000 0.8 (-10.0))).outcome = .ok none := by decide +kernel
  have member : (((EnrollmentAccumulator.new steadySession steadyPad 250_000).observe
      (steadyDerived 2_000_000 0.8 (-10.0))).after, steadyDerived 2_100_000 0.8 10.0) ∈
      (EnrollmentAccumulator.new steadySession steadyPad 250_000).visits
        [steadyDerived 2_000_000 0.8 (-10.0), steadyDerived 2_100_000 0.8 10.0] := by
    rw [EnrollmentAccumulator.visits_of_goesOn goesOn]
    exact .tail _ (EnrollmentAccumulator.head_mem_visits ..)
  obtain ⟨current, continues, agrees⟩ := agrees _ member
  refine ⟨_, member, current, continues, rfl, (agrees.skips true).mp ⟨?_, ?_⟩⟩
  all_goals decide +kernel

/-! ## Templates -/

/-- The first observation that makes the transaction ready ends the observations with a
template. -/
def EnrollmentAccumulator.BreaksWhenReady (accumulator : EnrollmentAccumulator)
    (observation : DerivedBiometricObservation) : Prop :=
  ∀ session passed, accumulator.session = some session → session.readyToFinish = false →
    accumulator.passivePad.accepts observation.passiveLiveness = .ok passed →
    ¬ (accumulator.observe observation).Skipped →
    (session.observe (observation.forEnrollment passed)).2.readyToFinish = true →
    ∃ record, (accumulator.observe observation).outcome = .ok (some record)

/-- Bounds that admit any quality. -/
def weightlessConfig : EnrollmentConfig := { steadyConfig with minimumQuality := 0.0 }

/-- The configuration of the example is valid. -/
theorem weightlessConfig_valid : weightlessConfig.validate = .ok () := by decide +kernel

/-- A transaction with these bounds. -/
def weightlessSession : EnrollmentSession :=
  .opened weightlessConfig weightlessConfig_valid 1000 1_000_000 31_000_000

/-- Samples of no quality have no weight in a template. -/
def weightlessObservations : List DerivedBiometricObservation :=
  [steadyDerived 2_000_000 0.0 (-10.0), steadyDerived 3_000_000 0.0 0.0,
    steadyDerived 4_000_000 0.0 10.0]

/-- A transaction that is ready may have no template. -/
theorem accumulator_weightless :
    ¬ ∀ config uid issuedAtMicros session observations passivePad,
      EnrollmentSession.start config uid issuedAtMicros = .ok session →
      (observations.Pairwise fun first second : DerivedBiometricObservation =>
        first.completedAtMicros < second.completedAtMicros) →
      (∀ observation ∈ observations, session.issuedAtMicros < observation.completedAtMicros ∧
        observation.completedAtMicros < session.deadlineMicros) →
      ∀ visit ∈ (EnrollmentAccumulator.new session passivePad
          config.minimumSampleIntervalMicros).visits observations,
        visit.1.BreaksWhenReady visit.2 := by
  intro breaks
  have started := @EnrollmentSession.start_opened _ weightlessConfig_valid 1000 1_000_000
    (by decide)
  have increasing : weightlessObservations.Pairwise fun first second =>
      first.completedAtMicros < second.completedAtMicros := by decide +kernel
  have window : ∀ observation ∈ weightlessObservations,
      1_000_000 < observation.completedAtMicros ∧
        observation.completedAtMicros < 31_000_000 := by decide +kernel
  have breaks := breaks _ _ _ weightlessSession _ steadyPad started increasing window
  have tracks : EnrollmentAccumulator.Tracks
      (.new weightlessSession steadyPad weightlessConfig.minimumSampleIntervalMicros)
      weightlessSession [] := EnrollmentAccumulator.tracks_new ..
  have agrees := tracks.visits increasing fun observation member =>
    ⟨(window observation member).1, (window observation member).2, nofun⟩
  generalize shape : EnrollmentAccumulator.new weightlessSession steadyPad
    weightlessConfig.minimumSampleIntervalMicros = accumulator at breaks agrees
  obtain ⟨first, second, third⟩ :
      (accumulator.observe (steadyDerived 2_000_000 0.0 (-10.0))).outcome = .ok none ∧
      ((accumulator.observe (steadyDerived 2_000_000 0.0 (-10.0))).after.observe
        (steadyDerived 3_000_000 0.0 0.0)).outcome = .ok none ∧
      (((accumulator.observe (steadyDerived 2_000_000 0.0 (-10.0))).after.observe
        (steadyDerived 3_000_000 0.0 0.0)).after.observe
          (steadyDerived 4_000_000 0.0 10.0)).finished = some (.error .aggregateInvalid) := by
    rw [← shape]
    decide +kernel
  generalize last : ((accumulator.observe (steadyDerived 2_000_000 0.0 (-10.0))).after.observe
    (steadyDerived 3_000_000 0.0 0.0)).after = weightless at third
  have member : (weightless, steadyDerived 4_000_000 0.0 10.0) ∈
      accumulator.visits weightlessObservations := by
    rw [weightlessObservations, EnrollmentAccumulator.visits_of_goesOn first,
      EnrollmentAccumulator.visits_of_goesOn second, last]
    exact .tail _ (.tail _ (EnrollmentAccumulator.head_mem_visits ..))
  obtain ⟨current, -, agrees⟩ := agrees _ member
  obtain ⟨passed, scored, observed, ready, -⟩ := agrees.finished _ third
  have apart : ¬ (weightless.observe (steadyDerived 4_000_000 0.0 10.0)).Skipped := by
    intro skipped
    cases ((agrees.skips passed).mp skipped).symm.trans observed
  obtain ⟨record, broken⟩ :=
    breaks _ member current passed agrees.current agrees.waits scored apart ready
  cases third.symm.trans (agrees.breaks record broken)

end FaceAuth
