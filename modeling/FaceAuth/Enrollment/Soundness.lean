import FaceAuth.Enrollment.Session
import FaceAuth.Foundation.Machine

/-!
# What an enrollment retains

The retained samples explain themselves: they are what was derived from the
accepted observations, which are fresh, spaced, live, of quality, and similar to
each other. A template is made from them alone.
-/

namespace FaceAuth

open Foundation

/-! ## Similarity -/

/-- The similarity does not depend on the order. -/
theorem mappedCosine_comm (left right : List Float32) :
    mappedCosine left right = mappedCosine right left := by
  unfold mappedCosine
  rw [finiteDot_comm]
  by_cases same : left.length = right.length
  · rw [require, require, if_pos same, if_pos same.symm]
  · rw [require, require, if_neg same, if_neg (Ne.symm same)]

/-- Every partial sum is finite. -/
theorem isFinite_of_finiteDot {left right : List Float32} {sum : Float32}
    (summed : finiteDot left right = some sum) : sum.isFinite = true := by
  have general : ∀ (pairs : List (Float32 × Float32)) (before : Float32),
      before.isFinite = true →
        pairs.foldlM (fun sum pair =>
          let next := fusedMulAdd pair.1 pair.2 sum
          if next.isFinite then some next else none) before = some sum → sum.isFinite = true := by
    intro pairs
    induction pairs with
    | nil =>
        intro before finite same
        cases same
        exact finite
    | cons pair pairs ih =>
        intro before finite same
        rw [List.foldlM_cons] at same
        obtain ⟨next, stepped, rest⟩ := Option.bind_eq_some_iff.mp same
        dsimp only at stepped
        split at stepped
        · next finite =>
            cases stepped
            exact ih _ finite rest
        · cases stepped
  exact general _ _ (by decide +kernel) summed

/-- A similarity is a number. -/
theorem isNaN_mappedCosine {left right : List Float32} {similarity : Float32}
    (mapped : mappedCosine left right = .ok similarity) :
    similarity.toModel.unpack.isNaN = false := by
  unfold mappedCosine at mapped
  rw [check_bind_eq_ok_iff] at mapped
  obtain ⟨-, mapped⟩ := mapped
  split at mapped
  · cases mapped
  · next cosine summed =>
      cases mapped
      apply isNaN_fusedMulAdd
      · exact isFinite_clamp (isFinite_of_finiteDot summed) (by decide +kernel) (by decide +kernel)
      · decide +kernel
      · decide +kernel

/-- Two samples meet the consistency minimum. -/
def Consistent (minimum : Float32) (first second : List Float32) : Prop :=
  ∃ similarity, mappedCosine first second = .ok similarity ∧ minimum ≤ similarity

/-- Nor does consistency. -/
theorem Consistent.symm {minimum : Float32} {first second : List Float32}
    (consistent : Consistent minimum first second) : Consistent minimum second first := by
  unfold Consistent
  rw [mappedCosine_comm]
  exact consistent

/-- A sample that passes is consistent with all earlier ones. -/
theorem checkConsistency_eq_ok {minimum : Float32} {values : List Float32}
    {samples : List (List Float32)} (finite : minimum.isFinite = true)
    (checked : checkConsistency minimum values samples = .ok ()) :
    ∀ existing ∈ samples, Consistent minimum existing values := by
  induction samples with
  | nil => nofun
  | cons sample samples ih =>
      unfold checkConsistency at checked
      obtain ⟨similarity, mapped, rest⟩ := bind_eq_ok_iff.mp checked
      rw [check_bind_eq_ok_iff, require_eq_ok_iff] at rest
      obtain ⟨above, rest⟩ := rest
      intro existing member
      rcases List.mem_cons.mp member with rfl | later
      · exact ⟨similarity, mapped, float_le_of_isNaN (isNaN_mappedCosine mapped)
          (isNaN_of_isFinite finite) above⟩
      · exact ih rest existing later

/-- Comparing fails in two ways only. -/
theorem mappedCosine_error {left right : List Float32} {error : EnrollmentError}
    (failed : mappedCosine left right = .error error) :
    error = .embeddingIncompatible ∨ error = .embeddingInvalid := by
  unfold mappedCosine at failed
  rw [require_bind_eq_error_iff] at failed
  rcases failed with ⟨-, same⟩ | ⟨-, failed⟩
  · exact .inl same.symm
  · split at failed
    · exact .inr (Except.error.inj failed).symm
    · cases failed

/-- What a comparison with the retained samples fails with. -/
theorem checkConsistency_error {minimum : Float32} {values : List Float32}
    {samples : List (List Float32)} {error : EnrollmentError}
    (failed : checkConsistency minimum values samples = .error error) :
    error = .inconsistentIdentity ∨ error = .embeddingIncompatible ∨
      error = .embeddingInvalid := by
  induction samples with
  | nil => cases failed
  | cons sample samples ih =>
      rw [checkConsistency, bind_eq_error_iff] at failed
      rcases failed with mapped | ⟨similarity, -, failed⟩
      · exact .inr (mappedCosine_error mapped)
      · rw [require_bind_eq_error_iff] at failed
        rcases failed with ⟨-, same⟩ | ⟨-, failed⟩
        · exact .inl same.symm
        · exact ih failed

/-- An inconsistent sample closes the transaction. -/
theorem checkConsistency_terminal {minimum : Float32} {values : List Float32}
    {samples : List (List Float32)} {error : EnrollmentError}
    (failed : checkConsistency minimum values samples = .error error) :
    error.isTerminalObservationFailure = true := by
  rcases checkConsistency_error failed with rfl | rfl | rfl <;> rfl

/-! ## Observations -/

namespace EnrollmentSession

variable {session next : EnrollmentSession} {observation : EnrollmentObservation}
  {result : Except EnrollmentError Unit}

/-- What a valid observation is. -/
structure Admits (session : EnrollmentSession) (observation : EnrollmentObservation) : Prop where
  fresh : session.Fresh observation.timestampMicros
  quality : UnitScore observation.quality ∧ session.config.minimumQuality ≤ observation.quality
  yaw : observation.yawDegrees.isFinite = true ∧ -90.0 ≤ observation.yawDegrees ∧
    observation.yawDegrees ≤ 90.0
  live : observation.passiveLivenessPassed = true ∧ observation.activeLivenessPassed = true
  dimension : 32 ≤ observation.embedding.values.length ∧
    observation.embedding.values.length ≤ 4096

/-- What a session knows about its configuration. -/
theorem config_valid (session : EnrollmentSession) :
    UnitScore session.config.minimumQuality ∧ UnitScore session.config.minimumSampleSimilarity ∧
      3 ≤ session.config.minimumSamples ∧ 0 < session.config.minimumSampleIntervalMicros := by
  have configured := session.configured
  rw [EnrollmentConfig.validate, require_eq_ok_iff] at configured
  obtain ⟨-, samples, -, -, quality, similarity, interval, -⟩ := configured
  exact ⟨quality, similarity, samples.1, by omega⟩

/-- A valid observation is admitted. -/
theorem admits_of_validate (valid : session.validateObservation observation = .ok ()) :
    session.Admits observation := by
  simp only [validateObservation, check_bind_eq_ok_iff, require_eq_ok_iff] at valid
  obtain ⟨fresh, ⟨unit, above⟩, yaw, live, dimension⟩ := valid
  exact ⟨fresh, ⟨unit, float_le_of_not_lt unit.1 session.config_valid.1.1 above⟩, yaw, live,
    dimension⟩

/-- The digest and the dimension, if they are fixed, are those of an embedding. -/
def Matches (session : EnrollmentSession) (embedding : FaceEmbedding) : Prop :=
  ∀ digest dimension, session.compatibilitySha256 = some digest →
    session.dimension = some dimension →
      digest = embedding.compatibilitySha256 ∧ dimension = embedding.values.length

/-- The transaction with the digest and the dimension of an embedding. -/
def withContract (session : EnrollmentSession) (embedding : FaceEmbedding) : EnrollmentSession :=
  { session with
    compatibilitySha256 := some embedding.compatibilitySha256
    dimension := some embedding.values.length }

/-- A session is bound to the model of its first embedding. -/
theorem bindContract_eq_some {embedding : FaceEmbedding}
    (bound : session.bindContract embedding = some next) :
    session.Matches embedding ∧ next = session.withContract embedding := by
  unfold bindContract at bound
  split at bound
  · next digest dimension fixed sized =>
      split at bound <;> cases bound
      next same =>
        refine ⟨fun other size known long => ?_, ?_⟩
        · rw [fixed] at known
          rw [sized] at long
          cases known
          cases long
          exact same
        · rw [withContract, ← same.1, ← same.2, ← fixed, ← sized]
  · next open_ =>
      cases bound
      exact ⟨fun digest dimension known long => (open_ _ _ known long).elim, rfl⟩

/-- What an observation does. -/
inductive Observes (session : EnrollmentSession) (observation : EnrollmentObservation) :
    Except EnrollmentError Unit → EnrollmentSession → Prop where
  | failed (closed : session.terminalFailure = true) :
      Observes session observation (.error .sessionFailed) session
  | discarded (open_ : session.terminalFailure = false) :
      Observes session observation (.error .insufficientQuality) session
  | closes {error : EnrollmentError} (open_ : session.terminalFailure = false)
      (terminal : error.isTerminalObservationFailure = true) :
      Observes session observation (.error error) { session with terminalFailure := true }
  | rejects {error : EnrollmentError} (open_ : session.terminalFailure = false)
      (terminal : error.isTerminalObservationFailure = true)
      (matching : session.Matches observation.embedding) :
      Observes session observation (.error error)
        { session.withContract observation.embedding with terminalFailure := true }
  | retains (open_ : session.terminalFailure = false) (admits : session.Admits observation)
      (room : session.samples.length < session.config.maximumSamples)
      (matching : session.Matches observation.embedding)
      (consistent : ∀ existing ∈ session.samples,
        Consistent session.config.minimumSampleSimilarity existing observation.embedding.values) :
      Observes session observation (.ok ())
        ((session.withContract observation.embedding).retain observation)

/-- What one observation does. -/
theorem observe_cases (observed : session.observe observation = (result, next)) :
    session.Observes observation result next := by
  unfold observe at observed
  split at observed
  · next closed =>
      cases observed
      exact .failed closed
  · next open_ =>
      replace open_ : session.terminalFailure = false := by simpa using open_
      unfold observeInner at observed
      cases valid : session.validateObservation observation with
      | error error =>
          rw [valid] at observed
          cases observed
          dsimp only [settled]
          split
          · next terminal => exact .closes open_ terminal
          · next retry =>
              have same : error = .insufficientQuality := by
                cases error <;> first | rfl | exact (retry rfl).elim
              subst same
              exact .discarded open_
      | ok done =>
          rw [valid] at observed
          dsimp only at observed
          split at observed
          · cases observed
            exact .closes open_ rfl
          · next room =>
              split at observed
              · cases observed
                exact .closes open_ rfl
              · next bound found =>
                  obtain ⟨matching, rfl⟩ := bindContract_eq_some found
                  split at observed
                  · next error failed =>
                      cases observed
                      have terminal := checkConsistency_terminal failed
                      dsimp only [settled]
                      rw [if_pos terminal]
                      exact .rejects open_ terminal matching
                  · next checked =>
                      cases observed
                      exact .retains open_ (admits_of_validate valid) (Nat.lt_of_not_le room)
                        matching (checkConsistency_eq_ok session.config_valid.2.1.1 checked)

/-! ## The invariant -/

/-- The retained samples are what was derived from the accepted observations. -/
structure Retains (session : EnrollmentSession) (accepted : List EnrollmentObservation) :
    Prop where
  samples : session.samples = accepted.map fun observation => observation.embedding.values
  qualities : session.sampleQualities = accepted.map EnrollmentObservation.quality
  yaws : session.sampleYaws = accepted.map EnrollmentObservation.yawDegrees
  bounded : accepted.length ≤ session.config.maximumSamples
  contract : ∀ observation ∈ accepted,
    session.compatibilitySha256 = some observation.embedding.compatibilitySha256 ∧
      session.dimension = some observation.embedding.values.length
  last : ∀ observation ∈ accepted, ∃ previous, session.lastTimestampMicros = some previous ∧
    observation.timestampMicros ≤ previous
  window : ∀ observation ∈ accepted, session.issuedAtMicros < observation.timestampMicros ∧
    observation.timestampMicros < session.deadlineMicros
  spaced : accepted.Pairwise fun first second => first.timestampMicros < second.timestampMicros ∧
    first.timestampMicros + session.config.minimumSampleIntervalMicros ≤ second.timestampMicros
  consistent : accepted.Pairwise fun first second =>
    Consistent session.config.minimumSampleSimilarity first.embedding.values
      second.embedding.values
  live : ∀ observation ∈ accepted, observation.passiveLivenessPassed = true ∧
    observation.activeLivenessPassed = true
  quality : ∀ observation ∈ accepted, UnitScore observation.quality ∧
    session.config.minimumQuality ≤ observation.quality

variable {accepted : List EnrollmentObservation}

/-- A session that was opened retains nothing. -/
theorem retains_opened (config : EnrollmentConfig) (configured : config.validate = .ok ())
    (uid : UInt32) (issuedAtMicros deadlineMicros : Nat) :
    (opened config configured uid issuedAtMicros deadlineMicros).Retains [] :=
  ⟨rfl, rfl, rfl, Nat.zero_le _, nofun, nofun, nofun, .nil, .nil, nofun, nofun⟩

/-- A transaction that is closed retains what it had. -/
theorem Retains.closed (retains : session.Retains accepted) :
    ({ session with terminalFailure := true } : EnrollmentSession).Retains accepted :=
  ⟨retains.samples, retains.qualities, retains.yaws, retains.bounded, retains.contract,
    retains.last, retains.window, retains.spaced, retains.consistent, retains.live,
    retains.quality⟩

/-- The contract of an embedding that matches is the contract of the samples. -/
theorem Retains.withContract (retains : session.Retains accepted) {embedding : FaceEmbedding}
    (matching : session.Matches embedding) : (session.withContract embedding).Retains accepted := by
  refine ⟨retains.samples, retains.qualities, retains.yaws, retains.bounded, ?_, retains.last,
    retains.window, retains.spaced, retains.consistent, retains.live, retains.quality⟩
  intro observation member
  obtain ⟨fixed, sized⟩ := retains.contract observation member
  obtain ⟨digest, dimension⟩ := matching _ _ fixed sized
  exact ⟨congrArg some digest.symm, congrArg some dimension.symm⟩

/-- A relation between all goes on when the new one has it to the earlier. -/
theorem pairwise_append_singleton {relation : EnrollmentObservation → EnrollmentObservation → Prop}
    (pairwise : accepted.Pairwise relation)
    (new : ∀ existing ∈ accepted, relation existing observation) :
    (accepted ++ [observation]).Pairwise relation := by
  rw [List.pairwise_append]
  refine ⟨pairwise, List.pairwise_singleton .., fun existing member other same => ?_⟩
  rw [List.mem_singleton.mp same]
  exact new existing member

/-- An admitted observation that fits the samples is retained. -/
theorem Retains.retain (retains : session.Retains accepted) (admits : session.Admits observation)
    (room : session.samples.length < session.config.maximumSamples)
    (matching : session.Matches observation.embedding)
    (consistent : ∀ existing ∈ session.samples,
      Consistent session.config.minimumSampleSimilarity existing observation.embedding.values) :
    ((session.withContract observation.embedding).retain observation).Retains
      (accepted ++ [observation]) := by
  have before := retains.withContract matching
  obtain ⟨issued, deadline, later, spaced⟩ := admits.fresh
  have after : ∀ existing ∈ accepted,
      existing.timestampMicros < observation.timestampMicros ∧
        existing.timestampMicros + session.config.minimumSampleIntervalMicros ≤
          observation.timestampMicros := by
    intro existing member
    obtain ⟨previous, last, bound⟩ := retains.last existing member
    rw [last, Option.all_some, decide_eq_true_eq] at later spaced
    omega
  have every : ∀ {fact : EnrollmentObservation → Prop}, (∀ existing ∈ accepted, fact existing) →
      fact observation → ∀ existing ∈ accepted ++ [observation], fact existing := by
    intro fact old new existing member
    rcases List.mem_append.mp member with earlier | same
    · exact old existing earlier
    · rw [List.mem_singleton.mp same]
      exact new
  constructor
  · rw [List.map_append]
    exact congrArg (· ++ [_]) retains.samples
  · rw [List.map_append]
    exact congrArg (· ++ [_]) retains.qualities
  · rw [List.map_append]
    exact congrArg (· ++ [_]) retains.yaws
  · rw [retains.samples, List.length_map] at room
    rw [List.length_append]
    exact room
  · exact every before.contract ⟨rfl, rfl⟩
  · exact every (fun existing member => ⟨_, rfl, (after existing member).1.le⟩) ⟨_, rfl, le_rfl⟩
  · exact every retains.window ⟨issued, deadline⟩
  · exact pairwise_append_singleton retains.spaced after
  · refine pairwise_append_singleton retains.consistent fun existing member => ?_
    apply consistent
    rw [retains.samples]
    exact List.mem_map_of_mem member
  · exact every retains.live admits.live
  · exact every retains.quality admits.quality

/-- The observations that were accepted. -/
def retainedOf (log : List (EnrollmentObservation × Except EnrollmentError Unit)) :
    List EnrollmentObservation :=
  log.filterMap fun entry =>
    match entry.2 with
    | .ok () => some entry.1
    | .error _ => none

/-- What a log retains is what its entries do. -/
theorem retainedOf_cons (entry : EnrollmentObservation × Except EnrollmentError Unit)
    (log : List (EnrollmentObservation × Except EnrollmentError Unit)) :
    retainedOf (entry :: log) = retainedOf [entry] ++ retainedOf log :=
  @List.filterMap_append _ _ [entry] log _

/-- The transaction is still the one that was started. -/
structure Continues (session next : EnrollmentSession) : Prop where
  config : next.config = session.config
  uid : next.uid = session.uid
  issuedAtMicros : next.issuedAtMicros = session.issuedAtMicros
  deadlineMicros : next.deadlineMicros = session.deadlineMicros

/-- A session continues itself. -/
theorem Continues.refl (session : EnrollmentSession) : session.Continues session :=
  ⟨rfl, rfl, rfl, rfl⟩

/-- A session continues what its predecessor did. -/
theorem Continues.trans {last : EnrollmentSession} (first : session.Continues next)
    (second : next.Continues last) : session.Continues last :=
  ⟨second.config.trans first.config, second.uid.trans first.uid,
    second.issuedAtMicros.trans first.issuedAtMicros,
    second.deadlineMicros.trans first.deadlineMicros⟩

/-- One observation keeps the invariant. -/
theorem Retains.observe (retains : session.Retains accepted)
    (observed : session.observe observation = (result, next)) :
    session.Continues next ∧ next.Retains (accepted ++ retainedOf [(observation, result)]) := by
  cases observe_cases observed with
  | failed closed | discarded open_ =>
      refine ⟨.refl _, ?_⟩
      rw [show retainedOf [(observation, _)] = [] from rfl, List.append_nil]
      exact retains
  | closes open_ terminal =>
      refine ⟨⟨rfl, rfl, rfl, rfl⟩, ?_⟩
      rw [show retainedOf [(observation, _)] = [] from rfl, List.append_nil]
      exact retains.closed
  | rejects open_ terminal matching =>
      refine ⟨⟨rfl, rfl, rfl, rfl⟩, ?_⟩
      rw [show retainedOf [(observation, _)] = [] from rfl, List.append_nil]
      exact (retains.withContract matching).closed
  | retains open_ admits room matching consistent =>
      exact ⟨⟨rfl, rfl, rfl, rfl⟩, retains.retain admits room matching consistent⟩

variable {log : List (EnrollmentObservation × Except EnrollmentError Unit)}
  {observations : List EnrollmentObservation} {last : EnrollmentSession}

/-- Observations are taken one after the other. -/
theorem observeAll_cons (session : EnrollmentSession) (observation : EnrollmentObservation)
    (observations : List EnrollmentObservation) :
    session.observeAll (observation :: observations) =
      ((observation, (session.observe observation).1) ::
        ((session.observe observation).2.observeAll observations).1,
          ((session.observe observation).2.observeAll observations).2) := rfl

/-- Any sequence of observations keeps the invariant. -/
theorem Retains.observeAll (retains : session.Retains accepted)
    (observed : session.observeAll observations = (log, last)) :
    session.Continues last ∧ last.Retains (accepted ++ retainedOf log) := by
  induction observations generalizing session accepted log with
  | nil =>
      cases observed
      rw [show retainedOf [] = [] from rfl, List.append_nil]
      exact ⟨.refl _, retains⟩
  | cons observation observations ih =>
      rw [observeAll_cons] at observed
      cases observed
      have first : session.observe observation = (_, _) := rfl
      obtain ⟨continues, kept⟩ := retains.observe first
      obtain ⟨goesOn, later⟩ := ih kept rfl
      refine ⟨continues.trans goesOn, ?_⟩
      rw [retainedOf_cons, ← List.append_assoc]
      exact later

/-- A closed transaction refuses every observation. -/
theorem observeAll_closed (closed : session.terminalFailure = true)
    (observed : session.observeAll observations = (log, last)) :
    last.terminalFailure = true ∧ ∀ entry ∈ log, entry.2 = .error .sessionFailed := by
  induction observations generalizing session log with
  | nil =>
      cases observed
      exact ⟨closed, nofun⟩
  | cons observation observations ih =>
      have refused : session.observe observation = (.error .sessionFailed, session) := by
        rw [observe, if_pos closed]
      rw [observeAll_cons, refused] at observed
      cases observed
      obtain ⟨still, others⟩ := ih closed rfl
      refine ⟨still, fun entry member => ?_⟩
      rcases List.mem_cons.mp member with rfl | later
      · rfl
      · exact others entry later

/-- An error other than insufficient quality closes the transaction. -/
theorem observe_closes {error : EnrollmentError}
    (observed : session.observe observation = (.error error, next))
    (terminal : error ≠ .insufficientQuality) : next.terminalFailure = true := by
  cases observe_cases observed with
  | failed closed => exact closed
  | discarded open_ => exact (terminal rfl).elim
  | closes _ _ | rejects _ _ _ => rfl

/-- Insufficient quality leaves the transaction as it is. -/
theorem observe_discards
    (observed : session.observe observation = (.error .insufficientQuality, next)) :
    next = session := by
  cases observe_cases observed with
  | discarded open_ => rfl
  | closes _ terminal | rejects _ terminal _ => cases terminal

/-- After such an error, nothing is accepted and nothing is finished. -/
theorem observeAll_sticky {error : EnrollmentError}
    {before after : List (EnrollmentObservation × Except EnrollmentError Unit)}
    (observed : session.observeAll observations =
      (before ++ (observation, .error error) :: after, last))
    (terminal : error ≠ .insufficientQuality) :
    last.terminalFailure = true ∧ ∀ entry ∈ after, entry.2 = .error .sessionFailed := by
  induction observations generalizing session before with
  | nil =>
      have empty := congrArg Prod.fst observed
      cases before <;> cases empty
  | cons first observations ih =>
      rw [observeAll_cons, Prod.mk.injEq] at observed
      obtain ⟨logged, ended⟩ := observed
      cases before with
      | nil =>
          obtain ⟨entry, rest⟩ := List.cons.inj logged
          obtain ⟨rfl, failed⟩ := Prod.mk.inj entry
          have closed := observe_closes (Prod.ext failed rfl) terminal
          exact observeAll_closed closed (Prod.ext rest ended)
      | cons entry before =>
          obtain ⟨-, rest⟩ := List.cons.inj logged
          exact ih (Prod.ext rest ended)

/-- A failed session does not finish. -/
theorem finish_closed (closed : session.terminalFailure = true) (nowMicros : Nat) :
    session.finish nowMicros = .error .sessionFailed := by
  rw [finish, require_of_not (by rw [closed]; nofun)]
  rfl

/-! ## Templates -/

/-- Summing up keeps the length. -/
theorem length_accumulate {weight : Float32} {sums values next : List Float32}
    (added : accumulate weight sums values = .ok next) : next.length = sums.length := by
  induction sums generalizing values next with
  | nil =>
      cases values <;> cases added <;> rfl
  | cons sum sums ih =>
      cases values with
      | nil =>
          cases added
          rfl
      | cons value values =>
          unfold accumulate at added
          obtain ⟨-, -, added⟩ := bind_eq_ok_iff.mp added
          obtain ⟨rest, more, done⟩ := bind_eq_ok_iff.mp added
          cases done
          rw [List.length_cons, List.length_cons, ih more]

/-- Aggregating keeps the length. -/
theorem length_aggregate {samples : List (List Float32 × Float32)} {sums next : List Float32}
    {weight total : Float32} (added : aggregate samples (sums, weight) = .ok (next, total)) :
    next.length = sums.length := by
  induction samples generalizing sums weight with
  | nil =>
      cases added
      rfl
  | cons sample samples ih =>
      unfold aggregate at added
      obtain ⟨first, one, rest⟩ := bind_eq_ok_iff.mp added
      rw [ih rest, length_accumulate one]

/-- Normalizing keeps the length. -/
theorem length_normalize {values scaled : List Float32} (normal : normalize values = .ok scaled) :
    scaled.length = values.length := by
  unfold normalize at normal
  split at normal
  · cases normal
  · simp only [check_bind_eq_ok_iff] at normal
    obtain ⟨-, -, done⟩ := normal
    cases done
    exact List.length_map ..

/-- A template is made only of enough samples in time. -/
theorem finish_eq_ok {nowMicros : Nat} {record : TemplateRecord}
    (finished : session.finish nowMicros = .ok record) :
    session.readyToFinish = true ∧ nowMicros < session.deadlineMicros ∧
      record.validate = .ok () ∧ record.uid = session.uid ∧
        session.compatibilitySha256 = some record.modelCompatibilitySha256 ∧
          session.dimension = some record.embedding.length := by
  unfold finish at finished
  simp only [check_bind_eq_ok_iff, require_eq_ok_iff] at finished
  obtain ⟨open_, deadline, enough, covered, finished⟩ := finished
  have ready : session.readyToFinish = true := by
    rw [readyToFinish, open_, covered, decide_eq_true enough]
    rfl
  split at finished
  · cases finished
  · next dimension sized =>
      obtain ⟨⟨sums, total⟩, summed, finished⟩ := bind_eq_ok_iff.mp finished
      dsimp only at finished
      rw [check_bind_eq_ok_iff] at finished
      obtain ⟨-, finished⟩ := finished
      obtain ⟨embedding, normal, finished⟩ := bind_eq_ok_iff.mp finished
      split at finished
      · cases finished
      · next digest fixed =>
          rw [check_bind_eq_ok_iff, mapError_eq_ok_iff] at finished
          obtain ⟨valid, done⟩ := finished
          cases done
          refine ⟨ready, deadline, valid, rfl, fixed, ?_⟩
          rw [sized, length_normalize normal, length_aggregate summed, List.length_replicate]

/-- Enough coverage shows in two of the yaws. -/
theorem poseCoverage_spread {minimumSpan : Float32} {yaws : List Float32}
    (covered : poseCoverage minimumSpan yaws = true) :
    ∃ low ∈ yaws, ∃ high ∈ yaws, minimumSpan ≤ high - low := by
  cases yaws with
  | nil => cases covered
  | cons yaw yaws =>
      exact ⟨_, foldl_mem floatMin_eq_or yaw yaws, _, foldl_mem floatMax_eq_or yaw yaws,
        of_decide_eq_true covered⟩

end EnrollmentSession

/-! ## The contract of an enrollment -/

/-- What holds after any sequence of observations of one transaction. -/
structure EnrollmentContract (config : EnrollmentConfig) (uid : UInt32) (issuedAtMicros : Nat)
    (log : List (EnrollmentObservation × Except EnrollmentError Unit))
    (session : EnrollmentSession) : Prop where
  lengths : session.samples.length = session.sampleQualities.length ∧
    session.samples.length = session.sampleYaws.length ∧
      session.samples.length ≤ config.maximumSamples
  retained : session.samples = (EnrollmentSession.retainedOf log).map (·.embedding.values) ∧
    session.sampleQualities = (EnrollmentSession.retainedOf log).map (·.quality) ∧
      session.sampleYaws = (EnrollmentSession.retainedOf log).map (·.yawDegrees)
  contract : ∃ digest dimension, ∀ observation ∈ EnrollmentSession.retainedOf log,
    observation.embedding.compatibilitySha256 = digest ∧
      observation.embedding.values.length = dimension
  consistent : session.samples.Pairwise fun first second =>
    Consistent config.minimumSampleSimilarity first second ∧
      Consistent config.minimumSampleSimilarity second first
  spaced : (EnrollmentSession.retainedOf log).Pairwise fun first second =>
    first.timestampMicros < second.timestampMicros ∧
      first.timestampMicros + config.minimumSampleIntervalMicros ≤ second.timestampMicros
  window : ∀ observation ∈ EnrollmentSession.retainedOf log,
    issuedAtMicros < observation.timestampMicros ∧
      observation.timestampMicros < issuedAtMicros + config.durationMicros
  admitted : ∀ observation ∈ EnrollmentSession.retainedOf log,
    observation.passiveLivenessPassed = true ∧ observation.activeLivenessPassed = true ∧
      UnitScore observation.quality ∧ config.minimumQuality ≤ observation.quality
  discards : ∀ observation next,
    session.observe observation = (.error .insufficientQuality, next) → next = session
  sticky : ∀ before observation error after, log = before ++ (observation, .error error) :: after →
    error ≠ .insufficientQuality → (∀ entry ∈ after, entry.2 = .error .sessionFailed) ∧
      ∀ nowMicros, session.finish nowMicros = .error .sessionFailed
  template : ∀ nowMicros record, session.finish nowMicros = .ok record →
    nowMicros < issuedAtMicros + config.durationMicros ∧
      config.minimumSamples ≤ (EnrollmentSession.retainedOf log).length ∧
      (∃ low ∈ EnrollmentSession.retainedOf log, ∃ high ∈ EnrollmentSession.retainedOf log,
        config.minimumYawSpanDegrees ≤ high.yawDegrees - low.yawDegrees) ∧
      record.uid = uid ∧ record.validate = .ok () ∧
      ∀ observation ∈ EnrollmentSession.retainedOf log,
        record.modelCompatibilitySha256 = observation.embedding.compatibilitySha256 ∧
          record.embedding.length = observation.embedding.values.length

namespace EnrollmentSession

variable {session last : EnrollmentSession} {accepted observations : List EnrollmentObservation}
  {log : List (EnrollmentObservation × Except EnrollmentError Unit)}

/-- All samples of a session are of one model and one length. -/
theorem Retains.contract_exists (retains : session.Retains accepted) :
    ∃ digest dimension, ∀ observation ∈ accepted,
      observation.embedding.compatibilitySha256 = digest ∧
        observation.embedding.values.length = dimension := by
  refine ⟨session.compatibilitySha256.getD [], session.dimension.getD 0,
    fun observation member => ?_⟩
  obtain ⟨fixed, sized⟩ := retains.contract observation member
  rw [fixed, sized]
  exact ⟨rfl, rfl⟩

/-- A template carries the contract and the coverage of the retained observations. -/
theorem Retains.template (retains : session.Retains accepted) {nowMicros : Nat}
    {record : TemplateRecord} (finished : session.finish nowMicros = .ok record) :
    nowMicros < session.deadlineMicros ∧ session.config.minimumSamples ≤ accepted.length ∧
      (∃ low ∈ accepted, ∃ high ∈ accepted,
        session.config.minimumYawSpanDegrees ≤ high.yawDegrees - low.yawDegrees) ∧
      record.uid = session.uid ∧ record.validate = .ok () ∧
      ∀ observation ∈ accepted,
        record.modelCompatibilitySha256 = observation.embedding.compatibilitySha256 ∧
          record.embedding.length = observation.embedding.values.length := by
  obtain ⟨ready, deadline, valid, uid, fixed, sized⟩ := finish_eq_ok finished
  rw [readyToFinish, Bool.and_eq_true, Bool.and_eq_true, decide_eq_true_eq] at ready
  obtain ⟨⟨-, enough⟩, covered⟩ := ready
  rw [retains.samples, List.length_map] at enough
  rw [hasRequiredPoseCoverage, retains.yaws] at covered
  obtain ⟨low, lower, high, higher, spread⟩ := poseCoverage_spread covered
  obtain ⟨first, one, rfl⟩ := List.mem_map.mp lower
  obtain ⟨second, two, rfl⟩ := List.mem_map.mp higher
  refine ⟨deadline, enough, ⟨first, one, second, two, spread⟩, uid, valid, ?_⟩
  intro observation member
  obtain ⟨digest, dimension⟩ := retains.contract observation member
  rw [fixed] at digest
  rw [sized] at dimension
  exact ⟨Option.some.inj digest, Option.some.inj dimension⟩

end EnrollmentSession

/-- Every sequence of observations of a valid transaction keeps the contract. -/
theorem enrollment_contract {config : EnrollmentConfig} {uid : UInt32} {issuedAtMicros : Nat}
    {opened session : EnrollmentSession} {observations : List EnrollmentObservation}
    {log : List (EnrollmentObservation × Except EnrollmentError Unit)}
    (started : EnrollmentSession.start config uid issuedAtMicros = .ok opened)
    (observed : opened.observeAll observations = (log, session)) :
    EnrollmentContract config uid issuedAtMicros log session := by
  obtain ⟨configured, rfl⟩ := EnrollmentSession.start_eq_ok started
  obtain ⟨continues, retains⟩ := EnrollmentSession.Retains.observeAll
    (EnrollmentSession.retains_opened config configured uid issuedAtMicros _) observed
  rw [List.nil_append] at retains
  have sameConfig : session.config = config := continues.config
  have sameUid : session.uid = uid := continues.uid
  have sameIssue : session.issuedAtMicros = issuedAtMicros := continues.issuedAtMicros
  have sameDeadline : session.deadlineMicros = issuedAtMicros + config.durationMicros :=
    continues.deadlineMicros
  constructor
  · rw [retains.samples, retains.qualities, retains.yaws, List.length_map, List.length_map,
      List.length_map, ← sameConfig]
    exact ⟨rfl, rfl, retains.bounded⟩
  · exact ⟨retains.samples, retains.qualities, retains.yaws⟩
  · exact retains.contract_exists
  · rw [retains.samples, List.pairwise_map, ← sameConfig]
    exact retains.consistent.imp fun consistent => ⟨consistent, consistent.symm⟩
  · rw [← sameConfig]
    exact retains.spaced
  · rw [← sameDeadline, ← sameIssue]
    exact retains.window
  · rw [← sameConfig]
    exact fun observation member => ⟨(retains.live observation member).1,
      (retains.live observation member).2, retains.quality observation member⟩
  · exact fun observation next discarded => EnrollmentSession.observe_discards discarded
  · rintro before observation error after rfl terminal
    obtain ⟨closed, refused⟩ := EnrollmentSession.observeAll_sticky observed terminal
    exact ⟨refused, fun nowMicros => EnrollmentSession.finish_closed closed nowMicros⟩
  · intro nowMicros record finished
    rw [← sameDeadline, ← sameConfig, ← sameUid]
    exact retains.template finished

/-- Bounds that a slow turn of the head meets. -/
def steadyConfig : EnrollmentConfig where
  durationMicros := 30_000_000
  minimumSamples := 3
  maximumSamples := 5
  minimumQuality := 0.7
  minimumSampleSimilarity := 0.9
  minimumSampleIntervalMicros := 250_000
  minimumYawSpanDegrees := 15.0

/-- The configuration of the example is valid. -/
theorem steadyConfig_valid : steadyConfig.validate = .ok () := by decide +kernel

/-- A live observation of one face. -/
def steadyObservation (timestampMicros : Nat) (quality yawDegrees : Float32) :
    EnrollmentObservation :=
  ⟨⟨List.replicate 64 97, 1.0 :: List.replicate 31 0.0⟩, quality, true, true, timestampMicros,
    yawDegrees⟩

/-- The head turns; one observation is too blurred. -/
def steadyObservations : List EnrollmentObservation :=
  [steadyObservation 2_000_000 0.8 (-10.0), steadyObservation 3_000_000 0.5 0.0,
    steadyObservation 4_000_000 0.9 0.0, steadyObservation 5_000_000 0.8 10.0]

/-- The transaction of these observations. -/
def steadySession : EnrollmentSession :=
  .opened steadyConfig steadyConfig_valid 1000 1_000_000 31_000_000

/-- Steady observations make a template. -/
theorem enrollment_contract_steady :
    EnrollmentContract steadyConfig 1000 1_000_000
      (steadySession.observeAll steadyObservations).1
      (steadySession.observeAll steadyObservations).2 ∧
    ((steadySession.observeAll steadyObservations).2.finish 6_000_000).isOk = true := by
  have started : EnrollmentSession.start steadyConfig 1000 1_000_000 = .ok steadySession :=
    EnrollmentSession.start_opened steadyConfig_valid 1000 (by decide)
  exact ⟨enrollment_contract started rfl, by decide +kernel⟩

end FaceAuth
