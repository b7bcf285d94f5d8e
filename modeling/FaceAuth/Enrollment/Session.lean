import FaceAuth.Inference.Evidence
import FaceAuth.Storage.Record
import FaceAuth.Foundation.Word

/-!
# Enrollment

A bounded transaction that admits fresh, live observations of one face and
aggregates what they were derived to into one normalized template.
-/

namespace FaceAuth

open Foundation

/-- Absolute maximum number of embeddings retained during one enrollment. -/
def MAX_ENROLLMENT_SAMPLES : Nat := 16

/-- The difference between one and the next larger `f32`. -/
def F32_EPSILON : Float32 := 1.1920929e-7

example : floatBits F32_EPSILON = 0x34000000 := by decide +kernel

/-- Enrollment policy, evidence, compatibility, or aggregation failure. -/
inductive EnrollmentError where
  | invalidConfig
  | deadlineOverflow
  | staleObservation
  | insufficientQuality
  | invalidPose
  | livenessRequired
  | embeddingInvalid
  | embeddingIncompatible
  | inconsistentIdentity
  | sampleLimitReached
  | deadlineElapsed
  | insufficientSamples (actual required : Nat)
  | insufficientPoseCoverage
  | aggregateInvalid
  | sessionFailed
  | inference (error : InferenceError)
  | storage (error : StorageError)
deriving DecidableEq

/-- Quality may be better next time; every other failure closes the transaction. -/
def EnrollmentError.isTerminalObservationFailure : EnrollmentError → Bool
  | .insufficientQuality => false
  | _ => true

/-- Calibrated bounds for one enrollment transaction. -/
structure EnrollmentConfig where
  durationMicros : Nat
  minimumSamples : Nat
  maximumSamples : Nat
  minimumQuality : Float32
  minimumSampleSimilarity : Float32
  minimumSampleIntervalMicros : Nat
  minimumYawSpanDegrees : Float32
deriving DecidableEq

/-- Validate resource, timing, and calibrated score bounds. -/
def EnrollmentConfig.validate (config : EnrollmentConfig) : Except EnrollmentError Unit :=
  require ((5_000_000 ≤ config.durationMicros ∧ config.durationMicros ≤ 120_000_000) ∧
    (3 ≤ config.minimumSamples ∧ config.minimumSamples ≤ MAX_ENROLLMENT_SAMPLES) ∧
    config.minimumSamples ≤ config.maximumSamples ∧
    config.maximumSamples ≤ MAX_ENROLLMENT_SAMPLES ∧
    UnitScore config.minimumQuality ∧ UnitScore config.minimumSampleSimilarity ∧
    (50_000 ≤ config.minimumSampleIntervalMicros ∧
      config.minimumSampleIntervalMicros ≤ 5_000_000) ∧
    config.minimumYawSpanDegrees.isFinite = true ∧
    (5.0 ≤ config.minimumYawSpanDegrees ∧ config.minimumYawSpanDegrees ≤ 60.0)) .invalidConfig

/-- Model-derived evidence for one fresh enrollment observation. -/
structure EnrollmentObservation where
  embedding : FaceEmbedding
  quality : Float32
  passiveLivenessPassed : Bool
  activeLivenessPassed : Bool
  timestampMicros : Nat
  yawDegrees : Float32
deriving DecidableEq

/-- The cosine of two embeddings, mapped to the unit interval. -/
def mappedCosine (left right : List Float32) : Except EnrollmentError Float32 := do
  require (left.length = right.length) .embeddingIncompatible
  match finiteDot left right with
  | none => .error .embeddingInvalid
  | some cosine => return fusedMulAdd (clamp cosine (-1.0) 1.0) 0.5 0.5

/-- Every retained sample has to be similar to the new one. -/
def checkConsistency (minimum : Float32) (values : List Float32) :
    List (List Float32) → Except EnrollmentError Unit
  | [] => .ok ()
  | existing :: samples => do
      let similarity ← mappedCosine existing values
      require (¬ similarity < minimum) .inconsistentIdentity
      checkConsistency minimum values samples

/-- Add a weighted sample to the sums, as long as they stay finite. -/
def accumulate (weight : Float32) :
    List Float32 → List Float32 → Except EnrollmentError (List Float32)
  | sum :: sums, value :: values => do
      let next := fusedMulAdd value weight sum
      require (next.isFinite = true) .aggregateInvalid
      let rest ← accumulate weight sums values
      return next :: rest
  | sums, _ => .ok sums

/-- Add all samples under their weights, with the total weight. -/
def aggregate : List (List Float32 × Float32) → List Float32 × Float32 →
    Except EnrollmentError (List Float32 × Float32)
  | [], sums => .ok sums
  | (sample, weight) :: samples, (sums, total) => do
      let next ← accumulate weight sums sample
      aggregate samples (next, total + weight)

/-- Scale to unit length. -/
def normalize (values : List Float32) : Except EnrollmentError (List Float32) :=
  match finiteDot values values with
  | none => .error .aggregateInvalid
  | some squaredNorm => do
      let norm := squaredNorm.sqrt
      require (norm.isFinite = true ∧ ¬ norm ≤ F32_EPSILON) .aggregateInvalid
      let scaled := values.map (· / norm)
      require (scaled.all Float32.isFinite = true) .aggregateInvalid
      return scaled

/-- The yaws of the samples span the required range. -/
def poseCoverage (minimumSpan : Float32) : List Float32 → Bool
  | [] => false
  | yaw :: yaws =>
      decide (minimumSpan ≤ yaws.foldl floatMax yaw - yaws.foldl floatMin yaw)

/-- One capacity-bounded enrollment transaction. -/
structure EnrollmentSession where
  config : EnrollmentConfig
  configured : config.validate = .ok ()
  uid : UInt32
  issuedAtMicros : Nat
  deadlineMicros : Nat
  lastTimestampMicros : Option Nat
  compatibilitySha256 : Option (List UInt8)
  dimension : Option Nat
  samples : List (List Float32)
  sampleQualities : List Float32
  sampleYaws : List Float32
  terminalFailure : Bool

namespace EnrollmentSession

/-- A transaction that was just started. -/
def opened (config : EnrollmentConfig) (configured : config.validate = .ok ()) (uid : UInt32)
    (issuedAtMicros deadlineMicros : Nat) : EnrollmentSession where
  config := config
  configured := configured
  uid := uid
  issuedAtMicros := issuedAtMicros
  deadlineMicros := deadlineMicros
  lastTimestampMicros := none
  compatibilitySha256 := none
  dimension := none
  samples := []
  sampleQualities := []
  sampleYaws := []
  terminalFailure := false

/-- Start a new transaction for one numeric account. -/
def start (config : EnrollmentConfig) (uid : UInt32) (issuedAtMicros : Nat) :
    Except EnrollmentError EnrollmentSession :=
  match configured : config.validate with
  | .error error => .error error
  | .ok () =>
      match checkedAdd U64_MAX issuedAtMicros config.durationMicros with
      | none => .error .deadlineOverflow
      | some deadlineMicros => .ok (opened config configured uid issuedAtMicros deadlineMicros)

/-- A transaction that starts was just opened. -/
theorem start_eq_ok {config : EnrollmentConfig} {uid : UInt32} {issuedAtMicros : Nat}
    {session : EnrollmentSession} (started : start config uid issuedAtMicros = .ok session) :
    ∃ configured, session = opened config configured uid issuedAtMicros
      (issuedAtMicros + config.durationMicros) := by
  unfold start at started
  split at started
  · cases started
  · split at started
    · cases started
    · next configured _ deadline found =>
        obtain ⟨-, rfl⟩ := checkedAdd_eq_some_iff.mp found
        cases started
        exact ⟨configured, rfl⟩

/-- A session is opened under a valid configuration until its deadline. -/
theorem start_opened {config : EnrollmentConfig} (configured : config.validate = .ok ())
    (uid : UInt32) {issuedAtMicros : Nat}
    (fits : issuedAtMicros + config.durationMicros ≤ U64_MAX) :
    start config uid issuedAtMicros = .ok (opened config configured uid issuedAtMicros
      (issuedAtMicros + config.durationMicros)) := by
  unfold start
  split
  · next error failed => cases configured.symm.trans failed
  · rw [checkedAdd_eq_some_iff.mpr ⟨fits, rfl⟩]

variable (session : EnrollmentSession)

/-- Number of accepted derived samples currently retained. -/
def acceptedSamples : Nat := session.samples.length

/-- The samples cover the poses that are required. -/
def hasRequiredPoseCoverage : Bool :=
  poseCoverage session.config.minimumYawSpanDegrees session.sampleYaws

/-- Whether the current derived sample set satisfies count and calibrated pose coverage. -/
def readyToFinish : Bool :=
  !session.terminalFailure && decide (session.config.minimumSamples ≤ session.samples.length) &&
    session.hasRequiredPoseCoverage

/-- Whether no additional accepted sample can be retained. -/
def isFull : Bool := decide (session.config.maximumSamples ≤ session.samples.length)

/-- The timestamp is fresh: in the window, after the previous one, and spaced from it. -/
def Fresh (timestampMicros : Nat) : Prop :=
  session.issuedAtMicros < timestampMicros ∧ timestampMicros < session.deadlineMicros ∧
    session.lastTimestampMicros.all (fun previous => previous < timestampMicros) = true ∧
    session.lastTimestampMicros.all (fun previous =>
      session.config.minimumSampleIntervalMicros ≤ timestampMicros - previous) = true

instance (timestampMicros : Nat) : Decidable (session.Fresh timestampMicros) :=
  inferInstanceAs (Decidable (_ ∧ _ ∧ _ ∧ _))

/-- An observation belongs to the account, comes in order and passes the thresholds. -/
def validateObservation (observation : EnrollmentObservation) : Except EnrollmentError Unit := do
  require (session.Fresh observation.timestampMicros) .staleObservation
  require (UnitScore observation.quality ∧ ¬ observation.quality < session.config.minimumQuality)
    .insufficientQuality
  require (observation.yawDegrees.isFinite = true ∧ -90.0 ≤ observation.yawDegrees ∧
    observation.yawDegrees ≤ 90.0) .invalidPose
  require (observation.passiveLivenessPassed = true ∧ observation.activeLivenessPassed = true)
    .livenessRequired
  require (32 ≤ observation.embedding.values.length ∧ observation.embedding.values.length ≤ 4096)
    .embeddingInvalid

/-- The first embedding fixes the digest and the dimension of all. -/
def bindContract (embedding : FaceEmbedding) : Option EnrollmentSession :=
  match session.compatibilitySha256, session.dimension with
  | some digest, some dimension =>
      if digest = embedding.compatibilitySha256 ∧ dimension = embedding.values.length then
        some session
      else none
  | _, _ => some { session with
      compatibilitySha256 := some embedding.compatibilitySha256
      dimension := some embedding.values.length }

/-- Keep what was derived from an observation. -/
def retain (observation : EnrollmentObservation) : EnrollmentSession :=
  { session with
    samples := session.samples ++ [observation.embedding.values]
    sampleQualities := session.sampleQualities ++ [observation.quality]
    sampleYaws := session.sampleYaws ++ [observation.yawDegrees]
    lastTimestampMicros := some observation.timestampMicros }

/-- One observation of an open session. -/
def observeInner (observation : EnrollmentObservation) :
    Except EnrollmentError Unit × EnrollmentSession :=
  match session.validateObservation observation with
  | .error error => (.error error, session)
  | .ok () =>
      if session.config.maximumSamples ≤ session.samples.length then
        (.error .sampleLimitReached, session)
      else
        match session.bindContract observation.embedding with
        | none => (.error .embeddingIncompatible, session)
        | some session =>
            match checkConsistency session.config.minimumSampleSimilarity
              observation.embedding.values session.samples with
            | .error error => (.error error, session)
            | .ok () => (.ok (), session.retain observation)

/-- The transaction after the outcome of an observation. -/
def settled : Except EnrollmentError Unit → EnrollmentSession
  | .ok () => session
  | .error error =>
      if error.isTerminalObservationFailure then { session with terminalFailure := true }
      else session

/-- Admit one fresh, live, high-quality observation. -/
def observe (observation : EnrollmentObservation) :
    Except EnrollmentError Unit × EnrollmentSession :=
  if session.terminalFailure then (.error .sessionFailed, session)
  else
    let (result, session) := session.observeInner observation
    (result, session.settled result)

/-- Aggregate the accepted samples into one normalized template. -/
def finish (nowMicros : Nat) : Except EnrollmentError TemplateRecord := do
  require (session.terminalFailure = false) .sessionFailed
  require (nowMicros < session.deadlineMicros) .deadlineElapsed
  require (session.config.minimumSamples ≤ session.samples.length)
    (.insufficientSamples session.samples.length session.config.minimumSamples)
  require (session.hasRequiredPoseCoverage = true) .insufficientPoseCoverage
  match session.dimension with
  | none => .error (.insufficientSamples 0 session.config.minimumSamples)
  | some dimension =>
      let (sums, totalWeight) ←
        aggregate (session.samples.zip session.sampleQualities) (List.replicate dimension 0.0, 0.0)
      require (totalWeight.isFinite = true ∧ ¬ totalWeight ≤ F32_EPSILON) .aggregateInvalid
      let embedding ← normalize sums
      match session.compatibilitySha256 with
      | none => .error .aggregateInvalid
      | some digest =>
          let record : TemplateRecord :=
            ⟨TEMPLATE_RECORD_SCHEMA_VERSION, session.uid, digest, embedding⟩
          record.validate.mapError .storage
          return record

/-- What a sequence of observations gets, and the transaction after them. -/
def observeAll : EnrollmentSession → List EnrollmentObservation →
    List (EnrollmentObservation × Except EnrollmentError Unit) × EnrollmentSession
  | session, [] => ([], session)
  | session, observation :: observations =>
      let (result, next) := session.observe observation
      let (log, last) := observeAll next observations
      ((observation, result) :: log, last)

end EnrollmentSession

end FaceAuth
