import FaceAuth.Core.Digest
import FaceAuth.Core.Policy

/-!
# Inference evidence

Face embeddings and presentation-attack scores, bound to the model contract
that produced them.
-/

namespace FaceAuth

open Foundation

/-- Biometric function implemented by a model. -/
inductive ModelRole where
  | faceDetector
  | faceLandmarks
  | faceEmbedding
  | passiveLivenessInfrared
  | passiveLivenessVisible
  | passiveLivenessFusion
deriving DecidableEq, Repr

/-- Inference failures of the operations on one frame pair and on its evidence. -/
inductive InferenceError where
  | cancelled
  | sourceImageInvalid
  | inputTensorInvalid
  | outputTensorInvalid
  | runDeadlineExceeded
  | watchdogPanicked
  | modelRoleMismatch
  | faceDetectionOutputInvalid
  | invalidDetectionThreshold
  | invalidDetectionPostprocessConfig
  | faceDetectionLimitExceeded (count maximum : Nat)
  | noFaceDetected
  | multipleFacesDetected (count : Nat)
  | faceLandmarkOutputInvalid
  | faceAlignmentRequired
  | faceAlignmentIncompatible
  | faceAlignmentInvalid
  | faceAlignmentResidualExceeded
  | faceAlignmentOutsideImage
  | faceRegionInvalid
  | faceRegionIncompatible
  | faceRegionOutsideImage
  | embeddingInvalid
  | embeddingIncompatible
  | passiveLivenessOutputInvalid
  | invalidProbabilityThreshold
deriving DecidableEq, Repr

/-- Role-bound normalized face embedding. -/
structure FaceEmbedding where
  compatibilitySha256 : List UInt8
  values : List Float32
deriving DecidableEq

namespace FaceEmbedding

/-- Reconstruct a comparison embedding from an already validated template. -/
def fromNormalizedTemplate (compatibilitySha256 : List UInt8) (values : List Float32) :
    Except InferenceError FaceEmbedding := do
  require (ValidDigest compatibilitySha256 ∧ 32 ≤ values.length ∧ values.length ≤ 4096 ∧
    values.all Float32.isFinite = true) .embeddingInvalid
  require (UnitNorm 1.0e-3 values) .embeddingInvalid
  return ⟨compatibilitySha256, values⟩

/-- Mapped cosine similarity in the unit interval. -/
def similarity (first second : FaceEmbedding) : Except InferenceError Float32 := do
  require (first.compatibilitySha256 = second.compatibilitySha256 ∧
    first.values.length = second.values.length) .embeddingIncompatible
  match finiteDot first.values second.values with
  | none => .error .embeddingInvalid
  | some cosine =>
      let mapped := fusedMulAdd (clamp cosine (-1.0) 1.0) 0.5 0.5
      require (mapped.isFinite = true) .embeddingInvalid
      return mapped

end FaceEmbedding

namespace PassiveLivenessScore

/-- The checks on a role-specific adapter's output. -/
def check (role : ModelRole) (compatibilitySha256 : List UInt8) (probability : Float32) :
    Except InferenceError Unit := do
  require (role = .passiveLivenessInfrared ∨ role = .passiveLivenessVisible ∨
    role = .passiveLivenessFusion) .modelRoleMismatch
  require (ValidDigest compatibilitySha256 ∧ UnitScore probability) .passiveLivenessOutputInvalid

end PassiveLivenessScore

/-- Scalar live probability bound to one passive-PAD model contract. -/
structure PassiveLivenessScore where
  role : ModelRole
  compatibilitySha256 : List UInt8
  probability : Float32
  validated : PassiveLivenessScore.check role compatibilitySha256 probability = .ok ()
deriving DecidableEq

namespace PassiveLivenessScore

/-- Construct a score from a role-specific adapter. -/
def fromValidatedOutput (role : ModelRole) (compatibilitySha256 : List UInt8)
    (probability : Float32) : Except InferenceError PassiveLivenessScore :=
  match validated : check role compatibilitySha256 probability with
  | .error error => .error error
  | .ok () => .ok ⟨role, compatibilitySha256, probability, validated⟩

/-- Apply an explicitly calibrated inclusive threshold. -/
def passes (score : PassiveLivenessScore) (minimum : Float32) : Except InferenceError Bool := do
  require (UnitScore minimum) .invalidProbabilityThreshold
  return decide (minimum ≤ score.probability)

/-- Under a threshold between zero and one a score is compared. -/
theorem passes_of_unit (score : PassiveLivenessScore) {minimum : Float32}
    (unit : UnitScore minimum) :
    score.passes minimum = .ok (decide (minimum ≤ score.probability)) := by
  rw [passes, require, if_pos unit]
  rfl

end PassiveLivenessScore

end FaceAuth
