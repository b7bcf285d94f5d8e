import FaceAuth.Model.Manifest

/-!
# Adapters of the model outputs

The output tensors that a graph yields under its manifest, and what each role's
adapter makes of them: detections, landmarks with measurements, an embedding, or
a live probability.
-/

namespace FaceAuth

open Foundation

/-- One named output of a graph. -/
structure OutputTensor where
  name : List UInt8
  dimensions : List Nat
  values : List Float32
deriving DecidableEq

namespace Inference

/-- The number of elements that dimensions come to. -/
def tensorElementCount (dimensions : List Nat) : Except InferenceError Nat :=
  match checkedProduct dimensions with
  | none => .error .inputTensorInvalid
  | some product => .ok product

section Run

variable (runtime : List UInt8 → Except InferenceError (List Int × List Float32))

/-- One output of the runtime, as the manifest declares it. -/
def copyOutput (expected : OutputContract) : Except InferenceError OutputTensor := do
  let (shape, values) ← runtime expected.name
  require (shape.all (fun dimension => decide (0 ≤ dimension)) = true) .outputTensorInvalid
  let actualDimensions := shape.map Int.toNat
  require (actualDimensions = expected.dimensions) .outputTensorInvalid
  let count ← tensorElementCount expected.dimensions
  require (values.length = count ∧ values.all Float32.isFinite = true) .outputTensorInvalid
  return ⟨expected.name, actualDimensions, values⟩

/-- The outputs of a finished run, in the order of the manifest. -/
def copyOutputs (manifest : ModelManifest) : Except InferenceError (List OutputTensor) :=
  manifest.outputs.mapM (copyOutput runtime)

end Run

/-- The one output contract of a meaning. -/
def semanticOutput (manifest : ModelManifest) (semantic : OutputSemantic) :
    Except InferenceError OutputContract :=
  match manifest.outputs.filter (fun output => decide (output.semantic = semantic)) with
  | [output] => .ok output
  | _ => .error .modelRoleMismatch

/-- The one output of a name, with its dimensions. -/
def exactOutput (outputs : List OutputTensor) (name : List UInt8) (dimensions : List Nat) :
    Except InferenceError OutputTensor :=
  match outputs.filter (fun output => decide (output.name = name)) with
  | [output] => if output.dimensions = dimensions then .ok output else .error .outputTensorInvalid
  | _ => .error .outputTensorInvalid

/-- Report every failure as this one. -/
def relabel {Answer : Type} (error : InferenceError) (step : Except InferenceError Answer) :
    Except InferenceError Answer :=
  step.mapError fun _ => error

/-! ## Detections -/

/-- A face box in normalized image coordinates. -/
structure NormalizedFaceBox where
  left : Float32
  top : Float32
  right : Float32
  bottom : Float32
deriving DecidableEq

/-- A box with the confidence of the detector. -/
structure FaceDetection where
  bounds : NormalizedFaceBox
  confidence : Float32
deriving DecidableEq

/-- Bounded detector results tied to the complete model and preprocessing contract. -/
structure FaceDetections where
  compatibilitySha256 : List UInt8
  faces : List FaceDetection
deriving DecidableEq

/-- Coordinates in chunks of exactly four. -/
def faceBoxes : List Float32 → List NormalizedFaceBox
  | left :: top :: right :: bottom :: rest => ⟨left, top, right, bottom⟩ :: faceBoxes rest
  | _ => []

/-- The candidates of at least a confidence, as long as every value is normalized. -/
def admitFaces (minimumConfidence : Float32) :
    List (NormalizedFaceBox × Float32) → Except InferenceError (List FaceDetection)
  | [] => .ok []
  | (bounds, confidence) :: candidates => do
      require (UnitScore confidence) .faceDetectionOutputInvalid
      require (UnitScore bounds.left ∧ UnitScore bounds.top ∧ UnitScore bounds.right ∧
        UnitScore bounds.bottom) .faceDetectionOutputInvalid
      if minimumConfidence ≤ confidence then
        require (¬ bounds.right ≤ bounds.left ∧ ¬ bounds.bottom ≤ bounds.top)
          .faceDetectionOutputInvalid
        let faces ← admitFaces minimumConfidence candidates
        return ⟨bounds, confidence⟩ :: faces
      else admitFaces minimumConfidence candidates

/-- The faces whose confidence is high enough, from the tensors of a detector. -/
def extractFaceDetectionOutputs (manifest : ModelManifest) (compatibilitySha256 : List UInt8)
    (outputs : List OutputTensor) (minimumConfidence : Float32) :
    Except InferenceError FaceDetections := do
  require (manifest.role = .faceDetector) .modelRoleMismatch
  require (UnitScore minimumConfidence) .invalidDetectionThreshold
  require (ValidDigest compatibilitySha256 ∧ outputs.length = 2) .faceDetectionOutputInvalid
  let boxesContract ← relabel .faceDetectionOutputInvalid
    (semanticOutput manifest .faceDetectionBoxes)
  let scoresContract ← relabel .faceDetectionOutputInvalid
    (semanticOutput manifest .faceDetectionScores)
  match boxesContract.dimensions, scoresContract.dimensions with
  | [1, candidateCount, 4], [1, scoreCount] => do
      require (candidateCount = scoreCount) .faceDetectionOutputInvalid
      require (1 ≤ candidateCount ∧ candidateCount ≤ MAX_FACE_DETECTION_CANDIDATES)
        .faceDetectionOutputInvalid
      let boxes ← relabel .faceDetectionOutputInvalid
        (exactOutput outputs boxesContract.name boxesContract.dimensions)
      let scores ← relabel .faceDetectionOutputInvalid
        (exactOutput outputs scoresContract.name scoresContract.dimensions)
      require (boxes.values.length = candidateCount * 4 ∧ scores.values.length = candidateCount)
        .faceDetectionOutputInvalid
      let faces ← admitFaces minimumConfidence ((faceBoxes boxes.values).zip scores.values)
      return ⟨compatibilitySha256, faces⟩
  | _, _ => .error .faceDetectionOutputInvalid

/-! ## Landmarks -/

/-- Exact manifest-derived full-image region of one landmark invocation. -/
structure FaceRegion where
  compatibilitySha256 : List UInt8
  bounds : NormalizedFaceBox
deriving DecidableEq

/-- A point in units of the image, with its confidence. -/
structure NormalizedLandmark where
  x : Float32
  y : Float32
deriving DecidableEq

/-- Calibrated model-derived measurements used by quality and active-liveness policy. -/
structure LandmarkMeasurements where
  landmarkConfidence : Float32
  visibleFraction : Float32
  yawDegrees : Float32
  pitchDegrees : Float32
  rollDegrees : Float32
  eyeOpenness : Float32
deriving DecidableEq

/-- Fixed-topology landmarks for one face crop, bound to a reviewed model contract. -/
structure FacialLandmarks where
  compatibilitySha256 : List UInt8
  region : FaceRegion
  points : List NormalizedLandmark
  measurements : LandmarkMeasurements
deriving DecidableEq

/-- Coordinates in chunks of exactly two. -/
def landmarkPoints : List Float32 → List NormalizedLandmark
  | x :: y :: rest => ⟨x, y⟩ :: landmarkPoints rest
  | _ => []

/-- The points, as long as every coordinate is normalized. -/
def admitPoints (points : List NormalizedLandmark) :
    Except InferenceError (List NormalizedLandmark) := do
  require (points.all (fun point => decide (UnitScore point.x ∧ UnitScore point.y)) = true)
    .faceLandmarkOutputInvalid
  return points

/-- The largest number of 16 bits. -/
def U16_LIMIT : Nat := 65_535

/-- A 16-bit number as a single-precision one. -/
def singleOfCount (count : Nat) : Except InferenceError Float32 := do
  require (count ≤ U16_LIMIT) .faceLandmarkOutputInvalid
  return (UInt16.ofNat count).toFloat32

/-- An angle of at most a size. -/
def WithinAngle (maximum angle : Float32) : Prop :=
  angle.isFinite = true ∧ ¬ maximum < angle.abs

instance (maximum angle : Float32) : Decidable (WithinAngle maximum angle) :=
  inferInstanceAs (Decidable (_ ∧ _))

/-- The measurements of the values of three outputs. -/
def measure (contract : LandmarkMeasurementContract) (confidence pose eyes : List Float32)
    (count : Nat) : Except InferenceError LandmarkMeasurements :=
  match pose with
  | [yawDegrees, pitchDegrees, rollDegrees] => do
      require (WithinAngle contract.maximumAbsoluteYawDegrees yawDegrees ∧
        WithinAngle contract.maximumAbsolutePitchDegrees pitchDegrees ∧
        WithinAngle contract.maximumAbsoluteRollDegrees rollDegrees) .faceLandmarkOutputInvalid
      match eyes with
      | [leftEye, rightEye] => do
          require (UnitScore leftEye ∧ UnitScore rightEye) .faceLandmarkOutputInvalid
          let countSingle ← singleOfCount count
          let landmarkConfidence := floatSum confidence / countSingle
          let visibleCount := confidence.countP fun value =>
            decide (contract.minimumVisibleConfidence ≤ value)
          let visibleSingle ← singleOfCount visibleCount
          let visibleFraction := visibleSingle / countSingle
          require (landmarkConfidence.isFinite = true ∧ visibleFraction.isFinite = true)
            .faceLandmarkOutputInvalid
          return ⟨landmarkConfidence, visibleFraction, yawDegrees, pitchDegrees, rollDegrees,
            floatMin leftEye rightEye⟩
      | _ => .error .faceLandmarkOutputInvalid
  | _ => .error .faceLandmarkOutputInvalid

/-- The one tensor of a meaning. -/
def semanticTensor (manifest : ModelManifest) (outputs : List OutputTensor)
    (semantic : OutputSemantic) : Except InferenceError OutputTensor := do
  let contract ← relabel .faceLandmarkOutputInvalid (semanticOutput manifest semantic)
  relabel .faceLandmarkOutputInvalid (exactOutput outputs contract.name contract.dimensions)

/-- The pose and the opening of the eyes, with the visible part of the landmarks. -/
def extractLandmarkMeasurements (manifest : ModelManifest) (outputs : List OutputTensor)
    (count : Nat) : Except InferenceError LandmarkMeasurements := do
  let confidence ← semanticTensor manifest outputs .faceLandmarkConfidence
  let pose ← semanticTensor manifest outputs .facePoseDegrees
  let eyes ← semanticTensor manifest outputs .eyeOpenness
  require (confidence.values.length = count ∧
    confidence.values.all (fun value => decide (UnitScore value)) = true)
    .faceLandmarkOutputInvalid
  match manifest.landmarkMeasurement with
  | none => .error .faceLandmarkOutputInvalid
  | some contract => measure contract confidence.values pose.values eyes.values count

/-- The landmarks of a face in a region, from the tensors of a model. -/
def extractFaceLandmarkOutput (manifest : ModelManifest) (compatibilitySha256 : List UInt8)
    (region : FaceRegion) (outputs : List OutputTensor) :
    Except InferenceError FacialLandmarks := do
  require (manifest.role = .faceLandmarks) .modelRoleMismatch
  require (ValidDigest compatibilitySha256 ∧ outputs.length = 4) .faceLandmarkOutputInvalid
  let contract ← relabel .faceLandmarkOutputInvalid (semanticOutput manifest .faceLandmarks)
  match contract.dimensions with
  | [1, landmarkCount, 2] => do
      require (MIN_FACE_LANDMARKS ≤ landmarkCount ∧ landmarkCount ≤ MAX_FACE_LANDMARKS)
        .faceLandmarkOutputInvalid
      let output ← relabel .faceLandmarkOutputInvalid
        (exactOutput outputs contract.name contract.dimensions)
      require (output.values.length = landmarkCount * 2) .faceLandmarkOutputInvalid
      let points ← admitPoints (landmarkPoints output.values)
      let measurements ← extractLandmarkMeasurements manifest outputs landmarkCount
      return ⟨compatibilitySha256, region, points, measurements⟩
  | _ => .error .faceLandmarkOutputInvalid

/-! ## Embeddings -/

/-- The distance between one and the next single-precision number. -/
def F32_EPSILON : Float32 := 1.1920929e-7

example : floatBits F32_EPSILON = 0x34000000 := by decide +kernel

/-- A vector divided by its Euclidean norm. -/
def normalize (values : List Float32) : Except InferenceError (List Float32) :=
  match finiteDot values values with
  | none => .error .embeddingInvalid
  | some squaredNorm => do
      let norm := squaredNorm.sqrt
      require (norm.isFinite = true ∧ ¬ norm ≤ F32_EPSILON) .embeddingInvalid
      let values := values.map (· / norm)
      require (values.all Float32.isFinite = true) .embeddingInvalid
      return values

/-- The normalized embedding, from the tensor of a model. -/
def extractEmbeddingOutput (manifest : ModelManifest) (compatibilitySha256 : List UInt8)
    (outputs : List OutputTensor) : Except InferenceError FaceEmbedding := do
  require (manifest.role = .faceEmbedding) .modelRoleMismatch
  let contract ← semanticOutput manifest .embedding
  let output ← exactOutput outputs contract.name contract.dimensions
  require (32 ≤ output.values.length ∧ output.values.length ≤ 4096) .embeddingInvalid
  let values ← normalize output.values
  return ⟨compatibilitySha256, values⟩

/-! ## Live probabilities -/

/-- The probability that a face is live, from the tensor of a model. -/
def extractPassiveLivenessOutput (manifest : ModelManifest) (compatibilitySha256 : List UInt8)
    (outputs : List OutputTensor) : Except InferenceError PassiveLivenessScore := do
  require (manifest.role = .passiveLivenessInfrared ∨ manifest.role = .passiveLivenessVisible ∨
    manifest.role = .passiveLivenessFusion) .modelRoleMismatch
  let contract ← semanticOutput manifest .liveProbability
  let output ← exactOutput outputs contract.name contract.dimensions
  match output.values with
  | [probability] => do
      require (UnitScore probability) .passiveLivenessOutputInvalid
      PassiveLivenessScore.fromValidatedOutput manifest.role compatibilitySha256 probability
  | _ => .error .passiveLivenessOutputInvalid

end Inference

end FaceAuth
