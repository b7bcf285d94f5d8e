import FaceAuth.Core.Digest
import FaceAuth.Foundation.Check
import FaceAuth.Foundation.Rounding
import FaceAuth.Inference.Evidence
import Mathlib.Data.List.Sort

/-!
# Model manifests

The reviewed description of one model: its provenance, the tensors that it takes
and yields, and the geometry that its role needs. Text is the list of its UTF-8
bytes. The parser of license expressions is a parameter.
-/

namespace FaceAuth

open Foundation

/-- The version of manifests that is read. -/
def MODEL_MANIFEST_SCHEMA_VERSION : Nat := 9

/-- Maximum length of a label or the name of a tensor. -/
def MAX_ARTIFACT_LABEL_LENGTH : Nat := 128

/-- Maximum length of the address of a source. -/
def MAX_SOURCE_URL_LENGTH : Nat := 2048

/-- Maximum width and height of an input. -/
def MAX_INPUT_DIMENSION : Nat := 4096

/-- Maximum number of outputs. -/
def MAX_OUTPUT_TENSORS : Nat := 8

/-- Maximum number of dimensions of a tensor. -/
def MAX_TENSOR_RANK : Nat := 8

/-- Maximum number of elements of a tensor. -/
def MAX_TENSOR_ELEMENTS : Nat := 64 * 1024 * 1024

/-- Maximum number of elements of all outputs. -/
def MAX_TOTAL_OUTPUT_ELEMENTS : Nat := 64 * 1024 * 1024

/-- Maximum number of boxes that a detector yields. -/
def MAX_FACE_DETECTION_CANDIDATES : Nat := 4096

/-- Minimum number of landmarks of a face. -/
def MIN_FACE_LANDMARKS : Nat := 5

/-- Maximum number of landmarks of a face. -/
def MAX_FACE_LANDMARKS : Nat := 512

/-- The number of landmarks that align a face. -/
def FACE_ALIGNMENT_LANDMARKS : Nat := 5

/-- The largest number of 64 bits. -/
def U64_LIMIT : Nat := 18_446_744_073_709_551_615

/-- Tensor memory layout expected by the model. -/
inductive TensorLayout where
  | nchw | nhwc
deriving DecidableEq, Repr

/-- Pixel channel interpretation before model-specific normalization. -/
inductive ColorSpace where
  | grayscale | rgb | bgr
deriving DecidableEq, Repr

/-- Security-relevant meaning of one model output. -/
inductive OutputSemantic where
  | faceDetectionBoxes
  | faceDetectionScores
  | faceLandmarks
  | faceLandmarkConfidence
  | facePoseDegrees
  | eyeOpenness
  | embedding
  | liveProbability
  | auxiliary
deriving DecidableEq, Repr

/-- Invalid model manifest. -/
inductive ModelError where
  | unsupportedSchema (received supported : Nat)
  | invalidLabel (field : String)
  | invalidSourceUrl
  | invalidLicenseExpression
  | invalidSha256
  | invalidInputDimensions
  | invalidInputCount (actual : Nat)
  | invalidChannelCount (expected actual : Nat)
  | invalidNormalization
  | invalidAlignmentContract
  | invalidFaceCropContract
  | invalidLandmarkMeasurementContract
  | invalidTensorName
  | duplicateInputName (name : List UInt8)
  | invalidFusionInputNames
  | invalidOutputCount (actual : Nat)
  | invalidTensorDimensions
  | duplicateOutputName (name : List UInt8)
  | outputSemanticMismatch
deriving DecidableEq, Repr

/-- A finite value in a closed interval. -/
def Between (low high value : Float32) : Prop :=
  value.isFinite = true ∧ low ≤ value ∧ value ≤ high

instance (low high value : Float32) : Decidable (Between low high value) :=
  inferInstanceAs (Decidable (_ ∧ _ ∧ _))

/-- Calibrated semantic outputs required from a landmark model. -/
structure LandmarkMeasurementContract where
  minimumVisibleConfidence : Float32
  maximumAbsoluteYawDegrees : Float32
  maximumAbsolutePitchDegrees : Float32
  maximumAbsoluteRollDegrees : Float32
deriving DecidableEq

/-- The bounds are a score and angles. -/
def LandmarkMeasurementContract.validate (contract : LandmarkMeasurementContract) :
    Except ModelError Unit :=
  require (Between 0.0 1.0 contract.minimumVisibleConfidence ∧
    Between 1.0 90.0 contract.maximumAbsoluteYawDegrees ∧
    Between 1.0 90.0 contract.maximumAbsolutePitchDegrees ∧
    Between 1.0 180.0 contract.maximumAbsoluteRollDegrees) .invalidLandmarkMeasurementContract

/-- Manifest-bound detector-box expansion used to create a landmark model input. -/
structure FaceCropContract where
  scale : Float32
  centerOffsetX : Float32
  centerOffsetY : Float32
deriving DecidableEq

/-- The scale and the offsets are in bounds. -/
def FaceCropContract.validate (contract : FaceCropContract) : Except ModelError Unit :=
  require (Between 1.0 3.0 contract.scale ∧ Between (-0.5) 0.5 contract.centerOffsetX ∧
    Between (-0.5) 0.5 contract.centerOffsetY) .invalidFaceCropContract

/-- One normalized destination point in an aligned model input. -/
structure NormalizedPoint where
  x : Float32
  y : Float32
deriving DecidableEq

/-- Exact five-point similarity-alignment contract for an embedding input. -/
structure FaceAlignmentContract where
  landmarksCompatibilitySha256 : List UInt8
  landmarkIndices : Vector Nat FACE_ALIGNMENT_LANDMARKS
  referencePoints : Vector NormalizedPoint FACE_ALIGNMENT_LANDMARKS
  maximumNormalizedResidual : Float32
deriving DecidableEq

namespace FaceAlignmentContract

/-- The summed squares of the distances from a center, as long as they are finite. -/
def variance (points : List NormalizedPoint) (centerX centerY : Float32) : Option Float32 :=
  points.foldlM (fun sum point =>
    let x := point.x - centerX
    let y := point.y - centerY
    let next := fusedMulAdd x x (fusedMulAdd y y sum)
    if next.isFinite then some next else none) 0.0

/-- The digest, the indices and the points are valid, and the points do not coincide. -/
def validate (contract : FaceAlignmentContract) : Except ModelError Unit := do
  require (ValidDigest contract.landmarksCompatibilitySha256) .invalidAlignmentContract
  let sorted := contract.landmarkIndices.toList.insertionSort (· ≤ ·)
  let points := contract.referencePoints.toList
  require (¬ (sorted.zip sorted.tail).any (fun pair => pair.1 == pair.2) = true ∧
    sorted.all (fun index => decide (index < MAX_FACE_LANDMARKS)) = true ∧
    points.all (fun point => decide (UnitScore point.x ∧ UnitScore point.y)) = true ∧
    Between 0.001 0.25 contract.maximumNormalizedResidual) .invalidAlignmentContract
  let centerX := floatSum (points.map NormalizedPoint.x) / 5.0
  let centerY := floatSum (points.map NormalizedPoint.y) / 5.0
  match variance points centerX centerY with
  | none => .error .invalidAlignmentContract
  | some value => require (¬ value ≤ 1.0e-6) .invalidAlignmentContract

end FaceAlignmentContract

/-- Per-channel affine conversion from an 8-bit pixel to a model tensor value. -/
structure ChannelNormalization where
  scale : List Float32
  bias : List Float32
deriving DecidableEq

/-- Static input tensor contract recorded with a model. The only element type is the
single-precision number, and the only resize filter is the bilinear one. -/
structure InputContract where
  name : List UInt8
  width : Nat
  height : Nat
  channels : Nat
  layout : TensorLayout
  colorSpace : ColorSpace
  normalization : ChannelNormalization
deriving DecidableEq

/-- The exact fixed batch-1 tensor shape. -/
def InputContract.dimensions (input : InputContract) : List Nat :=
  match input.layout with
  | .nchw => [1, input.channels, input.height, input.width]
  | .nhwc => [1, input.height, input.width, input.channels]

/-- Exact fixed output tensor contract. -/
structure OutputContract where
  name : List UInt8
  dimensions : List Nat
  semantic : OutputSemantic
deriving DecidableEq

/-- Auditable metadata required before a model can enter the inference pipeline. -/
structure ModelManifest where
  schemaVersion : Nat
  name : List UInt8
  version : List UInt8
  role : ModelRole
  sourceUrl : List UInt8
  licenseSpdx : List UInt8
  sha256 : List UInt8
  input : InputContract
  additionalInputs : List InputContract
  faceCrop : Option FaceCropContract
  landmarkMeasurement : Option LandmarkMeasurementContract
  faceAlignment : Option FaceAlignmentContract
  outputs : List OutputContract
deriving DecidableEq

/-! ## Checks -/

/-- A letter or a digit. -/
def isAsciiAlphanumeric (byte : UInt8) : Bool :=
  (48 ≤ byte && byte ≤ 57) || (65 ≤ byte && byte ≤ 90) || (97 ≤ byte && byte ≤ 122)

/-- A short text of letters, digits and the given punctuation. -/
def ShortText (punctuation : List UInt8) (value : List UInt8) : Prop :=
  value ≠ [] ∧ value.length ≤ MAX_ARTIFACT_LABEL_LENGTH ∧
    value.all (fun byte => isAsciiAlphanumeric byte || punctuation.contains byte) = true

instance (punctuation value : List UInt8) : Decidable (ShortText punctuation value) :=
  inferInstanceAs (Decidable (_ ∧ _ ∧ _))

/-- The bytes of `._+-` besides letters and digits. -/
def validateLabel (field : String) (value : List UInt8) : Except ModelError Unit :=
  require (ShortText [46, 95, 43, 45] value) (.invalidLabel field)

/-- The bytes of `._+-`, the slash and the colon besides letters and digits. -/
def validateTensorName (value : List UInt8) : Except ModelError Unit :=
  require (ShortText [46, 95, 43, 45, 47, 58] value) .invalidTensorName

/-- A product that fits into 64 bits. -/
def checkedMul (left right : Nat) : Option Nat :=
  if left * right ≤ U64_LIMIT then some (left * right) else none

/-- The product of some dimensions, if it fits. -/
def checkedProduct (dimensions : List Nat) : Option Nat := dimensions.foldlM checkedMul 1

/-- The number of elements of a tensor. -/
def dimensionProduct (dimensions : List Nat) : Except ModelError Nat :=
  match checkedProduct dimensions with
  | none => .error .invalidTensorDimensions
  | some product => .ok product

/-- There are dimensions, not too many, none of them zero, and their product is bounded. -/
def validateDimensions (dimensions : List Nat) : Except ModelError Unit := do
  require (dimensions ≠ [] ∧ dimensions.length ≤ MAX_TENSOR_RANK ∧ 0 ∉ dimensions)
    .invalidTensorDimensions
  let product ← dimensionProduct dimensions
  require (product ≤ MAX_TENSOR_ELEMENTS) .invalidTensorDimensions

/-- The number of channels of a colour space. -/
def ColorSpace.channels : ColorSpace → Nat
  | .grayscale => 1
  | .rgb | .bgr => 3

/-- The name, the extents, the channels and the normalization of an input are valid. -/
def validateInputContract (input : InputContract) : Except ModelError Unit := do
  validateTensorName input.name
  require (input.width ≠ 0 ∧ input.height ≠ 0 ∧ input.width ≤ MAX_INPUT_DIMENSION ∧
    input.height ≤ MAX_INPUT_DIMENSION) .invalidInputDimensions
  require (input.channels = input.colorSpace.channels)
    (.invalidChannelCount input.colorSpace.channels input.channels)
  require (input.normalization.scale.length = input.channels ∧
    input.normalization.bias.length = input.channels ∧
    input.normalization.scale.all (fun value => value.isFinite && !(value == 0.0)) = true ∧
    input.normalization.bias.all Float32.isFinite = true) .invalidNormalization
  validateDimensions input.dimensions

/-- The one output of a meaning. -/
def uniqueSemanticOutput (outputs : List OutputContract) (semantic : OutputSemantic) :
    Except ModelError OutputContract :=
  match outputs.filter (fun output => decide (output.semantic = semantic)) with
  | [output] => .ok output
  | _ => .error .outputSemanticMismatch

/-- How many outputs have a meaning. -/
def semanticCount (outputs : List OutputContract) (semantic : OutputSemantic) : Nat :=
  (outputs.filter fun output => decide (output.semantic = semantic)).length

/-- The meaning is one of a detector or a landmark model. -/
def OutputSemantic.locatesFace : OutputSemantic → Bool
  | .faceDetectionBoxes | .faceDetectionScores | .faceLandmarks | .faceLandmarkConfidence
  | .facePoseDegrees | .eyeOpenness => true
  | .embedding | .liveProbability | .auxiliary => false

/-- No output has a meaning of a detector or a landmark model. -/
def detectorAndLandmarkSemanticsAbsent (outputs : List OutputContract) : Bool :=
  outputs.all fun output => !output.semantic.locatesFace

/-- A detector yields boxes and as many scores. -/
def validateFaceDetectorOutputs (outputs : List OutputContract) : Except ModelError Unit := do
  require (outputs.length = 2) .outputSemanticMismatch
  let boxes ← uniqueSemanticOutput outputs .faceDetectionBoxes
  let scores ← uniqueSemanticOutput outputs .faceDetectionScores
  match boxes.dimensions, scores.dimensions with
  | [1, candidateCount, 4], [1, scoreCount] =>
      require (candidateCount = scoreCount ∧ 1 ≤ candidateCount ∧
        candidateCount ≤ MAX_FACE_DETECTION_CANDIDATES) .outputSemanticMismatch
  | _, _ => .error .outputSemanticMismatch

/-- A landmark model yields points and their confidence, the pose and the eyes. -/
def validateFaceLandmarkOutputs (outputs : List OutputContract) : Except ModelError Unit := do
  require (outputs.length = 4) .outputSemanticMismatch
  let landmarks ← uniqueSemanticOutput outputs .faceLandmarks
  let confidence ← uniqueSemanticOutput outputs .faceLandmarkConfidence
  let pose ← uniqueSemanticOutput outputs .facePoseDegrees
  let eyeOpenness ← uniqueSemanticOutput outputs .eyeOpenness
  match landmarks.dimensions with
  | [1, landmarkCount, 2] =>
      require (MIN_FACE_LANDMARKS ≤ landmarkCount ∧ landmarkCount ≤ MAX_FACE_LANDMARKS)
        .outputSemanticMismatch
      require (confidence.dimensions = [1, landmarkCount] ∧ pose.dimensions = [1, 3] ∧
        eyeOpenness.dimensions = [1, 2]) .outputSemanticMismatch
  | _ => .error .outputSemanticMismatch

/-- The meaning that a role asks for. -/
def validateRoleSemantics (role : ModelRole) (outputs : List OutputContract) :
    Except ModelError Unit :=
  match role with
  | .faceDetector => validateFaceDetectorOutputs outputs
  | .faceLandmarks => validateFaceLandmarkOutputs outputs
  | .faceEmbedding =>
      require (semanticCount outputs .embedding = 1 ∧ semanticCount outputs .liveProbability = 0 ∧
        detectorAndLandmarkSemanticsAbsent outputs = true) .outputSemanticMismatch
  | .passiveLivenessInfrared | .passiveLivenessVisible | .passiveLivenessFusion =>
      require (semanticCount outputs .liveProbability = 1 ∧ semanticCount outputs .embedding = 0 ∧
        detectorAndLandmarkSemanticsAbsent outputs = true) .outputSemanticMismatch

/-- The shapes of an embedding: one dimension, or one behind a batch of one. -/
def embeddingShape : List Nat → Bool
  | [dimension] | [1, dimension] => decide (32 ≤ dimension ∧ dimension ≤ 4096)
  | _ => false

/-- The shape of an output fits its meaning. -/
def validateOutputShape (output : OutputContract) : Except ModelError Unit :=
  match output.semantic with
  | .embedding => do
      let elements ← dimensionProduct output.dimensions
      require (embeddingShape output.dimensions = true ∧ 32 ≤ elements ∧ elements ≤ 4096)
        .outputSemanticMismatch
  | .liveProbability => do
      let elements ← dimensionProduct output.dimensions
      require (elements = 1) .outputSemanticMismatch
  | _ => .ok ()

/-- The meanings and shapes of the outputs fit the role. -/
def validateOutputSemantics (role : ModelRole) (outputs : List OutputContract) :
    Except ModelError Unit := do
  validateRoleSemantics role outputs
  outputs.forM validateOutputShape

/-- A contract that exactly one role carries. -/
def validateRoleContract {Contract : Type} (owner role : ModelRole) (error : ModelError)
    (validate : Contract → Except ModelError Unit) : Option Contract → Except ModelError Unit
  | some contract => if role = owner then validate contract else .error error
  | none => if role = owner then .error error else .ok ()

/-- Inputs one after the other, with the names before them. -/
def validateInputs : List (List UInt8) → List InputContract → Except ModelError Unit
  | _, [] => .ok ()
  | names, input :: inputs => do
      validateInputContract input
      require (input.name ∉ names) (.duplicateInputName input.name)
      validateInputs (names ++ [input.name]) inputs

/-- Outputs one after the other, with the names and the number of elements before them. -/
def validateOutputs : List (List UInt8) → Nat → List OutputContract → Except ModelError Unit
  | _, _, [] => .ok ()
  | names, totalOutputElements, output :: outputs => do
      validateTensorName output.name
      validateDimensions output.dimensions
      let outputElements ← dimensionProduct output.dimensions
      require (totalOutputElements + outputElements ≤ U64_LIMIT) .invalidTensorDimensions
      require (totalOutputElements + outputElements ≤ MAX_TOTAL_OUTPUT_ELEMENTS)
        .invalidTensorDimensions
      require (output.name ∉ names) (.duplicateOutputName output.name)
      validateOutputs (names ++ [output.name]) (totalOutputElements + outputElements) outputs

namespace ModelManifest

/-- The text `https://`. -/
def HTTPS : List UInt8 := [104, 116, 116, 112, 115, 58, 47, 47]

/-- The text `infrared`. -/
def INFRARED : List UInt8 := [105, 110, 102, 114, 97, 114, 101, 100]

/-- The text `visible`. -/
def VISIBLE : List UInt8 := [118, 105, 115, 105, 98, 108, 101]

/-- A fusion graph takes an infrared and a visible image, every other graph one image. -/
def validateInputNames (manifest : ModelManifest) : Except ModelError Unit :=
  match manifest.role, manifest.additionalInputs with
  | .passiveLivenessFusion, [visible] =>
      require (manifest.input.name = INFRARED ∧ visible.name = VISIBLE) .invalidFusionInputNames
  | .passiveLivenessFusion, inputs => .error (.invalidInputCount (1 + inputs.length))
  | _, [] => .ok ()
  | _, inputs => .error (.invalidInputCount (1 + inputs.length))

variable (spdx : List UInt8 → Bool)

/-- Validate manifest structure without opening the model file. -/
def validate (manifest : ModelManifest) : Except ModelError Unit := do
  require (manifest.schemaVersion = MODEL_MANIFEST_SCHEMA_VERSION)
    (.unsupportedSchema manifest.schemaVersion MODEL_MANIFEST_SCHEMA_VERSION)
  validateLabel "name" manifest.name
  validateLabel "version" manifest.version
  require (manifest.sourceUrl.length ≤ MAX_SOURCE_URL_LENGTH ∧ HTTPS <+: manifest.sourceUrl)
    .invalidSourceUrl
  require (spdx manifest.licenseSpdx = true) .invalidLicenseExpression
  require (ValidDigest manifest.sha256) .invalidSha256
  manifest.validateInputNames
  validateInputs [] (manifest.input :: manifest.additionalInputs)
  validateRoleContract .faceEmbedding manifest.role .invalidAlignmentContract
    FaceAlignmentContract.validate manifest.faceAlignment
  validateRoleContract .faceLandmarks manifest.role .invalidFaceCropContract
    FaceCropContract.validate manifest.faceCrop
  validateRoleContract .faceLandmarks manifest.role .invalidLandmarkMeasurementContract
    LandmarkMeasurementContract.validate manifest.landmarkMeasurement
  require (manifest.outputs ≠ [] ∧ manifest.outputs.length ≤ MAX_OUTPUT_TENSORS)
    (.invalidOutputCount manifest.outputs.length)
  validateOutputs [] 0 manifest.outputs
  validateOutputSemantics manifest.role manifest.outputs

end ModelManifest

/-! ## Compatibility identities -/

/-- The lower-case digit of a number below sixteen. -/
def hexDigit (value : Nat) : UInt8 :=
  if value < 10 then UInt8.ofNat (48 + value) else UInt8.ofNat (87 + value)

/-- The lowercase hexadecimal digits of bytes. -/
def hexLower (bytes : List UInt8) : List UInt8 :=
  bytes.flatMap fun byte => [hexDigit (byte.toNat / 16), hexDigit (byte.toNat % 16)]

/-- Digits are hexadecimal and not of the upper case. -/
theorem hexDigit_lower : ∀ value < 16,
    isAsciiHexdigit (hexDigit value) = true ∧ isAsciiUppercase (hexDigit value) = false := by
  decide

/-- The digits of a hash of thirty-two bytes identify a model contract. -/
theorem validDigest_hexLower (hash : Vector UInt8 32) : ValidDigest (hexLower hash.toList) := by
  have digits : ∀ byte : UInt8, byte.toNat / 16 < 16 ∧ byte.toNat % 16 < 16 := by
    intro byte
    have bound := byte.toNat_lt
    omega
  have lower : ∀ digit ∈ hexLower hash.toList,
      isAsciiHexdigit digit = true ∧ isAsciiUppercase digit = false := by
    intro digit member
    obtain ⟨byte, -, inside⟩ := List.mem_flatMap.mp member
    simp only [List.mem_cons, List.not_mem_nil, or_false] at inside
    rcases inside with rfl | rfl
    · exact hexDigit_lower _ (digits byte).1
    · exact hexDigit_lower _ (digits byte).2
  refine ⟨?_, ?_, ?_⟩
  · simp [hexLower, List.length_flatMap]
  · rw [List.all_eq_true]
    exact fun digit member => (lower digit member).1
  · rw [List.any_eq_false]
    intro digit member upper
    rw [(lower digit member).2] at upper
    cases upper

section Compatibility

variable (spdx : List UInt8 → Bool) (sha256 : List UInt8 → Vector UInt8 32)
  (serialize : ModelManifest → Except ModelError (List UInt8))

/-- The text `faceauth-model-compatibility-v1` and a zero byte. -/
def COMPATIBILITY_DOMAIN : List UInt8 :=
  [102, 97, 99, 101, 97, 117, 116, 104, 45, 109, 111, 100, 101, 108, 45, 99, 111, 109, 112, 97,
    116, 105, 98, 105, 108, 105, 116, 121, 45, 118, 49, 0]

/-- The compatibility identity for templates and calibrated thresholds. -/
def ModelManifest.compatibilitySha256 (manifest : ModelManifest) :
    Except ModelError (List UInt8) := do
  manifest.validate spdx
  let encoded ← serialize manifest
  return hexLower (sha256 (COMPATIBILITY_DOMAIN ++ encoded)).toList

variable {spdx sha256 serialize}

/-- Only valid manifests have an identity, and it is a digest. -/
theorem ModelManifest.compatibilitySha256_spec {manifest : ModelManifest}
    {digest : List UInt8}
    (computed : manifest.compatibilitySha256 spdx sha256 serialize = .ok digest) :
    manifest.validate spdx = .ok () ∧ ValidDigest digest := by
  simp only [compatibilitySha256, check_bind_eq_ok_iff] at computed
  obtain ⟨valid, rest⟩ := computed
  obtain ⟨encoded, -, done⟩ := bind_eq_ok_iff.mp rest
  cases done
  exact ⟨valid, validDigest_hexLower _⟩

end Compatibility

end FaceAuth
