import FaceAuth.Model.Manifest
import FaceAuth.Storage.Json

/-!
# The text of a manifest

The bytes that the derived encoder writes for a manifest, and that its identity is
computed from: the fields in the order of their declaration, without blanks. The
decimal text of a single-precision number is a parameter, and no name needs an escape.
-/

namespace FaceAuth

open Foundation

/-! ## JSON text -/

/-- Bytes between quotes. -/
def quoted (bytes : List UInt8) : List UInt8 := 34 :: bytes ++ [34]

/-- The digits of a number. -/
def jsonNatural (value : Nat) : List UInt8 := (Nat.toDigits 10 value).map Char.toUInt8

/-- A member of an object. -/
def jsonMember (name : String) (value : List UInt8) : List UInt8 :=
  quoted (ascii name) ++ 58 :: value

/-- Items between brackets. -/
def jsonArray (items : List (List UInt8)) : List UInt8 :=
  91 :: [44].intercalate items ++ [93]

/-- Members between braces. -/
def jsonObject (members : List (List UInt8)) : List UInt8 :=
  123 :: [44].intercalate members ++ [125]

/-- A value, or null. -/
def jsonOption {Value : Type} (text : Value → List UInt8) : Option Value → List UInt8
  | none => ascii "null"
  | some value => text value

/-! ## Enumerations -/

/-- The name of a layout. -/
def TensorLayout.text : TensorLayout → List UInt8
  | .nchw => quoted (ascii "nchw")
  | .nhwc => quoted (ascii "nhwc")

/-- The name of a colour space. -/
def ColorSpace.text : ColorSpace → List UInt8
  | .grayscale => quoted (ascii "grayscale")
  | .rgb => quoted (ascii "rgb")
  | .bgr => quoted (ascii "bgr")

/-- The name of a role. -/
def ModelRole.text : ModelRole → List UInt8
  | .faceDetector => quoted (ascii "face-detector")
  | .faceLandmarks => quoted (ascii "face-landmarks")
  | .faceEmbedding => quoted (ascii "face-embedding")
  | .passiveLivenessInfrared => quoted (ascii "passive-liveness-infrared")
  | .passiveLivenessVisible => quoted (ascii "passive-liveness-visible")
  | .passiveLivenessFusion => quoted (ascii "passive-liveness-fusion")

/-- The name of a meaning. -/
def OutputSemantic.text : OutputSemantic → List UInt8
  | .faceDetectionBoxes => quoted (ascii "face-detection-boxes")
  | .faceDetectionScores => quoted (ascii "face-detection-scores")
  | .faceLandmarks => quoted (ascii "face-landmarks")
  | .faceLandmarkConfidence => quoted (ascii "face-landmark-confidence")
  | .facePoseDegrees => quoted (ascii "face-pose-degrees")
  | .eyeOpenness => quoted (ascii "eye-openness")
  | .embedding => quoted (ascii "embedding")
  | .liveProbability => quoted (ascii "live-probability")
  | .auxiliary => quoted (ascii "auxiliary")

/-! ## Contracts -/

section Contracts

variable (single : Float32 → List UInt8)

/-- The text of an input. -/
def InputContract.text (input : InputContract) : List UInt8 :=
  jsonObject [jsonMember "name" (quoted input.name),
    jsonMember "width" (jsonNatural input.width),
    jsonMember "height" (jsonNatural input.height),
    jsonMember "channels" (jsonNatural input.channels),
    jsonMember "layout" input.layout.text,
    jsonMember "color_space" input.colorSpace.text,
    jsonMember "element_type" (quoted (ascii "float32")),
    jsonMember "resize_filter" (quoted (ascii "bilinear-half-pixel")),
    jsonMember "normalization" (jsonObject [
      jsonMember "scale" (jsonArray (input.normalization.scale.map single)),
      jsonMember "bias" (jsonArray (input.normalization.bias.map single))])]

/-- The text of a crop. -/
def FaceCropContract.text (crop : FaceCropContract) : List UInt8 :=
  jsonObject [jsonMember "scale" (single crop.scale),
    jsonMember "center_offset_x" (single crop.centerOffsetX),
    jsonMember "center_offset_y" (single crop.centerOffsetY)]

/-- The text of the bounds on a measurement. -/
def LandmarkMeasurementContract.text (contract : LandmarkMeasurementContract) : List UInt8 :=
  jsonObject [jsonMember "minimum_visible_confidence" (single contract.minimumVisibleConfidence),
    jsonMember "maximum_absolute_yaw_degrees" (single contract.maximumAbsoluteYawDegrees),
    jsonMember "maximum_absolute_pitch_degrees" (single contract.maximumAbsolutePitchDegrees),
    jsonMember "maximum_absolute_roll_degrees" (single contract.maximumAbsoluteRollDegrees)]

/-- The text of a point. -/
def NormalizedPoint.text (point : NormalizedPoint) : List UInt8 :=
  jsonObject [jsonMember "x" (single point.x), jsonMember "y" (single point.y)]

/-- The text of an alignment. -/
def FaceAlignmentContract.text (alignment : FaceAlignmentContract) : List UInt8 :=
  jsonObject [
    jsonMember "landmarks_compatibility_sha256" (quoted alignment.landmarksCompatibilitySha256),
    jsonMember "landmark_indices" (jsonArray (alignment.landmarkIndices.toList.map jsonNatural)),
    jsonMember "reference_points"
      (jsonArray (alignment.referencePoints.toList.map (NormalizedPoint.text single))),
    jsonMember "maximum_normalized_residual" (single alignment.maximumNormalizedResidual)]

/-- The text of an output. -/
def OutputContract.text (output : OutputContract) : List UInt8 :=
  jsonObject [jsonMember "name" (quoted output.name),
    jsonMember "dimensions" (jsonArray (output.dimensions.map jsonNatural)),
    jsonMember "element_type" (quoted (ascii "float32")),
    jsonMember "semantic" output.semantic.text]

/-- The text of a manifest, in the order of its fields. -/
def ModelManifest.text (manifest : ModelManifest) : List UInt8 :=
  jsonObject [jsonMember "schema_version" (jsonNatural manifest.schemaVersion),
    jsonMember "name" (quoted manifest.name),
    jsonMember "version" (quoted manifest.version),
    jsonMember "role" manifest.role.text,
    jsonMember "source_url" (quoted manifest.sourceUrl),
    jsonMember "license_spdx" (quoted manifest.licenseSpdx),
    jsonMember "sha256" (quoted manifest.sha256),
    jsonMember "input" (manifest.input.text single),
    jsonMember "additional_inputs"
      (jsonArray (manifest.additionalInputs.map (InputContract.text single))),
    jsonMember "face_crop" (jsonOption (FaceCropContract.text single) manifest.faceCrop),
    jsonMember "landmark_measurement"
      (jsonOption (LandmarkMeasurementContract.text single) manifest.landmarkMeasurement),
    jsonMember "face_alignment"
      (jsonOption (FaceAlignmentContract.text single) manifest.faceAlignment),
    jsonMember "outputs" (jsonArray (manifest.outputs.map OutputContract.text))]

end Contracts

end FaceAuth
