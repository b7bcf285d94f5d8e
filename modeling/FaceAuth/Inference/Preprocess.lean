import FaceAuth.Capture.Spec
import FaceAuth.Inference.Admission

/-!
# Preprocessing of images

How a loaded model reads a frame: the checks on the image and on the input
contract, the conversion of single pixels, and the binding of tensors to named
inputs. How pixels are resampled is left to a parameter, which reads the image
through the conversion.
-/

namespace FaceAuth

open Foundation

namespace Inference

/-- Maximum width and height of a source image. -/
def MAX_SOURCE_DIMENSION : Nat := 4096

/-- Raw pixel encodings accepted by the inference preprocessing boundary. -/
inductive ImageFormat where
  | gray8 | rgb8 | bgr8 | yuyv
deriving DecidableEq, Repr

/-- A tightly packed 8-bit image. -/
structure ImageView where
  width : Nat
  height : Nat
  format : ImageFormat
  bytes : List UInt8

/-- The image of a frame, unless it is compressed. -/
def inferenceFrameView (frame : CapturedFrame) : Except InferenceError ImageView :=
  let width := frame.summary.format.width.toNat
  let height := frame.summary.format.height.toNat
  match frame.summary.format.pixelFormat with
  | .gray8 => .ok ⟨width, height, .gray8, frame.data⟩
  | .yuyv => .ok ⟨width, height, .yuyv, frame.data⟩
  | .mjpeg => .error .sourceImageInvalid

/-- The bytes of an image of so many pixels. -/
def expectedBytes (image : ImageView) : Except InferenceError Nat :=
  let sourcePixels := image.width * image.height
  match image.format with
  | .gray8 => .ok sourcePixels
  | .rgb8 | .bgr8 => .ok (sourcePixels * 3)
  | .yuyv => do
      require (image.width % 2 = 0) .sourceImageInvalid
      return sourcePixels * 2

/-- Check an input contract and an image against each other, for the number of channels. -/
def validatePreprocessInputs (contract : InputContract) (image : ImageView) :
    Except InferenceError Nat := do
  require (contract.width ≠ 0 ∧ contract.height ≠ 0 ∧
    contract.normalization.scale.length = contract.channels ∧
    contract.normalization.bias.length = contract.channels) .inputTensorInvalid
  require (image.width ≠ 0 ∧ image.height ≠ 0 ∧ image.width ≤ MAX_SOURCE_DIMENSION ∧
    image.height ≤ MAX_SOURCE_DIMENSION) .sourceImageInvalid
  let expected ← expectedBytes image
  require (image.bytes.length = expected ∧
    (contract.colorSpace = .grayscale ↔ image.format = .gray8)) .sourceImageInvalid
  return contract.channels

/-! ## Pixels -/

/-- A byte of the image. -/
def byteAt (image : ImageView) (index : Nat) : Except InferenceError UInt8 :=
  match image.bytes[index]? with
  | some byte => .ok byte
  | none => .error .sourceImageInvalid

/-- The nearest number of eight bits. -/
def clampU8 (value : Int) : UInt8 := UInt8.ofNat (max 0 (min value 255)).toNat

/-- Bounded BT.601 limited-range conversion of one pixel of a pair. -/
def yuyvRgb (image : ImageView) (column row : Nat) : Except InferenceError (List UInt8) := do
  let base := (row * (image.width / 2) + column / 2) * 4
  let luma ← byteAt image (if column % 2 = 0 then base else base + 2)
  let chromaBlue ← byteAt image (base + 1)
  let chromaRed ← byteAt image (base + 3)
  let scaledLuma : Int := max (luma.toNat - 16) 0
  let blueDelta : Int := chromaBlue.toNat - 128
  let redDelta : Int := chromaRed.toNat - 128
  return [clampU8 ((298 * scaledLuma + 409 * redDelta + 128) / 256),
    clampU8 ((298 * scaledLuma - 100 * blueDelta - 208 * redDelta + 128) / 256),
    clampU8 ((298 * scaledLuma + 516 * blueDelta + 128) / 256)]

/-- The red, green and blue of one pixel. -/
def pixelRgb (image : ImageView) (x y : Nat) : Except InferenceError (List UInt8) :=
  let base := (y * image.width + x) * 3
  match image.format with
  | .yuyv => yuyvRgb image x y
  | format => do
      let first ← byteAt image base
      let green ← byteAt image (base + 1)
      let third ← byteAt image (base + 2)
      return if format = .rgb8 then [first, green, third] else [third, green, first]

/-- The channels of a pixel in the order of a model. -/
def orderedChannels (targetColor : ColorSpace) (rgb : List UInt8) :
    Except InferenceError (List UInt8) :=
  match targetColor with
  | .rgb => .ok rgb
  | .bgr => .ok rgb.reverse
  | .grayscale => .error .sourceImageInvalid

/-- One channel of one pixel in the color space of a model. -/
def sourceChannel (image : ImageView) (x y channel : Nat) (targetColor : ColorSpace) :
    Except InferenceError Float32 :=
  match image.format with
  | .gray8 => (byteAt image (y * image.width + x)).map UInt8.toFloat32
  | _ => do
      let rgb ← pixelRgb image x y
      let ordered ← orderedChannels targetColor rgb
      match ordered[channel]? with
      | some value => .ok value.toFloat32
      | none => .error .sourceImageInvalid

/-! ## Tensors -/

/-- Float32 input with the exact manifest shape. -/
structure InputTensor where
  dimensions : List Nat
  values : List Float32

/-- Reads the value of a channel at a column and a row. -/
abbrev PixelReader : Type := Nat → Nat → Nat → Except InferenceError Float32

/-- The values of a tensor, from the pixels of an image. -/
abbrev Resampling : Type := PixelReader → Except InferenceError (List Float32)

/-- How pixels of an image are read for a contract. -/
def readPixels (contract : InputContract) (image : ImageView) : PixelReader :=
  fun x y channel => sourceChannel image x y channel contract.colorSpace

/-- Resample a whole image into a tensor. -/
def preprocessImageCancellable (resize : Resampling) (contract : InputContract)
    (image : ImageView) : Except InferenceError InputTensor := do
  let _ ← validatePreprocessInputs contract image
  let values ← resize (readPixels contract image)
  return ⟨contract.dimensions, values⟩

/-- Resample a region of an image into a tensor. -/
def preprocessImageRegion (sample : NormalizedFaceBox → Resampling) (contract : InputContract)
    (image : ImageView) (region : NormalizedFaceBox) : Except InferenceError InputTensor := do
  let _ ← validatePreprocessInputs contract image
  let values ← sample region (readPixels contract image)
  return ⟨contract.dimensions, values⟩

/-- Landmark points mapped into normalized full-image coordinates. -/
structure ImageFacialLandmarks where
  compatibilitySha256 : List UInt8
  points : List NormalizedLandmark

/-- A point of a region in the coordinates of the full image. -/
def mapPoint (region : NormalizedFaceBox) (point : NormalizedLandmark) :
    Except InferenceError NormalizedLandmark := do
  let x := fusedMulAdd point.x (region.right - region.left) region.left
  let y := fusedMulAdd point.y (region.bottom - region.top) region.top
  require (UnitScore x ∧ UnitScore y) .faceLandmarkOutputInvalid
  return ⟨x, y⟩

/-- The landmarks in units of the image instead of their region. -/
def FacialLandmarks.mapToImage (landmarks : FacialLandmarks) :
    Except InferenceError ImageFacialLandmarks := do
  let points ← landmarks.points.mapM (mapPoint landmarks.region.bounds)
  return ⟨landmarks.compatibilitySha256, points⟩

/-- A landmark by its index. -/
def landmarkAt (landmarks : ImageFacialLandmarks) (index : Nat) :
    Except InferenceError NormalizedLandmark :=
  match landmarks.points[index]? with
  | some point => .ok point
  | none => .error .faceAlignmentInvalid

/-- Resample a face into a tensor, aligned by its landmarks. -/
def preprocessAlignedImage (align : List NormalizedLandmark → Resampling)
    (contract : InputContract) (alignment : FaceAlignmentContract) (image : ImageView)
    (landmarks : ImageFacialLandmarks) : Except InferenceError InputTensor := do
  let _ ← validatePreprocessInputs contract image
  require (landmarks.compatibilitySha256 = alignment.landmarksCompatibilitySha256)
    .faceAlignmentIncompatible
  let source ← alignment.landmarkIndices.toList.mapM (landmarkAt landmarks)
  let values ← align source (readPixels contract image)
  return ⟨contract.dimensions, values⟩

/-- A detected box that lies in the image and is not empty. -/
def ProperBox (detection : NormalizedFaceBox) : Prop :=
  let width := detection.right - detection.left
  let height := detection.bottom - detection.top
  width.isFinite = true ∧ height.isFinite = true ∧ ¬ width ≤ 0.0 ∧ ¬ height ≤ 0.0 ∧
    ¬ detection.left < 0.0 ∧ ¬ detection.top < 0.0 ∧ ¬ 1.0 < detection.right ∧
    ¬ 1.0 < detection.bottom

instance : DecidablePred ProperBox := fun _ =>
  inferInstanceAs (Decidable (_ ∧ _ ∧ _ ∧ _ ∧ _ ∧ _ ∧ _ ∧ _))

/-- The square around a detected box that a landmark model reads. -/
def deriveFaceRegion (crop : FaceCropContract) (detection : NormalizedFaceBox)
    (compatibilitySha256 : List UInt8) : Except InferenceError FaceRegion := do
  require (ProperBox detection) .faceRegionInvalid
  let width := detection.right - detection.left
  let height := detection.bottom - detection.top
  let centerX := fusedMulAdd (detection.left + detection.right) 0.5 (crop.centerOffsetX * width)
  let centerY := fusedMulAdd (detection.top + detection.bottom) 0.5 (crop.centerOffsetY * height)
  let halfSide := floatMax width height * crop.scale * 0.5
  let bounds : NormalizedFaceBox := ⟨centerX - halfSide, centerY - halfSide, centerX + halfSide,
    centerY + halfSide⟩
  require (ValidDigest compatibilitySha256 ∧ UnitScore bounds.left ∧ UnitScore bounds.top ∧
    UnitScore bounds.right ∧ UnitScore bounds.bottom) .faceRegionOutsideImage
  return ⟨compatibilitySha256, bounds⟩

/-! ## Sessions -/

/-- A loaded graph, known by its manifest and its identity. -/
structure OnnxSession where
  manifest : ModelManifest
  compatibilitySha256 : List UInt8

namespace OnnxSession

variable (session : OnnxSession)

/-- The identity was computed from the manifest when the graph was loaded. -/
def Loaded (spdx : List UInt8 → Bool) (sha256 : List UInt8 → Vector UInt8 32)
    (serialize : ModelManifest → Except ModelError (List UInt8)) : Prop :=
  session.manifest.compatibilitySha256 spdx sha256 serialize = .ok session.compatibilitySha256

/-- The tensor of the session's input from an image. -/
def preprocessCancellable (resize : Resampling) (image : ImageView) :
    Except InferenceError InputTensor := do
  require (session.manifest.faceAlignment = none) .faceAlignmentRequired
  preprocessImageCancellable resize session.manifest.input image

/-- The input of a name. -/
def manifestInput (name : List UInt8) : Except InferenceError InputContract :=
  match (session.manifest.input :: session.manifest.additionalInputs).find? fun contract =>
      contract.name = name with
  | some contract => .ok contract
  | none => .error .inputTensorInvalid

/-- The tensor of a named input from an image. -/
def preprocessNamedCancellable (resize : Resampling) (name : List UInt8) (image : ImageView) :
    Except InferenceError InputTensor := do
  require (session.manifest.role = .passiveLivenessFusion) .modelRoleMismatch
  let contract ← session.manifestInput name
  preprocessImageCancellable resize contract image

/-- The region that a landmark model derives from a detected box. -/
def deriveFaceRegion (detection : NormalizedFaceBox) : Except InferenceError FaceRegion := do
  require (session.manifest.role = .faceLandmarks) .modelRoleMismatch
  match session.manifest.faceCrop with
  | none => .error .faceRegionInvalid
  | some crop => Inference.deriveFaceRegion crop detection session.compatibilitySha256

/-- The tensor of the session's input from a region of an image. -/
def preprocessFaceRegion (sample : NormalizedFaceBox → Resampling) (image : ImageView)
    (region : FaceRegion) : Except InferenceError InputTensor := do
  require (session.manifest.role = .faceLandmarks) .modelRoleMismatch
  require (region.compatibilitySha256 = session.compatibilitySha256) .faceRegionIncompatible
  preprocessImageRegion sample session.manifest.input image region.bounds

/-- The tensor of the session's input from an aligned face. -/
def preprocessAligned (align : List NormalizedLandmark → Resampling) (image : ImageView)
    (landmarks : ImageFacialLandmarks) : Except InferenceError InputTensor :=
  match session.manifest.faceAlignment with
  | none => .error .faceAlignmentRequired
  | some alignment =>
      preprocessAlignedImage align session.manifest.input alignment image landmarks

/-- The one tensor that is given for an input contract. -/
def namedInput (inputs : List (List UInt8 × InputTensor)) (contract : InputContract) :
    Except InferenceError InputTensor :=
  match inputs.filter fun entry => entry.1 = contract.name with
  | [(_, input)] => do
      require (input.dimensions = contract.dimensions ∧
        input.values.all Float32.isFinite = true) .inputTensorInvalid
      return input
  | _ => .error .inputTensorInvalid

/-- Tensors in the order of the input contracts that they are bound to by name. -/
def validateNamedInputs (inputs : List (List UInt8 × InputTensor)) :
    Except InferenceError (List InputTensor) := do
  require (inputs.length = 1 + session.manifest.additionalInputs.length) .inputTensorInvalid
  (session.manifest.input :: session.manifest.additionalInputs).mapM (namedInput inputs)

end OnnxSession

/-! ## Accepted images -/

/-- What validation leaves known of an input contract. -/
structure Wellformed (contract : InputContract) : Prop where
  width : contract.width ≠ 0
  height : contract.height ≠ 0
  scale : contract.normalization.scale.length = contract.channels
  bias : contract.normalization.bias.length = contract.channels
  channels : contract.channels = contract.colorSpace.channels

/-- A valid contract is well formed. -/
theorem wellformed_of_valid {contract : InputContract}
    (valid : validateInputContract contract = .ok ()) : Wellformed contract := by
  simp only [validateInputContract, check_bind_eq_ok_iff, require_eq_ok_iff] at valid
  obtain ⟨-, ⟨width, height, -, -⟩, channels, ⟨scale, bias, -, -⟩, -⟩ := valid
  exact ⟨width, height, scale, bias, channels⟩

/-- An image that the input contract can read. -/
structure Suits (contract : InputContract) (image : ImageView) : Prop where
  width : 0 < image.width ∧ image.width ≤ MAX_SOURCE_DIMENSION
  height : 0 < image.height ∧ image.height ≤ MAX_SOURCE_DIMENSION
  packed : expectedBytes image = .ok image.bytes.length
  color : contract.colorSpace = .grayscale ↔ image.format = .gray8

/-- The checks before the first pixel accept exactly the images that suit. -/
theorem validatePreprocessInputs_iff {contract : InputContract} (wellformed : Wellformed contract)
    {image : ImageView} :
    (∃ channels, validatePreprocessInputs contract image = .ok channels) ↔
      Suits contract image := by
  simp only [validatePreprocessInputs, check_bind_eq_ok_iff, require_eq_ok_iff]
  constructor
  · intro accepted
    obtain ⟨channels, -, ⟨width, height, narrow, low⟩, rest⟩ := accepted
    obtain ⟨expected, counted, rest⟩ := bind_eq_ok_iff.mp rest
    rw [check_bind_eq_ok_iff, require_eq_ok_iff] at rest
    obtain ⟨⟨length, color⟩, -⟩ := rest
    exact ⟨⟨Nat.pos_of_ne_zero width, narrow⟩, ⟨Nat.pos_of_ne_zero height, low⟩,
      length ▸ counted, color⟩
  · intro suits
    refine ⟨contract.channels,
      ⟨wellformed.width, wellformed.height, wellformed.scale, wellformed.bias⟩,
      ⟨suits.width.1.ne', suits.height.1.ne', suits.width.2, suits.height.2⟩, ?_⟩
    refine bind_eq_ok_iff.mpr ⟨image.bytes.length, suits.packed, ?_⟩
    rw [check_bind_eq_ok_iff, require_eq_ok_iff]
    exact ⟨⟨rfl, suits.color⟩, rfl⟩

/-- A byte in bounds is read. -/
theorem byteAt_of_lt {image : ImageView} {index : Nat} (inside : index < image.bytes.length) :
    ∃ byte, byteAt image index = .ok byte := by
  refine ⟨image.bytes.get ⟨index, inside⟩, ?_⟩
  rw [byteAt, List.getElem?_eq_getElem inside]
  rfl

/-- The index of a pixel inside an image. -/
theorem pixel_lt {width height x y : Nat} (inside : x < width) (row : y < height) :
    y * width + x < width * height := by
  have rows : (y + 1) * width ≤ height * width := Nat.mul_le_mul_right width row
  rw [Nat.add_mul, Nat.one_mul, Nat.mul_comm height width] at rows
  omega

/-- A pixel of a packed image has its three colours. -/
theorem yuyvRgb_ok {image : ImageView} {x y : Nat} (even : image.width % 2 = 0)
    (packed : image.bytes.length = image.width * image.height * 2) (inside : x < image.width)
    (row : y < image.height) :
    ∃ rgb, yuyvRgb image x y = .ok rgb ∧ rgb.length = 3 := by
  have pairs : image.width = 2 * (image.width / 2) := by omega
  have pair := pixel_lt (show x / 2 < image.width / 2 by omega) row
  have bytes : image.bytes.length = 4 * (image.width / 2 * image.height) := by
    rw [packed, pairs, Nat.mul_div_cancel_left _ (by omega : 0 < 2), Nat.mul_assoc 2,
      Nat.mul_right_comm]
  obtain ⟨luma, lumaRead⟩ : ∃ byte, byteAt image (if x % 2 = 0 then
      (y * (image.width / 2) + x / 2) * 4 else (y * (image.width / 2) + x / 2) * 4 + 2) =
        .ok byte := by
    apply byteAt_of_lt
    split <;> omega
  obtain ⟨chromaBlue, blueRead⟩ := @byteAt_of_lt image
    ((y * (image.width / 2) + x / 2) * 4 + 1) (by omega)
  obtain ⟨chromaRed, redRead⟩ := @byteAt_of_lt image
    ((y * (image.width / 2) + x / 2) * 4 + 3) (by omega)
  unfold yuyvRgb
  dsimp only
  rw [lumaRead, blueRead, redRead]
  exact ⟨_, rfl, rfl⟩

/-- Every pixel of an uncompressed color image has three channels. -/
theorem pixelRgb_ok {contract : InputContract} {image : ImageView} (suits : Suits contract image)
    (colored : image.format ≠ .gray8) {x y : Nat} (inside : x < image.width)
    (row : y < image.height) :
    ∃ rgb, pixelRgb image x y = .ok rgb ∧ rgb.length = 3 := by
  have packed := suits.packed
  have pixel := pixel_lt inside row
  unfold expectedBytes at packed
  match format : image.format with
  | .gray8 => exact absurd format colored
  | .yuyv =>
      rw [format] at packed
      simp only [check_bind_eq_ok_iff, require_eq_ok_iff] at packed
      obtain ⟨even, same⟩ := packed
      have length : image.width * image.height * 2 = image.bytes.length := Except.ok.inj same
      unfold pixelRgb
      rw [format]
      exact yuyvRgb_ok even length.symm inside row
  | .rgb8 | .bgr8 =>
      rw [format] at packed
      have length : image.width * image.height * 3 = image.bytes.length :=
        Except.ok.inj packed
      obtain ⟨first, firstRead⟩ := @byteAt_of_lt image ((y * image.width + x) * 3) (by omega)
      obtain ⟨green, greenRead⟩ := @byteAt_of_lt image ((y * image.width + x) * 3 + 1) (by omega)
      obtain ⟨third, thirdRead⟩ := @byteAt_of_lt image ((y * image.width + x) * 3 + 2) (by omega)
      unfold pixelRgb
      rw [format]
      dsimp only
      rw [firstRead, greenRead, thirdRead]
      exact ⟨_, rfl, rfl⟩

/-- Three colours are ordered as a space asks. -/
theorem orderedChannels_ok {space : ColorSpace} (colored : space ≠ .grayscale)
    {rgb : List UInt8} (three : rgb.length = 3) :
    ∃ ordered, orderedChannels space rgb = .ok ordered ∧ ordered.length = space.channels := by
  match space with
  | .grayscale => exact absurd rfl colored
  | .rgb => exact ⟨rgb, rfl, three⟩
  | .bgr => exact ⟨rgb.reverse, rfl, rgb.length_reverse.trans three⟩

/-- Every channel of every pixel of an image that suits can be read. -/
theorem readPixels_ok {contract : InputContract} (wellformed : Wellformed contract)
    {image : ImageView} (suits : Suits contract image) {x y channel : Nat}
    (inside : x < image.width) (row : y < image.height) (known : channel < contract.channels) :
    ∃ value, readPixels contract image x y channel = .ok value := by
  have channels := wellformed.channels
  unfold readPixels sourceChannel
  by_cases gray : image.format = .gray8
  · have packed := suits.packed
    simp only [expectedBytes, gray, Except.ok.injEq] at packed
    obtain ⟨byte, read⟩ := byteAt_of_lt (packed ▸ pixel_lt inside row)
    exact ⟨byte.toFloat32, by rw [gray]; dsimp only; rw [read]; rfl⟩
  · obtain ⟨rgb, read, three⟩ := pixelRgb_ok suits gray inside row
    have colored : contract.colorSpace ≠ .grayscale := fun same => gray (suits.color.mp same)
    obtain ⟨ordered, order, count⟩ := orderedChannels_ok colored three
    have listed : channel < ordered.length := by omega
    have value := List.getElem?_eq_getElem listed
    match format : image.format with
    | .gray8 => exact absurd format gray
    | .rgb8 | .bgr8 | .yuyv =>
        refine ⟨(ordered.get ⟨channel, listed⟩).toFloat32, ?_⟩
        refine bind_eq_ok_iff.mpr ⟨rgb, read, bind_eq_ok_iff.mpr ⟨ordered, order, ?_⟩⟩
        rw [value]
        rfl

/-! ## Steps -/

/-- A tensor that the graph takes for an input contract. -/
def InputTensor.Fits (tensor : InputTensor) (contract : InputContract) : Prop :=
  tensor.dimensions = contract.dimensions ∧ tensor.values.all Float32.isFinite = true

/-- The resampling yields finite values for a contract, as long as every pixel of
an image can be read. -/
def Resampling.Works (resample : Resampling) (contract : InputContract) (image : ImageView) :
    Prop :=
  ∀ read : PixelReader,
    (∀ x < image.width, ∀ y < image.height, ∀ channel < contract.channels,
      ∃ value, read x y channel = .ok value) →
    ∃ values, resample read = .ok values ∧ values.all Float32.isFinite = true

/-- A step fails only when its resampling does. -/
def Accepts (contract : InputContract) (image : ImageView)
    (step : Resampling → Except InferenceError InputTensor) : Prop :=
  ∀ resample : Resampling, resample.Works contract image →
    ∃ tensor, step resample = .ok tensor ∧ tensor.Fits contract

/-- A resampling that yields nothing works for every image. -/
theorem works_empty (contract : InputContract) (image : ImageView) :
    Resampling.Works (fun _ => .ok []) contract image :=
  fun _ _ => ⟨[], rfl, rfl⟩

/-- An image is accepted whole exactly when it suits the contract. -/
theorem accepts_preprocessImage_iff {contract : InputContract}
    (wellformed : Wellformed contract) {image : ImageView} :
    Accepts contract image (fun resize => preprocessImageCancellable resize contract image) ↔
      Suits contract image := by
  constructor
  · intro accepts
    obtain ⟨tensor, stepped, -⟩ := accepts _ (works_empty contract image)
    obtain ⟨channels, accepted, -⟩ := bind_eq_ok_iff.mp stepped
    exact (validatePreprocessInputs_iff wellformed).mp ⟨channels, accepted⟩
  · intro suits resize works
    obtain ⟨channels, accepted⟩ := (validatePreprocessInputs_iff wellformed).mpr suits
    obtain ⟨values, resized, finite⟩ := works (readPixels contract image)
      fun x inside y row channel known => readPixels_ok wellformed suits inside row known
    refine ⟨⟨contract.dimensions, values⟩, ?_, rfl, finite⟩
    exact bind_eq_ok_iff.mpr ⟨channels, accepted, bind_eq_ok_iff.mpr ⟨values, resized, rfl⟩⟩

end Inference

end FaceAuth
