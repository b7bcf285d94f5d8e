import FaceAuth.Inference.Preprocess
import FaceAuth.Quality.Image

/-!
# Steps on single frames

How the observation pipeline hands a frame to the models and to quality
assessment, and the streams whose frames these steps accept.
-/

namespace FaceAuth

open Foundation

namespace Inference

section Steps

variable (session : OnnxSession)

/-- A frame becomes the tensor of a session. -/
def preprocessFrame (resize : Resampling) (frame : CapturedFrame) :
    Except InferenceError InputTensor := do
  let image ← inferenceFrameView frame
  session.preprocessCancellable resize image

/-- A frame becomes one named tensor of a fusion. -/
def preprocessNamedFrame (resize : Resampling) (name : List UInt8) (frame : CapturedFrame) :
    Except InferenceError InputTensor := do
  let image ← inferenceFrameView frame
  session.preprocessNamedCancellable resize name image

/-- The tensor of a landmark run. -/
def landmarkInput (sample : NormalizedFaceBox → Resampling) (frame : CapturedFrame)
    (region : FaceRegion) : Except InferenceError InputTensor := do
  let image ← inferenceFrameView frame
  session.preprocessFaceRegion sample image region

/-- The tensor of an embedding run. -/
def embeddingInput (align : List NormalizedLandmark → Resampling) (frame : CapturedFrame)
    (landmarks : ImageFacialLandmarks) : Except InferenceError InputTensor := do
  let image ← inferenceFrameView frame
  session.preprocessAligned align image landmarks

end Steps

/-- The image of a frame, for quality assessment. -/
def qualityFrameView (frame : CapturedFrame) : Except QualityError QualityImageView :=
  let format := frame.summary.format
  match format.pixelFormat with
  | .gray8 => QualityImageView.gray8 format.width format.height frame.data
  | .yuyv => QualityImageView.yuyv format.width format.height frame.data
  | .mjpeg => .error .unsupportedImageFormat

/-- The geometry of the face that a landmark run found. -/
def FacialLandmarks.geometry (landmarks : FacialLandmarks) : FaceGeometry :=
  let bounds := landmarks.region.bounds
  let measurements := landmarks.measurements
  { centerX := (bounds.left + bounds.right) * 0.5
    centerY := (bounds.top + bounds.bottom) * 0.5
    width := bounds.right - bounds.left
    height := bounds.bottom - bounds.top
    yawDegrees := measurements.yawDegrees
    pitchDegrees := measurements.pitchDegrees
    rollDegrees := measurements.rollDegrees
    landmarkConfidence := measurements.landmarkConfidence
    visibleFraction := measurements.visibleFraction }

/-- The quality of a face in a frame. -/
def assessLandmarkFrameQuality (measurement : FaceMeasurement) (frame : CapturedFrame)
    (landmarks : FacialLandmarks) (config : QualityConfig) : Except QualityError Float32 := do
  let image ← qualityFrameView frame
  assessCancellable measurement image landmarks.geometry config

end Inference

/-! ## Streams that can be read -/

namespace CaptureSpec

/-- Single pixels can be read from the frames of a stream. -/
def Uncompressed (spec : CaptureSpec) : Prop :=
  match spec.pixelFormat with
  | .gray8 => True
  | .yuyv => spec.width.toNat % 2 = 0
  | .mjpeg => False

instance (spec : CaptureSpec) : Decidable spec.Uncompressed := by
  unfold Uncompressed
  cases spec.pixelFormat <;> infer_instance

/-- A stream whose frames an input contract can read. -/
structure ReadableBy (spec : CaptureSpec) (contract : InputContract) : Prop where
  uncompressed : spec.Uncompressed
  width : spec.width.toNat ≤ Inference.MAX_SOURCE_DIMENSION
  height : spec.height.toNat ≤ Inference.MAX_SOURCE_DIMENSION
  color : contract.colorSpace = .grayscale ↔ spec.pixelFormat = .gray8

/-- A stream whose frames have room for a face that the configuration assesses. -/
structure AssessableUnder (spec : CaptureSpec) (config : QualityConfig) : Prop where
  uncompressed : spec.Uncompressed
  width : spec.width.toNat ≤ ABSOLUTE_MAX_IMAGE_DIMENSION
  height : spec.height.toNat ≤ ABSOLUTE_MAX_IMAGE_DIMENSION
  pixels : spec.width.toNat * spec.height.toNat ≤ config.maxImagePixels
  faceWidth : config.minimumFaceWidthPixels ≤ spec.width.toNat
  faceHeight : config.minimumFaceHeightPixels ≤ spec.height.toNat

end CaptureSpec

namespace Inference

variable {frame : CapturedFrame} {spec : CaptureSpec} {modality : CaptureModality}

/-- A conforming frame has an image that suits a contract when its stream can be read. -/
theorem view_suits_iff (valid : spec.validate modality = .ok ())
    (conforms : frame.Conforms spec modality) {contract : InputContract} :
    (∃ image, inferenceFrameView frame = .ok image ∧ Suits contract image) ↔
      spec.ReadableBy contract := by
  obtain ⟨width, height, -, -⟩ := spec.validate_eq_ok valid
  have exact := conforms.exact
  unfold inferenceFrameView
  rw [conforms.format]
  unfold CaptureSpec.frameBytes at exact
  dsimp only [CaptureSpec.negotiated]
  cases format : spec.pixelFormat with
  | gray8 =>
      rw [format] at exact
      have length := exact _ rfl
      constructor
      · intro viewed
        obtain ⟨image, same, suits⟩ := viewed
        cases same
        exact ⟨by rw [CaptureSpec.Uncompressed, format]; trivial, suits.width.2, suits.height.2,
          suits.color.trans (by simp [format])⟩
      · intro readable
        refine ⟨_, rfl, ⟨width, readable.width⟩, ⟨height, readable.height⟩, ?_, ?_⟩
        · rw [expectedBytes]
          exact congrArg Except.ok length.symm
        · exact readable.color.trans (by simp [format])
  | yuyv =>
      rw [format] at exact
      have length := exact _ rfl
      constructor
      · intro viewed
        obtain ⟨image, same, suits⟩ := viewed
        cases same
        have packed := suits.packed
        simp only [expectedBytes, check_bind_eq_ok_iff, require_eq_ok_iff] at packed
        exact ⟨by rw [CaptureSpec.Uncompressed, format]; exact packed.1, suits.width.2,
          suits.height.2, suits.color.trans (by simp [format])⟩
      · intro readable
        have even := readable.uncompressed
        rw [CaptureSpec.Uncompressed, format] at even
        refine ⟨_, rfl, ⟨width, readable.width⟩, ⟨height, readable.height⟩, ?_, ?_⟩
        · simp only [expectedBytes, check_bind_eq_ok_iff, require_eq_ok_iff]
          exact ⟨even, congrArg Except.ok length.symm⟩
        · exact readable.color.trans (by simp [format])
  | mjpeg =>
      constructor
      · intro viewed
        obtain ⟨image, same, -⟩ := viewed
        cases same
      · intro readable
        have uncompressed := readable.uncompressed
        rw [CaptureSpec.Uncompressed, format] at uncompressed
        exact uncompressed.elim

/-- A step on a frame fails only when its resampling does. -/
def FrameAccepts (contract : InputContract) (frame : CapturedFrame)
    (step : Resampling → Except InferenceError InputTensor) : Prop :=
  ∀ resample : Resampling,
    (∀ image, inferenceFrameView frame = .ok image → resample.Works contract image) →
    ∃ tensor, step resample = .ok tensor ∧ tensor.Fits contract

/-- A step that does nothing but resample the image of a frame accepts exactly the frames
of a stream that its contract can read. -/
theorem frameAccepts_iff (valid : spec.validate modality = .ok ())
    (conforms : frame.Conforms spec modality) {contract : InputContract}
    (wellformed : Wellformed contract) {step : Resampling → Except InferenceError InputTensor}
    (framed : ∀ resample, step resample =
      inferenceFrameView frame >>= preprocessImageCancellable resample contract) :
    FrameAccepts contract frame step ↔ spec.ReadableBy contract := by
  rw [← view_suits_iff valid conforms]
  constructor
  · intro accepts
    obtain ⟨tensor, stepped, -⟩ := accepts _ fun image _ => works_empty contract image
    rw [framed] at stepped
    obtain ⟨image, viewed, accepted⟩ := bind_eq_ok_iff.mp stepped
    obtain ⟨channels, validated, -⟩ := bind_eq_ok_iff.mp accepted
    exact ⟨image, viewed, (validatePreprocessInputs_iff wellformed).mp ⟨channels, validated⟩⟩
  · intro found resample works
    obtain ⟨image, viewed, suits⟩ := found
    obtain ⟨tensor, stepped, fits⟩ :=
      (accepts_preprocessImage_iff wellformed).mpr suits resample (works image viewed)
    refine ⟨tensor, ?_, fits⟩
    rw [framed]
    exact bind_eq_ok_iff.mpr ⟨image, viewed, stepped⟩

/-! ## Steps of a session -/

section Framed

variable {session : OnnxSession}

/-- Without an alignment a frame is viewed and resampled. -/
theorem preprocessFrame_framed (plain : session.manifest.faceAlignment = none)
    (resize : Resampling) : preprocessFrame session resize frame =
      inferenceFrameView frame >>= preprocessImageCancellable resize session.manifest.input := by
  unfold preprocessFrame OnnxSession.preprocessCancellable
  rw [plain]
  rfl

/-- A frame of a fusion is viewed and resampled under the contract of its name. -/
theorem preprocessNamedFrame_framed (fusion : session.manifest.role = .passiveLivenessFusion)
    {name : List UInt8} {contract : InputContract}
    (named : session.manifestInput name = .ok contract) (resize : Resampling) :
    preprocessNamedFrame session resize name frame =
      inferenceFrameView frame >>= preprocessImageCancellable resize contract := by
  unfold preprocessNamedFrame OnnxSession.preprocessNamedCancellable
  rw [fusion, named]
  rfl

/-- A landmark model reads the regions that it derived. -/
theorem landmarkInput_framed (role : session.manifest.role = .faceLandmarks)
    {region : FaceRegion} (own : region.compatibilitySha256 = session.compatibilitySha256)
    (sample : Resampling) : landmarkInput session (fun _ => sample) frame region =
      inferenceFrameView frame >>= preprocessImageCancellable sample session.manifest.input := by
  unfold landmarkInput OnnxSession.preprocessFaceRegion
  rw [role, own]
  simp only [require, if_true]
  rfl

/-- A landmark that is listed is found. -/
theorem landmarkAt_eq_ok {landmarks : ImageFacialLandmarks} {index : Nat}
    (listed : index < landmarks.points.length) :
    ∃ point, landmarkAt landmarks index = .ok point := by
  refine ⟨landmarks.points.get ⟨index, listed⟩, ?_⟩
  rw [landmarkAt, List.getElem?_eq_getElem listed]
  rfl

/-- An embedding model reads a face whose landmarks its alignment knows. -/
theorem embeddingInput_framed {alignment : FaceAlignmentContract}
    (carried : session.manifest.faceAlignment = some alignment)
    {landmarks : ImageFacialLandmarks}
    (own : landmarks.compatibilitySha256 = alignment.landmarksCompatibilitySha256)
    (listed : ∀ index ∈ alignment.landmarkIndices.toList, index < landmarks.points.length)
    (align : Resampling) : embeddingInput session (fun _ => align) frame landmarks =
      inferenceFrameView frame >>= preprocessImageCancellable align session.manifest.input := by
  obtain ⟨source, found⟩ := mapM_eq_ok fun index member => landmarkAt_eq_ok (listed index member)
  unfold embeddingInput OnnxSession.preprocessAligned preprocessAlignedImage
  rw [carried, own]
  simp only [require, if_true, found]
  rfl

end Framed

/-! ## Quality -/

/-- A packed image of positive size is laid out as it has to be when it is not too large. -/
theorem validateImageLayout_eq_ok_iff {width height : UInt32} {actualBytes channels : Nat}
    (wide : 0 < width.toNat) (high : 0 < height.toNat) (few : channels ≤ 4) :
    QualityImageView.validateImageLayout width height actualBytes channels = .ok () ↔
      width.toNat ≤ ABSOLUTE_MAX_IMAGE_DIMENSION ∧ height.toNat ≤ ABSOLUTE_MAX_IMAGE_DIMENSION ∧
        width.toNat * height.toNat ≤ ABSOLUTE_MAX_IMAGE_PIXELS ∧
        actualBytes = width.toNat * height.toNat * channels := by
  have nonzero : ∀ extent : UInt32, 0 < extent.toNat → extent ≠ 0 := by
    rintro extent positive rfl
    cases positive
  simp only [QualityImageView.validateImageLayout, check_bind_eq_ok_iff, require_eq_ok_iff]
  constructor
  · intro accepted
    obtain ⟨⟨-, -, narrow, low⟩, -, pixels, -, length⟩ := accepted
    exact ⟨narrow, low, pixels, length⟩
  · intro fits
    obtain ⟨narrow, low, pixels, length⟩ := fits
    have bytes := Nat.mul_le_mul pixels few
    refine ⟨⟨nonzero _ wide, nonzero _ high, narrow, low⟩, pixels.trans (by decide), pixels,
      bytes.trans (by decide), length⟩

/-- What a viewed frame tells of its stream. -/
theorem qualityFrameView_eq_ok (valid : spec.validate modality = .ok ())
    (conforms : frame.Conforms spec modality) {image : QualityImageView}
    (viewed : qualityFrameView frame = .ok image) :
    spec.Uncompressed ∧ spec.width.toNat ≤ ABSOLUTE_MAX_IMAGE_DIMENSION ∧
      spec.height.toNat ≤ ABSOLUTE_MAX_IMAGE_DIMENSION ∧ image.width = spec.width ∧
      image.height = spec.height := by
  obtain ⟨width, height, -, -⟩ := spec.validate_eq_ok valid
  unfold qualityFrameView at viewed
  rw [conforms.format] at viewed
  dsimp only [CaptureSpec.negotiated] at viewed
  unfold CaptureSpec.Uncompressed
  cases format : spec.pixelFormat with
  | gray8 =>
      rw [format] at viewed
      simp only [QualityImageView.gray8, check_bind_eq_ok_iff,
        validateImageLayout_eq_ok_iff width height (by decide : 1 ≤ 4)] at viewed
      obtain ⟨⟨narrow, low, -, -⟩, same⟩ := viewed
      cases same
      exact ⟨trivial, narrow, low, rfl, rfl⟩
  | yuyv =>
      rw [format] at viewed
      simp only [QualityImageView.yuyv, check_bind_eq_ok_iff, require_eq_ok_iff,
        validateImageLayout_eq_ok_iff width height (by decide : 2 ≤ 4)] at viewed
      obtain ⟨even, ⟨narrow, low, -, -⟩, same⟩ := viewed
      cases same
      exact ⟨even, narrow, low, rfl, rfl⟩
  | mjpeg =>
      rw [format] at viewed
      cases viewed

/-- The frames of a stream with room for a face can be viewed. -/
theorem qualityFrameView_ok (valid : spec.validate modality = .ok ())
    (conforms : frame.Conforms spec modality) {config : QualityConfig}
    (configured : config.validate = .ok ()) (assessable : spec.AssessableUnder config) :
    ∃ image, qualityFrameView frame = .ok image := by
  obtain ⟨width, height, -, -⟩ := spec.validate_eq_ok valid
  have pixels := assessable.pixels.trans (maxImagePixels_le configured).1
  have exact := conforms.exact
  have uncompressed := assessable.uncompressed
  unfold qualityFrameView
  rw [conforms.format]
  unfold CaptureSpec.frameBytes at exact
  unfold CaptureSpec.Uncompressed at uncompressed
  dsimp only [CaptureSpec.negotiated]
  cases format : spec.pixelFormat with
  | gray8 =>
      rw [format] at exact
      have length := exact _ rfl
      refine ⟨⟨spec.width, spec.height, .gray8, frame.data⟩, ?_⟩
      simp only [QualityImageView.gray8, check_bind_eq_ok_iff,
        validateImageLayout_eq_ok_iff width height (by decide : 1 ≤ 4)]
      exact ⟨⟨assessable.width, assessable.height, pixels, by omega⟩, rfl⟩
  | yuyv =>
      rw [format] at exact uncompressed
      have length := exact _ rfl
      refine ⟨⟨spec.width, spec.height, .yuyv, frame.data⟩, ?_⟩
      simp only [QualityImageView.yuyv, check_bind_eq_ok_iff, require_eq_ok_iff,
        validateImageLayout_eq_ok_iff width height (by decide : 2 ≤ 4)]
      exact ⟨uncompressed, ⟨assessable.width, assessable.height, pixels, length⟩, rfl⟩
  | mjpeg =>
      rw [format] at uncompressed
      exact uncompressed.elim

/-- Nothing but the pixels of a face keeps a frame from its score. -/
structure AssessesQuality (config : QualityConfig) (frame : CapturedFrame) : Prop where
  possible : ∃ (image : QualityImageView) (measurement : FaceMeasurement)
    (landmarks : FacialLandmarks), qualityFrameView frame = .ok image ∧
      measurement.Works image landmarks.geometry config
  scored : ∀ image, qualityFrameView frame = .ok image →
    ∀ (measurement : FaceMeasurement) (landmarks : FacialLandmarks),
      measurement.Works image landmarks.geometry config →
      ∃ score, assessLandmarkFrameQuality measurement frame landmarks config = .ok score

/-- The landmarks of a face that looks straight ahead and fills the image. -/
def wholeFace : FacialLandmarks where
  compatibilitySha256 := []
  region := ⟨[], ⟨0.0, 0.0, 1.0, 1.0⟩⟩
  points := []
  measurements := ⟨1.0, 1.0, 0.0, 0.0, 0.0, 1.0⟩

/-- The quality of a conforming frame can be assessed exactly when its specification allows it. -/
theorem assessesQuality_iff (valid : spec.validate modality = .ok ())
    (conforms : frame.Conforms spec modality) {config : QualityConfig}
    (configured : config.validate = .ok ()) :
    AssessesQuality config frame ↔ spec.AssessableUnder config := by
  constructor
  · intro assesses
    obtain ⟨image, measurement, landmarks, viewed, works⟩ := assesses.possible
    obtain ⟨score, assessed⟩ := assesses.scored image viewed measurement landmarks works
    obtain ⟨same, viewed', assessed⟩ := bind_eq_ok_iff.mp assessed
    rw [viewed] at viewed'
    cases viewed'
    obtain ⟨pixels, faceWidth, faceHeight⟩ := assessable_of_ok works assessed
    obtain ⟨uncompressed, narrow, low, width, height⟩ :=
      qualityFrameView_eq_ok valid conforms viewed
    rw [width, height] at pixels
    rw [width] at faceWidth
    rw [height] at faceHeight
    exact ⟨uncompressed, narrow, low, pixels, faceWidth, faceHeight⟩
  · intro assessable
    have fits : ∀ image, qualityFrameView frame = .ok image → Assessable image config := by
      intro image viewed
      obtain ⟨-, -, -, width, height⟩ := qualityFrameView_eq_ok valid conforms viewed
      exact ⟨by rw [width, height]; exact assessable.pixels,
        by rw [width]; exact assessable.faceWidth, by rw [height]; exact assessable.faceHeight⟩
    obtain ⟨image, viewed⟩ := qualityFrameView_ok valid conforms configured assessable
    refine ⟨⟨image, wholeImage, wholeFace, viewed,
      wholeImage_works configured (fits image viewed) (by decide +kernel)⟩, ?_⟩
    intro image viewed measurement landmarks works
    obtain ⟨score, assessed⟩ := assessCancellable_ok configured (fits image viewed) works
    exact ⟨score, bind_eq_ok_iff.mpr ⟨image, viewed, assessed⟩⟩

end Inference

end FaceAuth
