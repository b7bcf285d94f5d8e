import FaceAuth.Foundation.Word
import FaceAuth.Quality.Config

/-!
# Images under quality assessment

The layout that a borrowed image has to have, the geometry of the face on it,
and the checks of an assessment before it scans the pixels of the face.
-/

namespace FaceAuth

open Foundation

/-- Supported borrowed image encodings. -/
inductive QualityEncoding where
  | gray8 | rgb8 | yuyv
deriving DecidableEq, Repr

/-- A borrowed, tightly packed image. -/
structure QualityImageView where
  width : UInt32
  height : UInt32
  encoding : QualityEncoding
  pixels : List UInt8

namespace QualityImageView

/-- The extents and the bytes of an image agree, within the bounds. -/
def validateImageLayout (width height : UInt32) (actualBytes channels : Nat) :
    Except QualityError Unit := do
  require (width ≠ 0 ∧ height ≠ 0 ∧ width.toNat ≤ ABSOLUTE_MAX_IMAGE_DIMENSION ∧
    height.toNat ≤ ABSOLUTE_MAX_IMAGE_DIMENSION) (.invalidImageDimensions width height)
  let pixels := width.toNat * height.toNat
  require (pixels ≤ U64_MAX) .dimensionOverflow
  require (pixels ≤ ABSOLUTE_MAX_IMAGE_PIXELS)
    (.absoluteImageLimitExceeded pixels ABSOLUTE_MAX_IMAGE_PIXELS)
  require (pixels * channels ≤ U64_MAX) .dimensionOverflow
  require (actualBytes = pixels * channels) (.imageLengthMismatch (pixels * channels) actualBytes)

/-- A grayscale image of one byte for each pixel. -/
def gray8 (width height : UInt32) (pixels : List UInt8) :
    Except QualityError QualityImageView := do
  validateImageLayout width height pixels.length 1
  return ⟨width, height, .gray8, pixels⟩

/-- A packed YUYV 4:2:2 image. -/
def yuyv (width height : UInt32) (pixels : List UInt8) :
    Except QualityError QualityImageView := do
  require (width.toNat % 2 = 0) (.invalidYuyvDimensions width)
  validateImageLayout width height pixels.length 2
  return ⟨width, height, .yuyv, pixels⟩

end QualityImageView

/-- Normalized face geometry and bounded model-derived confidence measurements. -/
structure FaceGeometry where
  centerX : Float32
  centerY : Float32
  width : Float32
  height : Float32
  yawDegrees : Float32
  pitchDegrees : Float32
  rollDegrees : Float32
  landmarkConfidence : Float32
  visibleFraction : Float32

/-- A finite angle of at most a size, in either direction. -/
def AngleWithin (limit value : Float32) : Prop :=
  value.isFinite = true ∧ -limit ≤ value ∧ value ≤ limit

instance (limit value : Float32) : Decidable (AngleWithin limit value) :=
  inferInstanceAs (Decidable (_ ∧ _ ∧ _))

/-- The place, the pose and the confidence of a face are in bounds. -/
def FaceGeometry.validate (geometry : FaceGeometry) : Except QualityError Unit := do
  require ((UnitScore geometry.centerX ∧ UnitScore geometry.centerY) ∧
    (UnitScore geometry.width ∧ UnitScore geometry.height) ∧
    ¬ (geometry.width == 0.0) = true ∧ ¬ (geometry.height == 0.0) = true ∧
    (UnitScore geometry.landmarkConfidence ∧ UnitScore geometry.visibleFraction) ∧
    AngleWithin 90.0 geometry.yawDegrees ∧ AngleWithin 90.0 geometry.pitchDegrees ∧
    AngleWithin 180.0 geometry.rollDegrees) .invalidGeometry
  let halfWidth := geometry.width / 2.0
  let halfHeight := geometry.height / 2.0
  require (¬ geometry.centerX < halfWidth ∧ ¬ 1.0 < geometry.centerX + halfWidth ∧
    ¬ geometry.centerY < halfHeight ∧ ¬ 1.0 < geometry.centerY + halfHeight) .faceBoxOutsideImage

/-- A rectangle of pixels. -/
structure PixelRegion where
  xStart : Nat
  xEnd : Nat
  yStart : Nat
  yEnd : Nat
deriving DecidableEq, Repr

namespace PixelRegion

/-- The width of a region. -/
def width (region : PixelRegion) : Nat := region.xEnd - region.xStart

/-- The height of a region. -/
def height (region : PixelRegion) : Nat := region.yEnd - region.yStart

/-- A region that is not empty and stays in the image. -/
structure Inside (region : PixelRegion) (image : QualityImageView) : Prop where
  columns : region.xStart < region.xEnd
  right : region.xEnd ≤ image.width.toNat
  rows : region.yStart < region.yEnd
  bottom : region.yEnd ≤ image.height.toNat

end PixelRegion

/-- What an assessment makes of the geometry and the pixels of a face: the answer to its
first poll for cancellation, the pixels under the face, and the aggregate over them. -/
structure FaceMeasurement where
  poll : Except QualityError Unit
  fromGeometry : UInt32 → UInt32 → FaceGeometry → Except QualityError PixelRegion
  scan : QualityImageView → PixelRegion → FaceGeometry → QualityConfig →
    Except QualityError Float32

/-- Assess one face observation. -/
def assessCancellable (measurement : FaceMeasurement) (image : QualityImageView)
    (geometry : FaceGeometry) (config : QualityConfig) : Except QualityError Float32 := do
  measurement.poll
  config.validate
  geometry.validate
  let imagePixels := image.width.toNat * image.height.toNat
  require (imagePixels ≤ U64_MAX) .dimensionOverflow
  require (imagePixels ≤ config.maxImagePixels)
    (.configuredImageLimitExceeded imagePixels config.maxImagePixels)
  let region ← measurement.fromGeometry image.width image.height geometry
  require (config.minimumFaceWidthPixels ≤ region.width ∧
    config.minimumFaceHeightPixels ≤ region.height)
    (.faceRegionTooSmall region.width region.height)
  measurement.scan image region geometry config

/-- A measurement of a face that is large enough, and on which nothing goes wrong. -/
structure FaceMeasurement.Works (measurement : FaceMeasurement) (image : QualityImageView)
    (geometry : FaceGeometry) (config : QualityConfig) : Prop where
  polled : measurement.poll = .ok ()
  placed : geometry.validate = .ok ()
  located : ∃ region, measurement.fromGeometry image.width image.height geometry = .ok region ∧
    region.Inside image ∧ config.minimumFaceWidthPixels ≤ region.width ∧
    config.minimumFaceHeightPixels ≤ region.height
  scanned : ∀ region, ∃ score, measurement.scan image region geometry config = .ok score

/-- An image whose pixels fit the configuration, with room for the smallest face. -/
structure Assessable (image : QualityImageView) (config : QualityConfig) : Prop where
  pixels : image.width.toNat * image.height.toNat ≤ config.maxImagePixels
  faceWidth : config.minimumFaceWidthPixels ≤ image.width.toNat
  faceHeight : config.minimumFaceHeightPixels ≤ image.height.toNat

variable {image : QualityImageView} {config : QualityConfig}

/-- A valid configuration stays within the absolute bound and asks for some face. -/
theorem maxImagePixels_le (valid : config.validate = .ok ()) :
    config.maxImagePixels ≤ ABSOLUTE_MAX_IMAGE_PIXELS ∧ 0 < config.minimumFaceWidthPixels ∧
      0 < config.minimumFaceHeightPixels := by
  rw [QualityConfig.validate, require_eq_ok_iff] at valid
  obtain ⟨⟨⟨-, pixels⟩, ⟨width, -⟩, ⟨height, -⟩, -⟩, -⟩ := valid
  exact ⟨pixels, by omega, by omega⟩

/-- On an assessable image every working measurement gives a score. -/
theorem assessCancellable_ok (valid : config.validate = .ok ())
    (assessable : Assessable image config) {measurement : FaceMeasurement}
    {geometry : FaceGeometry} (works : measurement.Works image geometry config) :
    ∃ score, assessCancellable measurement image geometry config = .ok score := by
  obtain ⟨region, located, -, wide, high⟩ := works.located
  obtain ⟨score, scanned⟩ := works.scanned region
  have ceiling := (maxImagePixels_le valid).1
  have representable : image.width.toNat * image.height.toNat ≤ U64_MAX :=
    (assessable.pixels.trans ceiling).trans (by decide)
  refine ⟨score, ?_⟩
  simp only [assessCancellable, check_bind_eq_ok_iff, require_eq_ok_iff]
  refine ⟨works.polled, valid, works.placed, representable, assessable.pixels, ?_⟩
  refine bind_eq_ok_iff.mpr ⟨region, located, ?_⟩
  rw [check_bind_eq_ok_iff, require_eq_ok_iff]
  exact ⟨⟨wide, high⟩, scanned⟩

/-- An image with a working measurement that gives a score is assessable. -/
theorem assessable_of_ok {measurement : FaceMeasurement} {geometry : FaceGeometry}
    (works : measurement.Works image geometry config) {score : Float32}
    (assessed : assessCancellable measurement image geometry config = .ok score) :
    Assessable image config := by
  obtain ⟨region, located, inside, wide, high⟩ := works.located
  simp only [assessCancellable, check_bind_eq_ok_iff, require_eq_ok_iff] at assessed
  obtain ⟨-, -, -, -, pixels, -⟩ := assessed
  have right := inside.right
  have bottom := inside.bottom
  unfold PixelRegion.width at wide
  unfold PixelRegion.height at high
  exact ⟨pixels, by omega, by omega⟩

/-- A measurement that takes the whole image for the face. -/
def wholeImage : FaceMeasurement where
  poll := .ok ()
  fromGeometry width height _ := .ok ⟨0, width.toNat, 0, height.toNat⟩
  scan _ _ _ _ := .ok 1.0

/-- The whole of an assessable image is measured. -/
theorem wholeImage_works (valid : config.validate = .ok ()) (assessable : Assessable image config)
    {geometry : FaceGeometry} (inside : geometry.validate = .ok ()) :
    wholeImage.Works image geometry config := by
  obtain ⟨-, width, height⟩ := maxImagePixels_le valid
  have wide := assessable.faceWidth
  have high := assessable.faceHeight
  refine ⟨rfl, inside, ⟨_, rfl, ⟨?_, Nat.le_refl _, ?_, Nat.le_refl _⟩, ?_, ?_⟩,
    fun _ => ⟨_, rfl⟩⟩
  · exact width.trans_le wide
  · exact height.trans_le high
  · exact wide
  · exact high

end FaceAuth
