import FaceAuth.Foundation.Machine
import FaceAuth.Quality.Image
import FaceAuth.Quality.Score

/-!
# Quality assessment

The passes over the pixels of a face, in the arithmetic of the machine, and the
report that an assessment makes of what they collect. Each poll for cancellation
has its own answer.
-/

namespace FaceAuth

open Foundation

namespace QualityImageView

/-- A color image of red, green and blue bytes. -/
def rgb8 (width height : UInt32) (pixels : List UInt8) : Except QualityError QualityImageView := do
  validateImageLayout width height pixels.length 3
  return ⟨width, height, .rgb8, pixels⟩

/-- The constructor of an encoding. -/
def construct : QualityEncoding → UInt32 → UInt32 → List UInt8 →
    Except QualityError QualityImageView
  | .gray8 => gray8
  | .rgb8 => rgb8
  | .yuyv => yuyv

/-- The bytes of each pixel. -/
def channels : QualityEncoding → Nat
  | .gray8 => 1
  | .rgb8 => 3
  | .yuyv => 2

end QualityImageView

namespace Quality

open Machine

/-- The largest number of 32 bits. -/
def U32_LIMIT : Nat := 4_294_967_295

/-- The largest signed number of 32 bits. -/
def I32_LIMIT : Nat := 2_147_483_647

/-- The levels of brightness of a byte. -/
def LUMA_LEVELS : Nat := 256

/-- The pixels that are visited between two polls for cancellation. -/
def CANCEL_CHECK_PIXELS : Nat := 4_096

/-! ## Pixels -/

/-- The byte at an index. -/
def byteAt (image : QualityImageView) (index : Nat) : Machine QualityError UInt8 := do
  let index ← unsigned U64_MAX index
  item image.pixels index

/-- The brightness of a pixel: the byte itself, the first of two, or a weighted sum of the
colors. -/
def luma (image : QualityImageView) (x y : Nat) : Machine QualityError UInt8 := do
  let row ← unsigned U64_MAX (y * image.width.toNat)
  let pixel ← unsigned U64_MAX (row + x)
  match image.encoding with
  | .gray8 => byteAt image pixel
  | .rgb8 => do
      let red ← byteAt image (pixel * 3)
      let green ← byteAt image (pixel * 3 + 1)
      let blue ← byteAt image (pixel * 3 + 2)
      let luma ← unsigned U32_LIMIT
        (77 * red.toNat + 150 * green.toNat + 29 * blue.toNat + 128)
      let luma ← narrowOr 255 255 ((luma / 256 : Nat) : Int)
      return UInt8.ofNat luma
  | .yuyv => byteAt image (pixel * 2)

/-- The Laplacian of a pixel and its four neighbours. -/
def laplacian (image : QualityImageView) (x y : Nat) : Machine QualityError Int := do
  let center ← luma image x y
  let value ← signed I32_LIMIT (4 * center.toNat)
  let before ← subtract x 1
  let left ← luma image before y
  let value ← signed I32_LIMIT (value - left.toNat)
  let after ← unsigned U64_MAX (x + 1)
  let right ← luma image after y
  let value ← signed I32_LIMIT (value - right.toNat)
  let above ← subtract y 1
  let upper ← luma image x above
  let value ← signed I32_LIMIT (value - upper.toNat)
  let below ← unsigned U64_MAX (y + 1)
  let lower ← luma image x below
  signed I32_LIMIT (value - lower.toNat)

/-! ## Passes over the pixels -/

/-- Stop when the next poll finds the assessment cancelled. -/
def checkCancelled (cancelled : Nat → Bool) (polls : Nat) : Machine QualityError Nat := do
  lift (require (cancelled polls = false) .cancelled)
  return polls + 1

/-- What a pass has collected, the pixels until its next poll, and the polls so far. -/
structure Pass (Collected : Type) where
  collected : Collected
  untilCancelCheck : Nat
  polls : Nat

section

variable {Collected : Type} (cancelled : Nat → Bool)
  (visit : Collected → Nat → Nat → Machine QualityError Collected)

/-- Poll when no pixel is left until the next poll. -/
def Pass.poll (pass : Pass Collected) : Machine QualityError (Pass Collected) :=
  if pass.untilCancelCheck = 0 then do
    let polls ← checkCancelled cancelled pass.polls
    return { pass with untilCancelCheck := CANCEL_CHECK_PIXELS, polls }
  else return pass

/-- Visit one pixel of a row. -/
def visitPixel (y : Nat) (pass : Pass Collected) (x : Nat) :
    Machine QualityError (Pass Collected) := do
  let pass ← pass.poll cancelled
  let untilCancelCheck ← subtract pass.untilCancelCheck 1
  let collected ← visit pass.collected x y
  return { pass with collected, untilCancelCheck }

/-- Visit the pixels row by row, and poll after so many of them. -/
def scanPixels (rows : List Nat) (columns : Machine QualityError (List Nat)) (start : Collected)
    (polls : Nat) : Machine QualityError (Collected × Nat) := do
  let pass ← rows.foldlM (fun pass y => do
    let columns ← columns
    columns.foldlM (visitPixel cancelled visit y) pass) ⟨start, 0, polls⟩
  return (pass.collected, pass.polls)

end

/-- How often each level occurs, with the sum of the levels and the number of pixels. -/
structure LumaStatistics where
  histogram : List Nat
  lumaSum : Nat
  pixelCount : Nat

namespace LumaStatistics

/-- The statistics before the first pixel. -/
def empty : LumaStatistics := ⟨List.replicate LUMA_LEVELS 0, 0, 0⟩

/-- Add the brightness of a pixel to the statistics. -/
def visit (image : QualityImageView) (statistics : LumaStatistics) (x y : Nat) :
    Machine QualityError LumaStatistics := do
  let luma ← luma image x y
  let frequency ← item statistics.histogram luma.toNat
  let frequency ← unsigned U32_LIMIT (frequency + 1)
  let lumaSum ← unsigned U32_LIMIT (statistics.lumaSum + luma.toNat)
  let pixelCount ← unsigned U32_LIMIT (statistics.pixelCount + 1)
  return ⟨statistics.histogram.set luma.toNat frequency, lumaSum, pixelCount⟩

end LumaStatistics

/-- The numbers from a first one to before a last one. -/
def range (first last : Nat) : List Nat := List.range' first (last - first)

/-- The statistics of a region. -/
def scanLuma (cancelled : Nat → Bool) (image : QualityImageView) (region : PixelRegion)
    (polls : Nat) : Machine QualityError (LumaStatistics × Nat) :=
  scanPixels cancelled (LumaStatistics.visit image) (range region.yStart region.yEnd)
    (.ok (range region.xStart region.xEnd)) .empty polls

/-- The numbers between two bounds that have both neighbours between them. -/
def interior (first last : Nat) : Machine QualityError (List Nat) := do
  let first ← unsigned U64_MAX (first + 1)
  let last ← subtract last 1
  return range first last

/-- The quotient by a count. -/
def quotient (value : Float) (count : Nat) : Machine QualityError Float :=
  if count = 0 then stop .dividedByZero else .ok (value / Float.ofNat count)

/-- The moments of the Laplacian values so far. -/
structure Moments where
  count : Nat
  mean : Float
  sumSquaredDeviation : Float

namespace Moments

/-- The moments before the first pixel. -/
def empty : Moments := ⟨0, 0.0, 0.0⟩

/-- Add the Laplacian of a pixel to the moments, after Welford. -/
def visit (image : QualityImageView) (moments : Moments) (x y : Nat) :
    Machine QualityError Moments := do
  let laplacian ← laplacian image x y
  let count ← unsigned U32_LIMIT (moments.count + 1)
  let delta := Float.ofInt laplacian - moments.mean
  let step ← quotient delta count
  let mean := moments.mean + step
  let deltaAfterMean := Float.ofInt laplacian - mean
  return ⟨count, mean, moments.sumSquaredDeviation + delta * deltaAfterMean⟩

end Moments

/-- The variance of the Laplacian over the inner pixels of a region. -/
def scanLaplacian (cancelled : Nat → Bool) (image : QualityImageView) (region : PixelRegion)
    (polls : Nat) : Machine QualityError (Float × Nat) := do
  let rows ← interior region.yStart region.yEnd
  let (moments, polls) ← scanPixels cancelled (Moments.visit image) rows
    (interior region.xStart region.xEnd) .empty polls
  lift (require (moments.count ≠ 0) (.faceRegionTooSmall region.width region.height))
  let variance ← quotient moments.sumSquaredDeviation moments.count
  lift (require (variance.isFinite = true ∧ 0.0 ≤ variance) .invalidComputation)
  return (variance, polls)

/-! ## Histograms -/

/-- The first level whose cumulative frequency exceeds a rank. -/
def levelAbove (targetRank value cumulative : Nat) : List Nat → Machine QualityError Nat
  | [] => .ok 255
  | frequency :: rest => do
      let cumulative ← unsigned U32_LIMIT (cumulative + frequency)
      if targetRank < cumulative then narrowOr 255 255 value
      else levelAbove targetRank (value + 1) cumulative rest

/-- The level that so many hundredths of the pixels do not exceed. -/
def histogramPercentile (histogram : List Nat) (count percentile : Nat) :
    Machine QualityError Nat := do
  let product ← unsigned U32_LIMIT ((count - 1) * percentile)
  levelAbove (product / 100) 0 0 histogram

/-- The items between two indices, both of them included. -/
def sliceInclusive (items : List Nat) (first last : Nat) : Machine QualityError (List Nat) :=
  if first ≤ last + 1 ∧ last < items.length then .ok ((items.take (last + 1)).drop first)
  else stop .outOfBounds

/-- The pixels of a region with a level between two others. -/
def histogramCountInclusive (histogram : List Nat) (first last : Nat) :
    Machine QualityError Nat := do
  let slice ← sliceInclusive histogram first last
  slice.foldlM (fun total frequency => unsigned U32_LIMIT (total + frequency)) 0

/-- The pixels in the dark and the bright clipping levels. -/
def clippedPixels (histogram : List Nat) (config : QualityConfig) : Machine QualityError Nat := do
  let dark ← histogramCountInclusive histogram 0 config.darkClipAtOrBelow
  let bright ← histogramCountInclusive histogram config.brightClipAtOrAbove 255
  unsigned U32_LIMIT (dark + bright)

/-! ## Reports -/

/-- What is measured of a face, before any weight. -/
structure QualityMeasurements where
  meanLuma : Float32
  clippedFraction : Float32
  percentileDynamicRange : Float32
  normalizedLaplacianVariance : Float32
  faceFraction : Float32

/-- An assessment with what it was made of. -/
structure QualityReport where
  aggregate : Float32
  components : QualityComponents Float32
  measurements : QualityMeasurements

/-- The measurements in the order of their check. -/
def QualityMeasurements.values (measurements : QualityMeasurements) : List Float32 :=
  [measurements.meanLuma, measurements.clippedFraction, measurements.percentileDynamicRange,
    measurements.normalizedLaplacianVariance, measurements.faceFraction]

/-- What is measured of a face at a place. -/
def QualityMeasurements.measured (measurements : QualityMeasurements) (geometry : FaceGeometry) :
    Measured Float32 where
  meanLuma := measurements.meanLuma
  clippedFraction := measurements.clippedFraction
  dynamicRange := measurements.percentileDynamicRange
  normalizedLaplacianVariance := measurements.normalizedLaplacianVariance
  faceFraction := measurements.faceFraction
  horizontalOffset := (geometry.centerX - 0.5).abs
  verticalOffset := (geometry.centerY - 0.5).abs
  yaw := geometry.yawDegrees.abs
  pitch := geometry.pitchDegrees.abs
  roll := geometry.rollDegrees.abs
  visibleFraction := geometry.visibleFraction
  landmarkConfidence := geometry.landmarkConfidence

/-- The scores of measurements, and their aggregate, when all of them are finite. -/
def QualityMeasurements.report (measurements : QualityMeasurements) (geometry : FaceGeometry)
    (config : QualityConfig) : Except QualityError QualityReport := do
  let calibrations := Calibrations.of id config
  let components := calibrations.components floating (measurements.measured geometry)
  let aggregate ← conservativeAggregate floating components calibrations.weights
    calibrations.weakestComponentHeadroom
  require (∀ value ∈ components.values ++ aggregate :: measurements.values,
    value.isFinite = true) .invalidComputation
  return ⟨aggregate, components, measurements⟩

/-- Scan a region of an image, and report on the face there. -/
def measureRegion (cancelled : Nat → Bool) (image : QualityImageView) (region : PixelRegion)
    (geometry : FaceGeometry) (config : QualityConfig) (polls : Nat) :
    Machine QualityError QualityReport := do
  let (statistics, polls) ← scanLuma cancelled image region polls
  let (laplacianVariance, polls) ← scanLaplacian cancelled image region polls
  let _ ← checkCancelled cancelled polls
  let lowLuma ← histogramPercentile statistics.histogram statistics.pixelCount config.lowPercentile
  let highLuma ←
    histogramPercentile statistics.histogram statistics.pixelCount config.highPercentile
  let meanLuma ← quotient (Float.ofNat statistics.lumaSum) statistics.pixelCount
  let clipped ← clippedPixels statistics.histogram config
  let clippedFraction ← quotient (Float.ofNat clipped) statistics.pixelCount
  let normalizedLaplacianVariance := laplacianVariance / 65025.0
  let meanLuma ← lift (boundedF64ToF32 meanLuma)
  let clippedFraction ← lift (boundedF64ToF32 clippedFraction)
  let normalizedLaplacianVariance ← lift (boundedF64ToF32 normalizedLaplacianVariance)
  let measurements : QualityMeasurements :=
    ⟨meanLuma, clippedFraction, Float32.ofNat (highLuma - lowLuma), normalizedLaplacianVariance,
      geometry.width * geometry.height⟩
  lift (measurements.report geometry config)

/-! ## Assessments -/

/-- A coordinate as a number of pixels, when it lies in the image. -/
def boundedCoordinateToUsize (value : Float) (dimension : UInt32) : Except QualityError Nat := do
  require (value.isFinite = true ∧ ¬ value < 0.0 ∧ ¬ dimension.toFloat < value) .invalidGeometry
  return value.toUInt64.toNat

/-- The pixels that a face covers, even in part. -/
def fromGeometry (imageWidth imageHeight : UInt32) (geometry : FaceGeometry) :
    Except QualityError PixelRegion := do
  let left := (geometry.centerX - geometry.width / 2.0).toFloat * imageWidth.toFloat
  let right := (geometry.centerX + geometry.width / 2.0).toFloat * imageWidth.toFloat
  let top := (geometry.centerY - geometry.height / 2.0).toFloat * imageHeight.toFloat
  let bottom := (geometry.centerY + geometry.height / 2.0).toFloat * imageHeight.toFloat
  let xStart ← boundedCoordinateToUsize left.floor imageWidth
  let xEnd ← boundedCoordinateToUsize right.ceil imageWidth
  let yStart ← boundedCoordinateToUsize top.floor imageHeight
  let yEnd ← boundedCoordinateToUsize bottom.ceil imageHeight
  require (xStart < xEnd ∧ yStart < yEnd) .invalidGeometry
  return ⟨xStart, xEnd, yStart, yEnd⟩

/-- Assess one face observation, with an answer to each poll for cancellation. -/
def assessCancellable (cancelled : Nat → Bool) (image : QualityImageView)
    (geometry : FaceGeometry) (config : QualityConfig) : Machine QualityError QualityReport := do
  let polls ← checkCancelled cancelled 0
  lift config.validate
  lift geometry.validate
  let imagePixels := image.width.toNat * image.height.toNat
  lift (require (imagePixels ≤ U64_MAX) .dimensionOverflow)
  lift (require (imagePixels ≤ config.maxImagePixels)
    (.configuredImageLimitExceeded imagePixels config.maxImagePixels))
  let region ← lift (fromGeometry image.width image.height geometry)
  lift (require (config.minimumFaceWidthPixels ≤ region.width ∧
    config.minimumFaceHeightPixels ≤ region.height)
    (.faceRegionTooSmall region.width region.height))
  measureRegion cancelled image region geometry config polls

end Quality

end FaceAuth
