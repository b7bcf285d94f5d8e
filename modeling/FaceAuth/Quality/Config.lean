import FaceAuth.Core.Policy

/-!
# Quality configuration

The calibrated bounds of a quality assessment, and the check that they agree
with each other before a frame is measured against them.
-/

namespace FaceAuth

open Foundation

/-- Quality assessment failure. -/
inductive QualityError where
  | unsupportedImageFormat
  | invalidYuyvDimensions (width : UInt32)
  | invalidImageDimensions (width height : UInt32)
  | dimensionOverflow
  | absoluteImageLimitExceeded (actual maximum : Nat)
  | configuredImageLimitExceeded (actual maximum : Nat)
  | imageLengthMismatch (expected actual : Nat)
  | invalidConfig
  | invalidGeometry
  | faceBoxOutsideImage
  | faceRegionTooSmall (width height : Nat)
  | cancelled
  | invalidComputation
deriving DecidableEq, Repr

/-- Upper bound on the pixels of an image. -/
def ABSOLUTE_MAX_IMAGE_PIXELS : Nat := 16_777_216

/-- Upper bound on the width and height of an image. -/
def ABSOLUTE_MAX_IMAGE_DIMENSION : Nat := 8_192

/-- Four-point calibration for a measurement with an acceptable middle band. -/
structure BandCalibration where
  rejectBelow : Float32
  idealMin : Float32
  idealMax : Float32
  rejectAbove : Float32

/-- Calibration for a measurement where larger is better. -/
structure LowerBoundCalibration where
  rejectAtOrBelow : Float32
  idealAtOrAbove : Float32

/-- Calibration for an absolute deviation where smaller is better. -/
structure DeviationCalibration where
  idealAtOrBelow : Float32
  rejectAtOrAbove : Float32

/-- Relative weights for the conservative aggregate. -/
structure QualityWeights where
  exposure : Float32
  dynamicRange : Float32
  sharpness : Float32
  faceScale : Float32
  centering : Float32
  pose : Float32
  occlusion : Float32
  landmarkConfidence : Float32

/-- The bounds of a band are finite and in order. -/
def BandCalibration.Valid (band : BandCalibration) : Prop :=
  (band.rejectBelow.isFinite = true ∧ band.idealMin.isFinite = true ∧
    band.idealMax.isFinite = true ∧ band.rejectAbove.isFinite = true) ∧
  band.rejectBelow < band.idealMin ∧ band.idealMin ≤ band.idealMax ∧
    band.idealMax < band.rejectAbove

instance : DecidablePred BandCalibration.Valid := fun _ =>
  inferInstanceAs (Decidable ((_ ∧ _ ∧ _ ∧ _) ∧ _ ∧ _ ∧ _))

/-- The bounds are finite and in order. -/
def LowerBoundCalibration.Valid (bound : LowerBoundCalibration) : Prop :=
  bound.rejectAtOrBelow.isFinite = true ∧ bound.idealAtOrAbove.isFinite = true ∧
    bound.rejectAtOrBelow < bound.idealAtOrAbove

instance : DecidablePred LowerBoundCalibration.Valid := fun _ =>
  inferInstanceAs (Decidable (_ ∧ _ ∧ _))

/-- The bounds are finite and in order. -/
def DeviationCalibration.Valid (deviation : DeviationCalibration) : Prop :=
  deviation.idealAtOrBelow.isFinite = true ∧ deviation.rejectAtOrAbove.isFinite = true ∧
    0.0 ≤ deviation.idealAtOrBelow ∧ deviation.idealAtOrBelow < deviation.rejectAtOrAbove

instance : DecidablePred DeviationCalibration.Valid := fun _ =>
  inferInstanceAs (Decidable (_ ∧ _ ∧ _ ∧ _))

/-- The weights in the order of their components. -/
def QualityWeights.values (weights : QualityWeights) : List Float32 :=
  [weights.exposure, weights.dynamicRange, weights.sharpness, weights.faceScale,
    weights.centering, weights.pose, weights.occlusion, weights.landmarkConfidence]

/-- Every weight is finite, positive and bounded. -/
def QualityWeights.Valid (weights : QualityWeights) : Prop :=
  ∀ weight ∈ weights.values, weight.isFinite = true ∧ 0.01 ≤ weight ∧ weight ≤ 100.0

instance : DecidablePred QualityWeights.Valid := fun weights =>
  inferInstanceAs (Decidable (∀ weight ∈ weights.values, _ ∧ _ ∧ _))

/-- Calibrated quality policy and resource limits. -/
structure QualityConfig where
  maxImagePixels : Nat
  minimumFaceWidthPixels : Nat
  minimumFaceHeightPixels : Nat
  lowPercentile : Nat
  highPercentile : Nat
  exposure : BandCalibration
  darkClipAtOrBelow : Nat
  brightClipAtOrAbove : Nat
  clippedFraction : DeviationCalibration
  dynamicRange : LowerBoundCalibration
  sharpness : LowerBoundCalibration
  faceFraction : BandCalibration
  horizontalCentering : DeviationCalibration
  verticalCentering : DeviationCalibration
  yaw : DeviationCalibration
  pitch : DeviationCalibration
  roll : DeviationCalibration
  visibility : LowerBoundCalibration
  landmarkConfidence : LowerBoundCalibration
  weights : QualityWeights
  weakestComponentHeadroom : Float32

namespace QualityConfig

/-- The image and face bounds fit each other and the absolute ceilings. -/
def ResourcesValid (config : QualityConfig) : Prop :=
  (9 ≤ config.maxImagePixels ∧ config.maxImagePixels ≤ ABSOLUTE_MAX_IMAGE_PIXELS) ∧
  (3 ≤ config.minimumFaceWidthPixels ∧
    config.minimumFaceWidthPixels ≤ ABSOLUTE_MAX_IMAGE_DIMENSION) ∧
  (3 ≤ config.minimumFaceHeightPixels ∧
    config.minimumFaceHeightPixels ≤ ABSOLUTE_MAX_IMAGE_DIMENSION) ∧
  config.minimumFaceWidthPixels * config.minimumFaceHeightPixels ≤ config.maxImagePixels

instance : DecidablePred ResourcesValid := fun _ =>
  inferInstanceAs (Decidable ((_ ∧ _) ∧ (_ ∧ _) ∧ (_ ∧ _) ∧ _))

/-- The calibrations of the luma measurements stay in the range of a byte. -/
def LumaValid (config : QualityConfig) : Prop :=
  (1 ≤ config.lowPercentile ∧ config.lowPercentile ≤ 49) ∧
  (51 ≤ config.highPercentile ∧ config.highPercentile ≤ 99) ∧
  config.lowPercentile < config.highPercentile ∧
  (config.exposure.Valid ∧ ¬ config.exposure.rejectBelow < 0.0 ∧
    ¬ 255.0 < config.exposure.rejectAbove) ∧
  config.darkClipAtOrBelow < config.brightClipAtOrAbove ∧
  (config.clippedFraction.Valid ∧ ¬ 1.0 < config.clippedFraction.rejectAtOrAbove) ∧
  (config.dynamicRange.Valid ∧ ¬ config.dynamicRange.rejectAtOrBelow < 0.0 ∧
    ¬ 255.0 < config.dynamicRange.idealAtOrAbove) ∧
  (config.sharpness.Valid ∧ ¬ config.sharpness.rejectAtOrBelow < 0.0 ∧
    ¬ 16.0 < config.sharpness.idealAtOrAbove)

instance : DecidablePred LumaValid := fun _ =>
  inferInstanceAs (Decidable ((_ ∧ _) ∧ (_ ∧ _) ∧ _ ∧ (_ ∧ _ ∧ _) ∧ _ ∧ (_ ∧ _) ∧
    (_ ∧ _ ∧ _) ∧ (_ ∧ _ ∧ _)))

/-- The calibrations of the face geometry stay inside the frame and the pose range. -/
def GeometryValid (config : QualityConfig) : Prop :=
  (config.faceFraction.Valid ∧ ¬ config.faceFraction.rejectBelow < 0.0 ∧
    ¬ 1.0 < config.faceFraction.rejectAbove) ∧
  (config.horizontalCentering.Valid ∧ ¬ 0.5 < config.horizontalCentering.rejectAtOrAbove) ∧
  (config.verticalCentering.Valid ∧ ¬ 0.5 < config.verticalCentering.rejectAtOrAbove) ∧
  (config.yaw.Valid ∧ ¬ 90.0 < config.yaw.rejectAtOrAbove) ∧
  (config.pitch.Valid ∧ ¬ 90.0 < config.pitch.rejectAtOrAbove) ∧
  (config.roll.Valid ∧ ¬ 180.0 < config.roll.rejectAtOrAbove)

instance : DecidablePred GeometryValid := fun _ =>
  inferInstanceAs (Decidable ((_ ∧ _ ∧ _) ∧ (_ ∧ _) ∧ (_ ∧ _) ∧ (_ ∧ _) ∧ (_ ∧ _) ∧ (_ ∧ _)))

/-- The calibrations of the derived scores and their weights. -/
def ScoresValid (config : QualityConfig) : Prop :=
  (config.visibility.Valid ∧ ¬ config.visibility.rejectAtOrBelow < 0.0 ∧
    ¬ 1.0 < config.visibility.idealAtOrAbove) ∧
  (config.landmarkConfidence.Valid ∧ ¬ config.landmarkConfidence.rejectAtOrBelow < 0.0 ∧
    ¬ 1.0 < config.landmarkConfidence.idealAtOrAbove) ∧
  config.weights.Valid ∧
  config.weakestComponentHeadroom.isFinite = true ∧ 0.0 ≤ config.weakestComponentHeadroom ∧
    config.weakestComponentHeadroom ≤ 0.5

instance : DecidablePred ScoresValid := fun _ =>
  inferInstanceAs (Decidable ((_ ∧ _ ∧ _) ∧ (_ ∧ _ ∧ _) ∧ _ ∧ _ ∧ _ ∧ _))

/-- Validate all calibrations and resource bounds. -/
def validate (config : QualityConfig) : Except QualityError Unit :=
  require (config.ResourcesValid ∧ config.LumaValid ∧ config.GeometryValid ∧ config.ScoresValid)
    .invalidConfig

/-- An explicit engineering baseline for diagnostics and calibration. -/
def engineeringBaseline : QualityConfig where
  maxImagePixels := 8_294_400
  minimumFaceWidthPixels := 32
  minimumFaceHeightPixels := 32
  lowPercentile := 5
  highPercentile := 95
  exposure := ⟨24.0, 72.0, 184.0, 240.0⟩
  darkClipAtOrBelow := 8
  brightClipAtOrAbove := 247
  clippedFraction := ⟨0.02, 0.25⟩
  dynamicRange := ⟨12.0, 96.0⟩
  sharpness := ⟨0.002, 0.08⟩
  faceFraction := ⟨0.02, 0.12, 0.45, 0.75⟩
  horizontalCentering := ⟨0.05, 0.35⟩
  verticalCentering := ⟨0.08, 0.40⟩
  yaw := ⟨8.0, 35.0⟩
  pitch := ⟨8.0, 30.0⟩
  roll := ⟨8.0, 30.0⟩
  visibility := ⟨0.45, 0.92⟩
  landmarkConfidence := ⟨0.40, 0.90⟩
  weights := ⟨1.0, 1.0, 1.5, 1.0, 0.75, 1.25, 1.5, 1.0⟩
  weakestComponentHeadroom := 0.12

/-- The baseline passes its own check. -/
theorem engineeringBaseline_valid : engineeringBaseline.validate = .ok () := by decide +kernel

end QualityConfig

end FaceAuth
