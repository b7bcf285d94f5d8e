import FaceAuth.Foundation.Exact
import FaceAuth.Foundation.Harmonic
import FaceAuth.Quality.Config

/-!
# Quality scores

The calibrated scores of a face and their conservative aggregate. They are written
for any numbers: an assessment computes them in single and double precision, and
the rational numbers say what it computes up to rounding.
-/

namespace FaceAuth.Quality

open Foundation

/-- The operations on scores that are not those of every number. -/
structure Arithmetic (Number Wide : Type) where
  smaller : Number → Number → Number
  widen : Number → Wide
  narrow : Wide → Except QualityError Number
  isFinite : Wide → Bool

/-! ## Scores -/

section

variable {Number : Type}

/-- Values in a band score best. -/
structure Band (Number : Type) where
  rejectBelow : Number
  idealMin : Number
  idealMax : Number
  rejectAbove : Number

/-- Large values score best. -/
structure LowerBound (Number : Type) where
  rejectAtOrBelow : Number
  idealAtOrAbove : Number

/-- Small values score best. -/
structure Deviation (Number : Type) where
  idealAtOrBelow : Number
  rejectAtOrAbove : Number

variable [LT Number] [LE Number] [DecidableLT Number] [DecidableLE Number] [Sub Number]
  [Div Number] [OfScientific Number]

/-- A value restricted to the unit interval; a NaN stays a NaN. -/
def clampUnit (value : Number) : Number :=
  let value := if value < 0.0 then 0.0 else value
  if 1.0 < value then 1.0 else value

/-- The score rises up to the band and falls behind it. -/
def Band.score (band : Band Number) (value : Number) : Number :=
  if value ≤ band.rejectBelow ∨ band.rejectAbove ≤ value then 0.0
  else if value < band.idealMin then
    (value - band.rejectBelow) / (band.idealMin - band.rejectBelow)
  else if value ≤ band.idealMax then 1.0
  else (band.rejectAbove - value) / (band.rejectAbove - band.idealMax)

/-- The score rises up to the bound. -/
def LowerBound.score (bound : LowerBound Number) (value : Number) : Number :=
  clampUnit ((value - bound.rejectAtOrBelow) / (bound.idealAtOrAbove - bound.rejectAtOrBelow))

/-- The score falls from the tolerated deviation on. -/
def Deviation.score (deviation : Deviation Number) (absoluteDeviation : Number) : Number :=
  clampUnit ((deviation.rejectAtOrAbove - absoluteDeviation) /
    (deviation.rejectAtOrAbove - deviation.idealAtOrBelow))

end

/-- Calibrated component scores. -/
structure QualityComponents (Number : Type) where
  exposure : Number
  dynamicRange : Number
  sharpness : Number
  faceScale : Number
  centering : Number
  pose : Number
  occlusion : Number
  landmarkConfidence : Number

/-- The components in their order. -/
def QualityComponents.values {Number : Type} (components : QualityComponents Number) :
    List Number :=
  [components.exposure, components.dynamicRange, components.sharpness, components.faceScale,
    components.centering, components.pose, components.occlusion, components.landmarkConfidence]

/-- The calibrations that scores depend on. -/
structure Calibrations (Number : Type) where
  exposure : Band Number
  clippedFraction : Deviation Number
  dynamicRange : LowerBound Number
  sharpness : LowerBound Number
  faceFraction : Band Number
  horizontalCentering : Deviation Number
  verticalCentering : Deviation Number
  yaw : Deviation Number
  pitch : Deviation Number
  roll : Deviation Number
  visibility : LowerBound Number
  landmarkConfidence : LowerBound Number
  weights : QualityComponents Number
  weakestComponentHeadroom : Number

/-- What is measured of a face. -/
structure Measured (Number : Type) where
  meanLuma : Number
  clippedFraction : Number
  dynamicRange : Number
  normalizedLaplacianVariance : Number
  faceFraction : Number
  horizontalOffset : Number
  verticalOffset : Number
  yaw : Number
  pitch : Number
  roll : Number
  visibleFraction : Number
  landmarkConfidence : Number

section

variable {Number Wide : Type} [LT Number] [LE Number] [DecidableLT Number] [DecidableLE Number]
  [Add Number] [Sub Number] [Div Number] [BEq Number] [OfScientific Number] [Add Wide] [Div Wide]
  [OfScientific Wide]

/-- The component scores of what is measured of a face. -/
def Calibrations.components (calibrations : Calibrations Number)
    (arithmetic : Arithmetic Number Wide) (measured : Measured Number) :
    QualityComponents Number where
  exposure := arithmetic.smaller (calibrations.exposure.score measured.meanLuma)
    (calibrations.clippedFraction.score measured.clippedFraction)
  dynamicRange := calibrations.dynamicRange.score measured.dynamicRange
  sharpness := calibrations.sharpness.score measured.normalizedLaplacianVariance
  faceScale := calibrations.faceFraction.score measured.faceFraction
  centering := arithmetic.smaller
    (calibrations.horizontalCentering.score measured.horizontalOffset)
    (calibrations.verticalCentering.score measured.verticalOffset)
  pose := arithmetic.smaller
    (arithmetic.smaller (calibrations.yaw.score measured.yaw)
      (calibrations.pitch.score measured.pitch))
    (calibrations.roll.score measured.roll)
  occlusion := calibrations.visibility.score measured.visibleFraction
  landmarkConfidence := calibrations.landmarkConfidence.score measured.landmarkConfidence

/-- The weighted harmonic mean, not far above the lowest component. -/
def conservativeAggregate (arithmetic : Arithmetic Number Wide)
    (components weights : QualityComponents Number) (weakestComponentHeadroom : Number) :
    Except QualityError Number := do
  let weakest := components.values.foldl arithmetic.smaller 1.0
  if weakest == 0.0 then return 0.0
  let sums := (components.values.zip weights.values).foldl (fun sums pair =>
    (sums.1 + arithmetic.widen pair.2,
      sums.2 + arithmetic.widen pair.2 / arithmetic.widen pair.1)) (0.0, 0.0)
  let harmonic := sums.1 / sums.2
  require (arithmetic.isFinite harmonic = true) .invalidComputation
  let narrowed ← arithmetic.narrow harmonic
  return arithmetic.smaller narrowed
    (arithmetic.smaller (weakest + weakestComponentHeadroom) 1.0)

end

/-! ## Configured calibrations -/

section

variable {Number : Type} (read : Float32 → Number)

/-- The band of a calibration. -/
def Band.of (band : BandCalibration) : Band Number :=
  ⟨read band.rejectBelow, read band.idealMin, read band.idealMax, read band.rejectAbove⟩

/-- The lower bound of a calibration. -/
def LowerBound.of (bound : LowerBoundCalibration) : LowerBound Number :=
  ⟨read bound.rejectAtOrBelow, read bound.idealAtOrAbove⟩

/-- The bound on a deviation of a calibration. -/
def Deviation.of (deviation : DeviationCalibration) : Deviation Number :=
  ⟨read deviation.idealAtOrBelow, read deviation.rejectAtOrAbove⟩

/-- The weights of a configuration. -/
def QualityComponents.of (weights : QualityWeights) : QualityComponents Number :=
  ⟨read weights.exposure, read weights.dynamicRange, read weights.sharpness,
    read weights.faceScale, read weights.centering, read weights.pose, read weights.occlusion,
    read weights.landmarkConfidence⟩

/-- The calibrations of a configuration, with its numbers read in some way. -/
def Calibrations.of (config : QualityConfig) : Calibrations Number where
  exposure := .of read config.exposure
  clippedFraction := .of read config.clippedFraction
  dynamicRange := .of read config.dynamicRange
  sharpness := .of read config.sharpness
  faceFraction := .of read config.faceFraction
  horizontalCentering := .of read config.horizontalCentering
  verticalCentering := .of read config.verticalCentering
  yaw := .of read config.yaw
  pitch := .of read config.pitch
  roll := .of read config.roll
  visibility := .of read config.visibility
  landmarkConfidence := .of read config.landmarkConfidence
  weights := .of read config.weights
  weakestComponentHeadroom := read config.weakestComponentHeadroom

end

/-- The largest number of single precision. -/
def F32_MAX : Float := 340282346638528859811704183484516925440.0

/-- The nearest single, if it is finite. -/
def boundedF64ToF32 (value : Float) : Except QualityError Float32 := do
  require (value.isFinite = true ∧ ¬ value < -F32_MAX ∧ ¬ F32_MAX < value) .invalidComputation
  return value.toFloat32

/-- Scores in single precision, aggregated in double precision. -/
def floating : Arithmetic Float32 Float where
  smaller := floatMin
  widen := Float32.toFloat
  narrow := boundedF64ToF32
  isFinite := Float.isFinite

/-- Scores without any rounding. -/
def exact : Arithmetic ℚ ℚ where
  smaller := min
  widen := id
  narrow := .ok
  isFinite _ := true

/-! ## Exact scores -/

section

variable {value : ℚ}

/-- The literal is zero. -/
theorem zero_literal : (0.0 : ℚ) = 0 := by norm_num

/-- The literal is one. -/
theorem one_literal : (1.0 : ℚ) = 1 := by norm_num

/-- Clamping between zero and one. -/
theorem clampUnit_eq (value : ℚ) : clampUnit value = max 0 (min value 1) := by
  unfold clampUnit
  rw [zero_literal, one_literal]
  dsimp only
  by_cases negative : value < 0
  · rw [if_pos negative, if_neg (by norm_num), min_eq_left (by linarith), max_eq_left negative.le]
  · rw [if_neg negative]
    rw [not_lt] at negative
    by_cases large : 1 < value
    · rw [if_pos large, min_eq_right large.le, max_eq_right zero_le_one]
    · rw [not_lt] at large
      rw [if_neg (not_lt.mpr large), min_eq_left large, max_eq_right negative]

/-- What is clamped is between zero and one. -/
theorem clampUnit_mem (value : ℚ) : clampUnit value ∈ Set.Icc (0 : ℚ) 1 := by
  rw [clampUnit_eq]
  exact ⟨le_max_left _ _, max_le zero_le_one (min_le_right _ _)⟩

/-- Clamping keeps the order. -/
theorem clampUnit_mono : Monotone (clampUnit : ℚ → ℚ) := by
  intro lower upper below
  rw [clampUnit_eq, clampUnit_eq]
  exact max_le_max le_rfl (min_le_min below le_rfl)

/-- What is not positive becomes zero. -/
theorem clampUnit_of_nonpos (negative : value ≤ 0) : clampUnit value = 0 := by
  rw [clampUnit_eq, max_eq_left ((min_le_left _ _).trans negative)]

/-- What is not below one becomes one. -/
theorem clampUnit_of_one_le (large : 1 ≤ value) : clampUnit value = 1 := by
  rw [clampUnit_eq, min_eq_right large, max_eq_right zero_le_one]

/-- What is between them stays. -/
theorem clampUnit_of_mem (inside : value ∈ Set.Icc (0 : ℚ) 1) : clampUnit value = value := by
  rw [clampUnit_eq, min_eq_left inside.2, max_eq_right inside.1]

end

/-- The bounds of a band are in order, with room on both sides. -/
structure Band.Valid (band : Band ℚ) : Prop where
  rises : band.rejectBelow < band.idealMin
  ideal : band.idealMin ≤ band.idealMax
  falls : band.idealMax < band.rejectAbove

/-- The bounds are apart. -/
def LowerBound.Valid (bound : LowerBound ℚ) : Prop :=
  bound.rejectAtOrBelow < bound.idealAtOrAbove

/-- The bounds are apart. -/
def Deviation.Valid (deviation : Deviation ℚ) : Prop :=
  deviation.idealAtOrBelow < deviation.rejectAtOrAbove

section

variable {band : Band ℚ} {bound : LowerBound ℚ} {deviation : Deviation ℚ} {value : ℚ}

/-- The score is between zero and one. -/
theorem LowerBound.score_mem (value : ℚ) : bound.score value ∈ Set.Icc (0 : ℚ) 1 :=
  clampUnit_mem _

/-- Larger values score no worse. -/
theorem LowerBound.score_monotone (valid : bound.Valid) : Monotone bound.score := by
  intro lower upper below
  apply clampUnit_mono
  apply div_le_div_of_nonneg_right _ (sub_pos.mpr valid).le
  exact sub_le_sub_right below _

/-- The score is between zero and one. -/
theorem Deviation.score_mem (value : ℚ) : deviation.score value ∈ Set.Icc (0 : ℚ) 1 :=
  clampUnit_mem _

/-- Larger deviations score no better. -/
theorem Deviation.score_antitone (valid : deviation.Valid) : Antitone deviation.score := by
  intro lower upper below
  apply clampUnit_mono
  apply div_le_div_of_nonneg_right _ (sub_pos.mpr valid).le
  exact sub_le_sub_left below _

/-- Up to its ideal values, a band is a lower bound. -/
theorem Band.score_of_le (valid : band.Valid) (below : value ≤ band.idealMax) :
    band.score value = (LowerBound.mk band.rejectBelow band.idealMin).score value := by
  have width := sub_pos.mpr valid.rises
  have inside : ¬ band.rejectAbove ≤ value := not_le.mpr (below.trans_lt valid.falls)
  unfold Band.score LowerBound.score
  dsimp only
  by_cases rejected : value ≤ band.rejectBelow
  · rw [if_pos (.inl rejected), zero_literal, clampUnit_of_nonpos]
    exact div_nonpos_of_nonpos_of_nonneg (sub_nonpos.mpr rejected) width.le
  · rw [if_neg (not_or.mpr ⟨rejected, inside⟩)]
    rw [not_le] at rejected
    by_cases rising : value < band.idealMin
    · rw [if_pos rising, clampUnit_of_mem]
      refine ⟨div_nonneg (sub_nonneg.mpr rejected.le) width.le, ?_⟩
      rw [div_le_one width]
      exact sub_le_sub_right rising.le _
    · rw [if_neg rising, if_pos below, one_literal, clampUnit_of_one_le]
      rw [one_le_div width]
      exact sub_le_sub_right (not_lt.mp rising) _

/-- From its ideal values on, a band is a deviation. -/
theorem Band.score_of_ge (valid : band.Valid) (above : band.idealMin ≤ value) :
    band.score value = (Deviation.mk band.idealMax band.rejectAbove).score value := by
  have width := sub_pos.mpr valid.falls
  have inside : ¬ value ≤ band.rejectBelow := not_le.mpr (valid.rises.trans_le above)
  unfold Band.score Deviation.score
  dsimp only
  by_cases rejected : band.rejectAbove ≤ value
  · rw [if_pos (.inr rejected), zero_literal, clampUnit_of_nonpos]
    exact div_nonpos_of_nonpos_of_nonneg (sub_nonpos.mpr rejected) width.le
  · rw [if_neg (not_or.mpr ⟨inside, rejected⟩), if_neg (not_lt.mpr above)]
    rw [not_le] at rejected
    by_cases ideal : value ≤ band.idealMax
    · rw [if_pos ideal, one_literal, clampUnit_of_one_le]
      rw [one_le_div width]
      exact sub_le_sub_left ideal _
    · rw [if_neg ideal, clampUnit_of_mem]
      refine ⟨div_nonneg (sub_nonneg.mpr rejected.le) width.le, ?_⟩
      rw [div_le_one width]
      exact sub_le_sub_left (not_le.mp ideal).le _

/-- The score is between zero and one. -/
theorem Band.score_mem (valid : band.Valid) (value : ℚ) :
    band.score value ∈ Set.Icc (0 : ℚ) 1 := by
  rcases le_total value band.idealMax with below | above
  · rw [score_of_le valid below]
    exact LowerBound.score_mem _
  · rw [score_of_ge valid (valid.ideal.trans above)]
    exact Deviation.score_mem _

/-- Up to the band larger values score no worse. -/
theorem Band.score_rising (valid : band.Valid) :
    MonotoneOn band.score (Set.Iic band.idealMax) := by
  intro lower low upper high below
  have rises : LowerBound.Valid ⟨band.rejectBelow, band.idealMin⟩ := valid.rises
  rw [score_of_le valid low, score_of_le valid high]
  exact LowerBound.score_monotone rises below

/-- From the band on larger values score no better. -/
theorem Band.score_falling (valid : band.Valid) :
    AntitoneOn band.score (Set.Ici band.idealMin) := by
  intro lower low upper high below
  have falls : Deviation.Valid ⟨band.idealMax, band.rejectAbove⟩ := valid.falls
  rw [score_of_ge valid low, score_of_ge valid high]
  exact Deviation.score_antitone falls below

end

end FaceAuth.Quality
