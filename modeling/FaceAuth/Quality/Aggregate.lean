import FaceAuth.Quality.Score

/-!
# The conservative aggregate

Without rounding, the aggregate of component scores lies between the weakest of them
and that one with its headroom. A component that improves never lowers it, and
neither does a measurement.
-/

namespace FaceAuth.Quality

open Foundation

namespace QualityComponents

/-- All components are scores. -/
def Scores (components : QualityComponents ℚ) : Prop :=
  ∀ score ∈ components.values, score ∈ Set.Icc (0 : ℚ) 1

/-- Each component is at most its counterpart. -/
def AtMost (lower upper : QualityComponents ℚ) : Prop :=
  List.Forall₂ (· ≤ ·) lower.values upper.values

/-- All components, taken as weights, count. -/
def Weighty (weights : QualityComponents ℚ) : Prop := ∀ weight ∈ weights.values, 0 < weight

/-- The lowest of the scores. -/
def weakest (components : QualityComponents ℚ) : ℚ := components.values.foldl min 1

variable {components lower upper weights : QualityComponents ℚ}

/-- It is one of the scores, and none is lower. -/
theorem weakest_isLeast (scores : components.Scores) :
    IsLeast {score | score ∈ components.values} components.weakest :=
  foldl_min_isLeast (by simp [values]) fun score member => (scores score member).2

/-- No score is negative. -/
theorem weakest_nonneg (scores : components.Scores) : 0 ≤ components.weakest :=
  (scores _ (weakest_isLeast scores).1).1

/-- The lowest score is zero when one of them is. -/
theorem weakest_eq_zero_iff (scores : components.Scores) :
    components.weakest = 0 ↔ 0 ∈ components.values := by
  have least := weakest_isLeast scores
  constructor
  · intro zero
    rw [← zero]
    exact least.1
  · intro member
    exact le_antisymm (least.2 member) (weakest_nonneg scores)

/-- Better scores have a better lowest one. -/
theorem weakest_mono (below : lower.AtMost upper) : lower.weakest ≤ upper.weakest := by
  unfold AtMost at below
  unfold weakest
  generalize lower.values = values at below ⊢
  generalize upper.values = values' at below ⊢
  have steps : ∀ start start' : ℚ, start ≤ start' →
      values.foldl min start ≤ values'.foldl min start' := by
    induction below with
    | nil => exact fun _ _ first => first
    | cons first rest ih => exact fun start start' below => ih _ _ (min_le_min below first)
  exact steps 1 1 (le_refl 1)

/-- The components with their weights. -/
def weighed (components weights : QualityComponents ℚ) : List (ℚ × ℚ) :=
  components.values.zip weights.values

/-- Without a zero all weighed scores are positive. -/
theorem weighed_positive (scores : components.Scores) (weakest : components.weakest ≠ 0)
    (weighty : weights.Weighty) : Harmonic.Positive (components.weighed weights) where
  nonempty := by simp [weighed, values]
  value pair member := by
    have known := List.of_mem_zip member
    apply lt_of_le_of_ne (scores _ known.1).1
    intro zero
    rw [← zero] at known
    exact weakest ((weakest_eq_zero_iff scores).mpr known.1)
  weight pair member := weighty _ (List.of_mem_zip member).2

/-- Better scores are larger under the same weights. -/
theorem weighed_grown (below : lower.AtMost upper) :
    List.Forall₂ Harmonic.Grown (lower.weighed weights) (upper.weighed weights) := by
  unfold AtMost at below
  unfold weighed
  generalize lower.values = values at below ⊢
  generalize upper.values = values' at below ⊢
  generalize weights.values = weights
  induction below generalizing weights with
  | nil => exact .nil
  | cons first rest ih =>
      cases weights with
      | nil => exact .nil
      | cons weight weights => exact .cons ⟨first, rfl⟩ (ih weights)

end QualityComponents

/-- The aggregate that no rounding disturbs. -/
def exactAggregate (components weights : QualityComponents ℚ) (headroom : ℚ) : ℚ :=
  if components.weakest = 0 then 0
  else min (Harmonic.mean (components.weighed weights)) (min (components.weakest + headroom) 1)

variable {components lower upper weights : QualityComponents ℚ} {headroom : ℚ}

/-- Over exact numbers the aggregate does not fail. -/
theorem conservativeAggregate_exact :
    conservativeAggregate exact components weights headroom =
      .ok (exactAggregate components weights headroom) := by
  have sums : Harmonic.sums (components.weighed weights) ((0.0 : ℚ), (0.0 : ℚ)) =
      (Harmonic.weightSum (components.weighed weights),
        Harmonic.reciprocalSum (components.weighed weights)) := by
    rw [Harmonic.sums_eq, zero_literal, zero_add, zero_add]
  unfold conservativeAggregate exactAggregate
  change (if (components.values.foldl min 1.0 == 0.0) = true then Except.ok (0.0 : ℚ) else
    Except.ok (min ((Harmonic.sums (components.weighed weights) (0.0, 0.0)).1 /
      (Harmonic.sums (components.weighed weights) (0.0, 0.0)).2)
      (min (components.values.foldl min 1.0 + headroom) 1.0))) = _
  rw [sums, one_literal, zero_literal]
  simp only [beq_iff_eq]
  change (if components.weakest = 0 then _ else _) = _
  by_cases zero : components.weakest = 0
  · rw [if_pos zero, if_pos zero]
  · rw [if_neg zero, if_neg zero]
    rfl

/-- The aggregate is not below the lowest score. -/
theorem weakest_le_exactAggregate (scores : components.Scores) (weighty : weights.Weighty)
    (roomy : 0 ≤ headroom) : components.weakest ≤ exactAggregate components weights headroom := by
  have least := QualityComponents.weakest_isLeast scores
  unfold exactAggregate
  split
  · next zero => exact zero.le
  · next some =>
      apply le_min
      · apply (QualityComponents.weighed_positive scores some weighty).le_mean
        exact fun pair member => least.2 (List.of_mem_zip member).1
      · exact le_min (le_add_of_nonneg_right roomy) (scores _ least.1).2

/-- It is above it by the headroom at most, and not above one. -/
theorem exactAggregate_le (scores : components.Scores) (roomy : 0 ≤ headroom) :
    exactAggregate components weights headroom ≤ min 1 (components.weakest + headroom) := by
  unfold exactAggregate
  split
  · exact le_min zero_le_one (add_nonneg (QualityComponents.weakest_nonneg scores) roomy)
  · rw [min_comm 1]
    exact min_le_right _ _

/-- It is zero when one of the scores is. -/
theorem exactAggregate_eq_zero_iff (scores : components.Scores) (weighty : weights.Weighty)
    (roomy : 0 ≤ headroom) :
    exactAggregate components weights headroom = 0 ↔ 0 ∈ components.values := by
  rw [← QualityComponents.weakest_eq_zero_iff scores]
  constructor
  · intro zero
    apply le_antisymm _ (QualityComponents.weakest_nonneg scores)
    rw [← zero]
    exact weakest_le_exactAggregate scores weighty roomy
  · intro zero
    rw [exactAggregate, if_pos zero]

/-- Better scores have a better aggregate. -/
theorem exactAggregate_mono (scores : lower.Scores) (scores' : upper.Scores)
    (weighty : weights.Weighty) (roomy : 0 ≤ headroom) (below : lower.AtMost upper) :
    exactAggregate lower weights headroom ≤ exactAggregate upper weights headroom := by
  have weakest := QualityComponents.weakest_mono below
  by_cases zero : lower.weakest = 0
  · rw [exactAggregate, if_pos zero]
    exact (QualityComponents.weakest_nonneg scores').trans
      (weakest_le_exactAggregate scores' weighty roomy)
  · have positive := lt_of_le_of_ne (QualityComponents.weakest_nonneg scores) (Ne.symm zero)
    have positive' := (positive.trans_le weakest).ne'
    rw [exactAggregate, if_neg zero, exactAggregate, if_neg positive']
    apply min_le_min
    · exact Harmonic.mean_grown (QualityComponents.weighed_positive scores zero weighty)
        (QualityComponents.weighed_positive scores' positive' weighty)
        (QualityComponents.weighed_grown below)
    · exact min_le_min (add_le_add_left weakest headroom) (le_refl 1)

/-! ## Calibrated measurements -/

/-- The value moves towards the ideal ones of a band, or along them. -/
def Band.Improves (band : Band ℚ) (value better : ℚ) : Prop :=
  better = value ∨ value ≤ better ∧ better ≤ band.idealMax ∨
    band.idealMin ≤ better ∧ better ≤ value

/-- A value that moves towards the band scores no worse. -/
theorem Band.score_improves {band : Band ℚ} (valid : band.Valid) {value better : ℚ}
    (improves : band.Improves value better) : band.score value ≤ band.score better := by
  rcases improves with same | ⟨rises, ideal⟩ | ⟨ideal, falls⟩
  · rw [same]
  · exact Band.score_rising valid (rises.trans ideal) ideal rises
  · exact Band.score_falling valid ideal (ideal.trans falls) falls

namespace Calibrations

variable (calibrations : Calibrations ℚ)

/-- The measurements that should lie in a band. -/
def bands : List (Band ℚ) := [calibrations.exposure, calibrations.faceFraction]

/-- The measurements that should be large. -/
def lowerBounds : List (LowerBound ℚ) :=
  [calibrations.dynamicRange, calibrations.sharpness, calibrations.visibility,
    calibrations.landmarkConfidence]

/-- The measurements that should be small. -/
def deviations : List (Deviation ℚ) :=
  [calibrations.clippedFraction, calibrations.horizontalCentering,
    calibrations.verticalCentering, calibrations.yaw, calibrations.pitch, calibrations.roll]

/-- Calibrations that a validated configuration has. -/
structure Valid : Prop where
  bands : ∀ band ∈ calibrations.bands, band.Valid
  lowerBounds : ∀ bound ∈ calibrations.lowerBounds, bound.Valid
  deviations : ∀ deviation ∈ calibrations.deviations, deviation.Valid
  weights : calibrations.weights.Weighty
  headroom : 0 ≤ calibrations.weakestComponentHeadroom

/-- Scores stay in the unit interval, and follow their measurements in the intended direction. -/
structure Oriented : Prop where
  bands : ∀ band ∈ calibrations.bands, (∀ value, band.score value ∈ Set.Icc (0 : ℚ) 1) ∧
    MonotoneOn band.score (Set.Iic band.idealMax) ∧ AntitoneOn band.score (Set.Ici band.idealMin)
  lowerBounds : ∀ bound ∈ calibrations.lowerBounds,
    (∀ value, bound.score value ∈ Set.Icc (0 : ℚ) 1) ∧ Monotone bound.score
  deviations : ∀ deviation ∈ calibrations.deviations,
    (∀ value, deviation.score value ∈ Set.Icc (0 : ℚ) 1) ∧ Antitone deviation.score

/-- Every measurement is the same or better. -/
structure Improves (measured better : Measured ℚ) : Prop where
  meanLuma : calibrations.exposure.Improves measured.meanLuma better.meanLuma
  clippedFraction : better.clippedFraction ≤ measured.clippedFraction
  dynamicRange : measured.dynamicRange ≤ better.dynamicRange
  normalizedLaplacianVariance :
    measured.normalizedLaplacianVariance ≤ better.normalizedLaplacianVariance
  faceFraction : calibrations.faceFraction.Improves measured.faceFraction better.faceFraction
  horizontalOffset : better.horizontalOffset ≤ measured.horizontalOffset
  verticalOffset : better.verticalOffset ≤ measured.verticalOffset
  yaw : better.yaw ≤ measured.yaw
  pitch : better.pitch ≤ measured.pitch
  roll : better.roll ≤ measured.roll
  visibleFraction : measured.visibleFraction ≤ better.visibleFraction
  landmarkConfidence : measured.landmarkConfidence ≤ better.landmarkConfidence

variable {calibrations}

/-- Valid calibrations score better values no worse. -/
theorem Valid.oriented (valid : calibrations.Valid) : calibrations.Oriented where
  bands band member :=
    ⟨Band.score_mem (valid.bands band member), Band.score_rising (valid.bands band member),
      Band.score_falling (valid.bands band member)⟩
  lowerBounds bound member :=
    ⟨LowerBound.score_mem, LowerBound.score_monotone (valid.lowerBounds bound member)⟩
  deviations deviation member :=
    ⟨Deviation.score_mem, Deviation.score_antitone (valid.deviations deviation member)⟩

/-- The lesser of two scores is one. -/
theorem min_mem {left right : ℚ} (first : left ∈ Set.Icc (0 : ℚ) 1)
    (second : right ∈ Set.Icc (0 : ℚ) 1) : min left right ∈ Set.Icc (0 : ℚ) 1 :=
  ⟨le_min first.1 second.1, (min_le_left _ _).trans first.2⟩

/-- The components of a measurement are scores. -/
theorem components_scores (valid : calibrations.Valid) (measured : Measured ℚ) :
    (calibrations.components exact measured).Scores := by
  have bands := valid.bands
  simp only [Calibrations.bands, List.forall_mem_cons] at bands
  simp only [QualityComponents.Scores, QualityComponents.values, List.forall_mem_cons]
  refine ⟨min_mem (Band.score_mem bands.1 _) (Deviation.score_mem _), LowerBound.score_mem _,
    LowerBound.score_mem _, Band.score_mem bands.2.1 _,
    min_mem (Deviation.score_mem _) (Deviation.score_mem _),
    min_mem (min_mem (Deviation.score_mem _) (Deviation.score_mem _)) (Deviation.score_mem _),
    LowerBound.score_mem _, LowerBound.score_mem _, nofun⟩

/-- Better measurements have better components. -/
theorem components_improves (valid : calibrations.Valid) {measured better : Measured ℚ}
    (improves : calibrations.Improves measured better) :
    (calibrations.components exact measured).AtMost (calibrations.components exact better) := by
  have bands := valid.bands
  have bounds := valid.lowerBounds
  have deviations := valid.deviations
  simp only [Calibrations.bands, List.forall_mem_cons] at bands
  simp only [Calibrations.lowerBounds, List.forall_mem_cons] at bounds
  simp only [Calibrations.deviations, List.forall_mem_cons] at deviations
  obtain ⟨exposure, faceFraction, -⟩ := bands
  obtain ⟨dynamicRange, sharpness, visibility, landmarkConfidence, -⟩ := bounds
  obtain ⟨clipped, horizontal, vertical, yaw, pitch, roll, -⟩ := deviations
  refine .cons (min_le_min ?_ ?_) (.cons ?_ (.cons ?_ (.cons ?_ (.cons (min_le_min ?_ ?_)
    (.cons (min_le_min (min_le_min ?_ ?_) ?_) (.cons ?_ (.cons ?_ .nil)))))))
  · exact Band.score_improves exposure improves.meanLuma
  · exact Deviation.score_antitone clipped improves.clippedFraction
  · exact LowerBound.score_monotone dynamicRange improves.dynamicRange
  · exact LowerBound.score_monotone sharpness improves.normalizedLaplacianVariance
  · exact Band.score_improves faceFraction improves.faceFraction
  · exact Deviation.score_antitone horizontal improves.horizontalOffset
  · exact Deviation.score_antitone vertical improves.verticalOffset
  · exact Deviation.score_antitone yaw improves.yaw
  · exact Deviation.score_antitone pitch improves.pitch
  · exact Deviation.score_antitone roll improves.roll
  · exact LowerBound.score_monotone visibility improves.visibleFraction
  · exact LowerBound.score_monotone landmarkConfidence improves.landmarkConfidence

/-! ## Validated configurations -/

/-- A valid band is so over exact numbers. -/
theorem band_valid {band : BandCalibration} (valid : band.Valid) :
    (Band.of exactly band).Valid := by
  obtain ⟨⟨first, second, third, fourth⟩, rises, ideal, falls⟩ := valid
  exact ⟨(exactly_lt first second).mp rises, (exactly_le second third).mp ideal,
    (exactly_lt third fourth).mp falls⟩

/-- So is a valid lower bound. -/
theorem lowerBound_valid {bound : LowerBoundCalibration} (valid : bound.Valid) :
    (LowerBound.of exactly bound).Valid :=
  (exactly_lt valid.1 valid.2.1).mp valid.2.2

/-- So is a valid bound on a deviation. -/
theorem deviation_valid {deviation : DeviationCalibration} (valid : deviation.Valid) :
    (Deviation.of exactly deviation).Valid :=
  (exactly_lt valid.1 valid.2.1).mp valid.2.2.2

/-- Valid weights are positive over exact numbers. -/
theorem weights_weighty {weights : QualityWeights} (valid : weights.Valid) :
    (QualityComponents.of exactly weights).Weighty := by
  intro weight member
  have read : (QualityComponents.of exactly weights).values = weights.values.map exactly := rfl
  rw [read] at member
  obtain ⟨value, known, rfl⟩ := List.mem_map.mp member
  obtain ⟨finite, least, -⟩ := valid value known
  have hundredth : 0 < exactly 0.01 := by decide +kernel
  exact hundredth.trans_le ((exactly_le (by decide +kernel) finite).mp least)

/-- The calibrations of a valid configuration are valid over exact numbers. -/
theorem of_valid {config : QualityConfig} (valid : config.validate = .ok ()) :
    (Calibrations.of exactly config).Valid := by
  rw [QualityConfig.validate, require_eq_ok_iff] at valid
  obtain ⟨-, luma, geometry, scores⟩ := valid
  obtain ⟨-, -, -, ⟨exposure, -⟩, -, ⟨clipped, -⟩, ⟨dynamicRange, -⟩, sharpness, -⟩ := luma
  obtain ⟨⟨faceFraction, -⟩, ⟨horizontal, -⟩, ⟨vertical, -⟩, ⟨yaw, -⟩, ⟨pitch, -⟩, roll, -⟩ :=
    geometry
  obtain ⟨⟨visibility, -⟩, ⟨landmarkConfidence, -⟩, weights, finite, headroom, -⟩ := scores
  constructor
  · simp only [bands, List.forall_mem_cons]
    exact ⟨band_valid exposure, band_valid faceFraction, nofun⟩
  · simp only [lowerBounds, List.forall_mem_cons]
    exact ⟨lowerBound_valid dynamicRange, lowerBound_valid sharpness,
      lowerBound_valid visibility, lowerBound_valid landmarkConfidence, nofun⟩
  · simp only [deviations, List.forall_mem_cons]
    exact ⟨deviation_valid clipped, deviation_valid horizontal, deviation_valid vertical,
      deviation_valid yaw, deviation_valid pitch, deviation_valid roll, nofun⟩
  · exact weights_weighty weights
  · have zero : exactly 0.0 = 0 := rfl
    rw [← zero]
    exact (exactly_le (by decide +kernel) finite).mp headroom

end Calibrations

/-- Up to rounding, the aggregate is conservative, and monotone in every measurement. -/
theorem conservativeAggregate_conservative {config : QualityConfig}
    (valid : config.validate = .ok ()) :
    let calibrations := Calibrations.of exactly config
    let aggregate := fun components => conservativeAggregate exact components
      calibrations.weights calibrations.weakestComponentHeadroom
    (∀ components : QualityComponents ℚ, components.Scores → ∃ weakest score,
      IsLeast {component | component ∈ components.values} weakest ∧
      aggregate components = .ok score ∧ weakest ≤ score ∧
      score ≤ min 1 (weakest + calibrations.weakestComponentHeadroom) ∧
      (score = 0 ↔ 0 ∈ components.values)) ∧
    (∀ lower upper : QualityComponents ℚ, lower.Scores → upper.Scores → lower.AtMost upper →
      ∃ score score', aggregate lower = .ok score ∧ aggregate upper = .ok score' ∧
        score ≤ score') ∧
    calibrations.Oriented ∧
    ∀ measured better, calibrations.Improves measured better → ∃ score score',
      aggregate (calibrations.components exact measured) = .ok score ∧
      aggregate (calibrations.components exact better) = .ok score' ∧ score ≤ score' := by
  have calibrated := Calibrations.of_valid valid
  have weighty := calibrated.weights
  have roomy := calibrated.headroom
  intro calibrations aggregate
  refine ⟨fun components scores => ?_, fun lower upper scores scores' below => ?_,
    calibrated.oriented, fun measured better improves => ?_⟩
  · exact ⟨components.weakest, _, components.weakest_isLeast scores, conservativeAggregate_exact,
      weakest_le_exactAggregate scores weighty roomy, exactAggregate_le scores roomy,
      exactAggregate_eq_zero_iff scores weighty roomy⟩
  · exact ⟨_, _, conservativeAggregate_exact, conservativeAggregate_exact,
      exactAggregate_mono scores scores' weighty roomy below⟩
  · exact ⟨_, _, conservativeAggregate_exact, conservativeAggregate_exact,
      exactAggregate_mono (Calibrations.components_scores calibrated measured)
        (Calibrations.components_scores calibrated better) weighty roomy
        (Calibrations.components_improves calibrated improves)⟩

/-- A face that is half as sharp as it should be has an aggregate. -/
theorem conservativeAggregate_conservative_halfSharp :
    ∃ score, conservativeAggregate exact ⟨1, 1, 1 / 2, 1, 1, 1, 1, 1⟩
      (.of exactly QualityConfig.engineeringBaseline.weights)
      (exactly QualityConfig.engineeringBaseline.weakestComponentHeadroom) = .ok score ∧
      score ≠ 0 := by
  have scores : QualityComponents.Scores ⟨1, 1, 1 / 2, 1, 1, 1, 1, 1⟩ := by
    norm_num [QualityComponents.Scores, QualityComponents.values]
  obtain ⟨-, score, -, aggregated, -, -, zero⟩ :=
    (conservativeAggregate_conservative QualityConfig.engineeringBaseline_valid).1 _ scores
  refine ⟨score, aggregated, fun vanishes => ?_⟩
  norm_num [QualityComponents.values] at zero
  exact zero vanishes

end FaceAuth.Quality
