import FaceAuth.Foundation.Machine
import FaceAuth.Inference.Preprocess
import Mathlib.Algebra.Order.Field.Basic
import Mathlib.Data.Rat.Cast.Order
import Mathlib.Tactic.FieldSimp
import Mathlib.Tactic.Linarith
import Mathlib.Tactic.Positivity

/-!
# The axis of a bilinear resampling

Where a target pixel lies on the source, in integer arithmetic with half-pixel
centres: between which two source pixels, and how far from the lower one.
-/

namespace FaceAuth

open Foundation Machine

namespace Inference

/-- The largest signed number of 64 bits. -/
def I64_MAX : Nat := 9_223_372_036_854_775_807

/-- The largest number of 32 bits. -/
def U32_BOUND : Nat := 4_294_967_295

/-- Two neighbouring source pixels, and the fraction of the way between them. -/
structure AxisSample where
  lower : Nat
  upper : Nat
  remainder : Nat
  denominator : Nat
deriving DecidableEq, Repr

namespace AxisSample

/-- The weight of the upper pixel. -/
def weight (sample : AxisSample) : Float32 :=
  (UInt16.ofNat sample.remainder).toFloat32 / (UInt16.ofNat sample.denominator).toFloat32

example : AxisSample.weight ⟨0, 0, 0, 1⟩ = 0.0 := by decide +kernel

/-- The exact position on the source. -/
def position (sample : AxisSample) : ℚ :=
  sample.lower + (sample.remainder : ℚ) / sample.denominator

end AxisSample

section Axis

variable {Error : Type} (narrow : Narrowing Error)

/-- The interpolation with given conversions, which fall back in the program. -/
def interpolationAxisBy (target targetExtent sourceExtent : Nat) : Machine Error AxisSample := do
  let denominator ← signed I64_MAX (targetExtent * 2)
  let doubled ← signed I64_MAX (target * 2)
  let odd ← signed I64_MAX (doubled + 1)
  let scaled ← signed I64_MAX (odd * sourceExtent)
  let numerator ← signed I64_MAX (scaled - targetExtent)
  if denominator = 0 then
    stop .dividedByZero
  else
    let rawLower := numerator / denominator
    if rawLower < 0 then
      return ⟨0, 0, 0, 1⟩
    else
      let last ← subtract sourceExtent 1
      let found ← narrow U32_BOUND last rawLower
      let lower := min found last
      if lower = last then
        return ⟨lower, lower, 0, 1⟩
      else
        let upper ← unsigned U32_BOUND (lower + 1)
        let remainder ← narrow U16_MAX 0 (numerator % denominator)
        let denominator ← narrow U16_MAX 1 denominator
        return ⟨lower, upper, remainder, denominator⟩

/-- The two source positions around a target position, with the weight of the second. -/
def interpolationAxis (target targetExtent sourceExtent : Nat) : Machine Error AxisSample :=
  interpolationAxisBy narrowOr target targetExtent sourceExtent

end Axis

/-! ## Exact positions -/

/-- Twice the target extent times the position on the source, before clamping. -/
def axisNumerator (target targetExtent sourceExtent : Nat) : Int :=
  (target * 2 + 1) * sourceExtent - targetExtent

/-- The sample in exact arithmetic. -/
def axisSample (target targetExtent sourceExtent : Nat) : AxisSample :=
  let numerator := axisNumerator target targetExtent sourceExtent
  let lower := numerator / (targetExtent * 2 : Nat)
  if lower < 0 then ⟨0, 0, 0, 1⟩
  else if (sourceExtent : Int) - 1 ≤ lower then ⟨sourceExtent - 1, sourceExtent - 1, 0, 1⟩
  else ⟨lower.toNat, lower.toNat + 1, (numerator % (targetExtent * 2 : Nat)).toNat,
    targetExtent * 2⟩

/-- A source extent, and a target index below a target extent, of the sizes admitted. -/
structure AxisExtents (target targetExtent sourceExtent : Nat) : Prop where
  inside : target < targetExtent
  target : targetExtent ≤ 4096
  positive : 1 ≤ sourceExtent
  source : sourceExtent ≤ 4096

section Exact

variable {Error : Type} {narrow : Narrowing Error} {target targetExtent sourceExtent : Nat}

/-- The scaled position is small. -/
theorem AxisExtents.scaled_le (extents : AxisExtents target targetExtent sourceExtent) :
    (target * 2 + 1) * sourceExtent ≤ 8192 * 4096 := by
  have inside := extents.inside
  have small := extents.target
  exact Nat.mul_le_mul (by omega) extents.source

/-- Nothing overflows, whatever the conversions do with numbers that do not fit. -/
theorem interpolationAxisBy_eq (converts : Converts narrow)
    (extents : AxisExtents target targetExtent sourceExtent) :
    interpolationAxisBy narrow target targetExtent sourceExtent =
      .ok (axisSample target targetExtent sourceExtent) := by
  have small := extents.scaled_le
  obtain ⟨inside, target_le, positive, source_le⟩ := extents
  have limit : (I64_MAX : Int) = 9_223_372_036_854_775_807 := rfl
  have word : (U32_BOUND : Int) = 4_294_967_295 := rfl
  have half : (U16_MAX : Int) = 65_535 := rfl
  have scaled : ((target : Int) * 2 + 1) * sourceExtent ≤ 8192 * 4096 := by exact_mod_cast small
  have nonneg : 0 ≤ ((target : Int) * 2 + 1) * sourceExtent := by positivity
  unfold interpolationAxisBy
  rw [signed_eq (by omega) (by omega), ok_bind, signed_eq (by omega) (by omega), ok_bind,
    signed_eq (by omega) (by omega), ok_bind, signed_eq (by omega) (by omega), ok_bind,
    signed_eq (by omega) (by omega), ok_bind, if_neg (by omega)]
  unfold axisSample axisNumerator
  push_cast
  generalize raw : ((target : Int) * 2 + 1) * sourceExtent - targetExtent = numerator at *
  have divisor : 0 < (targetExtent : Int) * 2 := by omega
  have below : numerator / (targetExtent * 2) ≤ 8192 * 4096 := by
    refine (Int.ediv_le_ediv divisor (show numerator ≤ 8192 * 4096 by omega)).trans ?_
    exact Int.ediv_le_self _ (by decide)
  have remaining := Int.emod_lt_of_pos numerator divisor
  have left := Int.emod_nonneg numerator divisor.ne'
  generalize numerator / ((targetExtent : Int) * 2) = lower at *
  generalize numerator % ((targetExtent : Int) * 2) = remainder at *
  by_cases before : lower < 0
  · rw [if_pos before, if_pos before]
    rfl
  rw [if_neg before, if_neg before, subtract_eq positive, ok_bind,
    converts (by omega) (by omega), ok_bind]
  by_cases last : (sourceExtent : Int) - 1 ≤ lower
  · have clamped : min lower.toNat (sourceExtent - 1) = sourceExtent - 1 := by omega
    rw [clamped, if_pos rfl, if_pos last]
    rfl
  · have free : min lower.toNat (sourceExtent - 1) = lower.toNat := by omega
    have inner : lower.toNat ≠ sourceExtent - 1 := by omega
    have next : lower.toNat + 1 ≤ U32_BOUND := by omega
    rw [free, if_neg inner, if_neg last, unsigned_eq next, ok_bind,
      converts left (by omega), ok_bind, converts (by omega) (by omega), ok_bind]
    rfl

/-- Within the extents no step overflows. -/
theorem interpolationAxis_eq (extents : AxisExtents target targetExtent sourceExtent) :
    (interpolationAxis target targetExtent sourceExtent : Machine Error AxisSample) =
      .ok (axisSample target targetExtent sourceExtent) :=
  interpolationAxisBy_eq converts_narrowOr extents

/-- The sample lies on the source. -/
theorem axisSample_bounds (extents : AxisExtents target targetExtent sourceExtent) :
    let sample := axisSample target targetExtent sourceExtent
    sample.lower ≤ sample.upper ∧ sample.upper < sourceExtent ∧ sample.upper ≤ sample.lower + 1 ∧
      sample.remainder < sample.denominator := by
  obtain ⟨inside, -, positive, -⟩ := extents
  have remaining := Int.emod_lt_of_pos (axisNumerator target targetExtent sourceExtent)
    (show (0 : Int) < (targetExtent * 2 : Nat) by omega)
  unfold axisSample
  dsimp only
  split_ifs
  · dsimp only
    omega
  · dsimp only
    omega
  · dsimp only
    omega

/-- The position is that of the half-pixel centre, clamped to the source. -/
theorem position_axisSample (extents : AxisExtents target targetExtent sourceExtent) :
    (axisSample target targetExtent sourceExtent).position =
      max 0 (min (sourceExtent - 1 : ℚ)
        (((2 * target + 1) * sourceExtent - targetExtent) / (2 * targetExtent))) := by
  obtain ⟨inside, -, positive, -⟩ := extents
  have divisor : (0 : Int) < (targetExtent * 2 : Nat) := by omega
  have divisor' : (0 : ℚ) < 2 * targetExtent := by
    have : (0 : ℚ) < targetExtent := by exact_mod_cast (show 0 < targetExtent by omega)
    linarith
  have split := Int.mul_ediv_add_emod (axisNumerator target targetExtent sourceExtent)
    (targetExtent * 2 : Nat)
  have left := Int.emod_nonneg (axisNumerator target targetExtent sourceExtent) divisor.ne'
  have remaining := Int.emod_lt_of_pos (axisNumerator target targetExtent sourceExtent) divisor
  have centre : ((2 * target + 1) * sourceExtent - targetExtent : ℚ) =
      (axisNumerator target targetExtent sourceExtent : ℤ) := by
    unfold axisNumerator
    push_cast
    ring
  rw [centre]
  unfold axisSample AxisSample.position
  dsimp only
  generalize axisNumerator target targetExtent sourceExtent = numerator at *
  generalize numerator / ((targetExtent * 2 : Nat) : Int) = lower at *
  generalize numerator % ((targetExtent * 2 : Nat) : Int) = remainder at *
  have whole : (numerator : ℚ) / (2 * targetExtent) =
      lower + (remainder : ℚ) / (2 * targetExtent) := by
    rw [← split, div_eq_iff divisor'.ne', add_mul, div_mul_cancel₀ _ divisor'.ne']
    push_cast
    ring
  have least : 0 ≤ (remainder : ℚ) / (2 * targetExtent) :=
    div_nonneg (by exact_mod_cast left) divisor'.le
  have most : (remainder : ℚ) / (2 * targetExtent) < 1 := by
    rw [div_lt_one divisor', mul_comm]
    exact_mod_cast remaining
  rw [whole]
  split_ifs with before last
  · have outside : (lower : ℚ) ≤ -1 := by exact_mod_cast (show lower ≤ -1 by omega)
    rw [max_eq_left (min_le_of_right_le (by linarith))]
    norm_num
  · have outside : (sourceExtent : ℚ) - 1 ≤ lower := by exact_mod_cast last
    have source : (0 : ℚ) ≤ sourceExtent - 1 := by
      have : (1 : ℚ) ≤ sourceExtent := by exact_mod_cast positive
      linarith
    rw [min_eq_left (by linarith), max_eq_right source, Nat.cast_sub positive]
    norm_num
  · have inner : (lower : ℚ) + 1 ≤ sourceExtent - 1 := by
      exact_mod_cast (show lower + 1 ≤ (sourceExtent : Int) - 1 by omega)
    have above : (0 : ℚ) ≤ lower := by exact_mod_cast (show 0 ≤ lower by omega)
    have place : (lower.toNat : ℚ) = lower := by
      exact_mod_cast Int.toNat_of_nonneg (show 0 ≤ lower by omega)
    have rest : (remainder.toNat : ℚ) = remainder := by
      exact_mod_cast Int.toNat_of_nonneg left
    rw [min_eq_right (by linarith), max_eq_right (by linarith), place, rest]
    push_cast
    ring

/-- Later target pixels do not lie before earlier ones. -/
theorem position_mono {later : Nat} (extents : AxisExtents target targetExtent sourceExtent)
    (inside : later < targetExtent) (order : target ≤ later) :
    (axisSample target targetExtent sourceExtent).position ≤
      (axisSample later targetExtent sourceExtent).position := by
  rw [position_axisSample extents,
    position_axisSample ⟨inside, extents.target, extents.positive, extents.source⟩]
  have forward : (target : ℚ) ≤ later := by exact_mod_cast order
  gcongr

/-- Without resizing, every pixel stays where it is. -/
theorem axisSample_same (extents : AxisExtents target targetExtent targetExtent) :
    axisSample target targetExtent targetExtent =
      if target = targetExtent - 1 then ⟨target, target, 0, 1⟩
      else ⟨target, target + 1, 0, targetExtent * 2⟩ := by
  obtain ⟨inside, -, positive, -⟩ := extents
  have numerator : axisNumerator target targetExtent targetExtent =
      target * (targetExtent * 2 : Nat) := by
    unfold axisNumerator
    push_cast
    ring
  have divisor : ((targetExtent * 2 : Nat) : Int) ≠ 0 := by omega
  unfold axisSample
  simp only [numerator, Int.mul_ediv_cancel _ divisor, Int.mul_emod_left]
  split_ifs <;> simp <;> omega

end Exact

/-- The interpolation is exact: no number overflows, no conversion falls back to its default, the
two pixels are neighbours on the source, the position between them is the half-pixel centre
clamped to the source, it does not decrease, and without resizing it is the target pixel. -/
theorem interpolationAxis_exact (Error : Type) {target targetExtent sourceExtent : Nat}
    (extents : AxisExtents target targetExtent sourceExtent) :
    ∃ sample : AxisSample,
      (interpolationAxis target targetExtent sourceExtent : Machine Error AxisSample) =
        .ok sample ∧
      (interpolationAxisBy narrowExactly target targetExtent sourceExtent :
        Machine Error AxisSample) = .ok sample ∧
      (sample.lower ≤ sample.upper ∧ sample.upper < sourceExtent ∧
        sample.upper ≤ sample.lower + 1 ∧ sample.remainder < sample.denominator) ∧
      sample.position = max 0 (min (sourceExtent - 1 : ℚ)
        (((2 * target + 1) * sourceExtent - targetExtent) / (2 * targetExtent))) ∧
      (∀ later next, target ≤ later → later < targetExtent →
        (interpolationAxis later targetExtent sourceExtent : Machine Error AxisSample) =
          .ok next → sample.position ≤ next.position) ∧
      (sourceExtent = targetExtent → sample.lower = target ∧ sample.remainder = 0) := by
  refine ⟨axisSample target targetExtent sourceExtent, interpolationAxis_eq extents,
    interpolationAxisBy_eq converts_narrowExactly extents, axisSample_bounds extents,
    position_axisSample extents, ?_, ?_⟩
  · intro later next order inside found
    rw [interpolationAxis_eq ⟨inside, extents.target, extents.positive, extents.source⟩] at found
    cases found
    exact position_mono extents inside order
  · rintro rfl
    rw [axisSample_same extents]
    split_ifs <;> exact ⟨rfl, rfl⟩

/-- The middle of three samples of four is between the second and the third. -/
theorem interpolationAxis_exact_shrunk :
    ∃ sample : AxisSample,
      (interpolationAxis 1 3 4 : Machine Empty AxisSample) = .ok sample ∧
      sample.position = 3 / 2 := by
  obtain ⟨sample, found, -, -, position, -⟩ :=
    interpolationAxis_exact Empty (show AxisExtents 1 3 4 from
      ⟨by decide, by decide, by decide, by decide⟩)
  refine ⟨sample, found, ?_⟩
  rw [position]
  norm_num

end Inference

end FaceAuth
