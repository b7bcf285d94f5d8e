import FaceAuth.Foundation.Rounding
import Mathlib.Algebra.Order.Field.Power
import Mathlib.Algebra.Order.Field.Rat
import Mathlib.Tactic.NormNum.OfScientific
import Mathlib.Tactic.Linarith

/-!
# Exact values of binary floating-point numbers

Every finite value stands for a rational number, and comparisons of finite values
are comparisons of these numbers.
-/

namespace Foundation

open Float.Model (Format UnpackedFloat)
open Float.Model.UnpackedFloat

/-- The rational number that an unpacked float stands for; zero where there is none. -/
def unpackedValue : UnpackedFloat → ℚ
  | .finite .positive mantissa exponent _ => mantissa * 2 ^ exponent
  | .finite .negative mantissa exponent _ => -(mantissa * 2 ^ exponent)
  | _ => 0

/-- The rational number that a finite value stands for. -/
def exactly (value : Float32) : ℚ := unpackedValue value.toModel.unpack

/-- The least exponent of a format. -/
def leastExponent (spec : Format) : Int :=
  1 - (spec.exponentBias + spec.mantissaBitsWithoutImplicit)

/-- A mantissa with all bits of a format, or its least exponent. -/
structure Normal (spec : Format) (mantissa : Nat) (exponent : Int) : Prop where
  below : mantissa < 2 ^ (spec.mantissaBitsWithoutImplicit + 1)
  least : leastExponent spec ≤ exponent
  full : 2 ^ spec.mantissaBitsWithoutImplicit ≤ mantissa ∨ exponent = leastExponent spec

/-- A number in the only form that values of a format are unpacked to. -/
def Canonical (spec : Format) : UnpackedFloat → Prop
  | .finite _ mantissa exponent _ => Normal spec mantissa exponent
  | .zero _ => True
  | _ => False

/-- A finite number unpacks into its canonical form. -/
theorem canonical_unpack {spec : Format} (bits : BitVec spec.numBits)
    (finite : (UnpackedFloat.unpack spec bits).isFinite = true) :
    Canonical spec (UnpackedFloat.unpack spec bits) := by
  have mantissas : (unpackMantissa bits).toNat < 2 ^ spec.mantissaBitsWithoutImplicit :=
    (unpackMantissa bits).isLt
  unfold UnpackedFloat.unpack at finite ⊢
  dsimp only at finite ⊢
  by_cases infinite : unpackExponent bits = -1#_
  · rw [if_pos infinite] at finite
    split at finite <;> cases finite
  · rw [if_neg infinite]
    by_cases none : unpackExponent bits = 0#_
    · rw [if_pos none]
      by_cases zero : unpackMantissa bits = 0#_
      · rw [dif_pos zero]
        trivial
      · rw [dif_neg zero]
        refine ⟨mantissas.trans (Nat.pow_lt_pow_succ (by decide)), ?_, .inr ?_⟩
        · rw [none, leastExponent, BitVec.toNat_ofNat, Nat.zero_mod]
          omega
        · rw [none, leastExponent, BitVec.toNat_ofNat, Nat.zero_mod]
          omega
    · rw [if_neg none]
      have positive : (unpackExponent bits).toNat ≠ 0 := by
        intro zero
        apply none
        apply BitVec.eq_of_toNat_eq
        rw [zero, BitVec.toNat_ofNat, Nat.zero_mod]
      refine ⟨?_, ?_, .inl ?_⟩
      · exact Nat.lt_of_lt_of_eq (1#1 ++ unpackMantissa bits).isLt (by rw [Nat.add_comm])
      · rw [leastExponent]
        omega
      · rw [BitVec.toNat_append, Nat.shiftLeft_eq]
        exact (Nat.one_mul _).symm.le.trans Nat.left_le_or

/-- So does a finite single. -/
theorem canonical_of_isFinite {value : Float32} (finite : value.isFinite = true) :
    Canonical Format.binary32 value.toModel.unpack :=
  canonical_unpack _ finite

/-! ## Comparisons -/

section

variable {spec : Format} {mantissa mantissa' : Nat} {exponent exponent' : Int}

/-- Of two normal numbers the one with the larger exponent is larger. -/
theorem magnitude_lt (small : Normal spec mantissa exponent)
    (large : Normal spec mantissa' exponent')
    (below : exponent < exponent') :
    (mantissa : ℚ) * 2 ^ exponent < mantissa' * 2 ^ exponent' := by
  have least := small.least
  have full : 2 ^ spec.mantissaBitsWithoutImplicit ≤ mantissa' :=
    large.full.resolve_right (by omega)
  have power : (0 : ℚ) < 2 ^ exponent := zpow_pos (by norm_num) _
  calc (mantissa : ℚ) * 2 ^ exponent
      < 2 ^ (spec.mantissaBitsWithoutImplicit + 1) * 2 ^ exponent := by
        apply mul_lt_mul_of_pos_right _ power
        exact_mod_cast small.below
    _ = 2 ^ spec.mantissaBitsWithoutImplicit * 2 ^ (exponent + 1) := by
        rw [zpow_add₀ (by norm_num), pow_succ]
        ring
    _ ≤ mantissa' * 2 ^ exponent' := by
        apply mul_le_mul (by exact_mod_cast full) _ (zpow_nonneg (by norm_num) _)
          (Nat.cast_nonneg _)
        exact zpow_le_zpow_right₀ (by norm_num) below

/-- Exponents first, then mantissas: this compares the numbers. -/
theorem compare_magnitude (left : Normal spec mantissa exponent)
    (right : Normal spec mantissa' exponent') :
    (compare exponent exponent').then (compare mantissa mantissa') =
      compare ((mantissa : ℚ) * 2 ^ exponent) (mantissa' * 2 ^ exponent') := by
  rcases lt_trichotomy exponent exponent' with less | same | more
  · rw [compare_lt_iff_lt.mpr less, compare_lt_iff_lt.mpr (magnitude_lt left right less)]
    rfl
  · subst same
    have power : (0 : ℚ) < 2 ^ exponent := zpow_pos (by norm_num) _
    rw [compare_eq_iff_eq.mpr rfl, Ordering.eq_then]
    rcases lt_trichotomy mantissa mantissa' with less | same | more
    · rw [compare_lt_iff_lt.mpr less, compare_lt_iff_lt.mpr]
      exact mul_lt_mul_of_pos_right (by exact_mod_cast less) power
    · rw [compare_eq_iff_eq.mpr same, compare_eq_iff_eq.mpr (by rw [same])]
    · rw [compare_gt_iff_gt.mpr more, compare_gt_iff_gt.mpr]
      exact mul_lt_mul_of_pos_right (by exact_mod_cast more) power
  · rw [compare_gt_iff_gt.mpr more, compare_gt_iff_gt.mpr (magnitude_lt right left more)]
    rfl

end

/-- Negating both turns a comparison around. -/
theorem compare_neg (left right : ℚ) : compare (-left) (-right) = (compare left right).swap := by
  rcases lt_trichotomy left right with less | same | more
  · rw [compare_lt_iff_lt.mpr less, compare_gt_iff_gt.mpr (neg_lt_neg less)]
    rfl
  · rw [compare_eq_iff_eq.mpr same, compare_eq_iff_eq.mpr (by rw [same])]
    rfl
  · rw [compare_gt_iff_gt.mpr more, compare_lt_iff_lt.mpr (neg_lt_neg more)]
    rfl

/-- Numbers compare as the rationals that they stand for. -/
theorem compare_unpacked {spec : Format} {left right : UnpackedFloat}
    (first : Canonical spec left) (second : Canonical spec right) :
    left.compare right = some (compare (unpackedValue left) (unpackedValue right)) := by
  have positive : ∀ {mantissa : Nat} {exponent : Int}, 0 < mantissa →
      (0 : ℚ) < mantissa * 2 ^ exponent := fun some =>
    mul_pos (by exact_mod_cast some) (zpow_pos (by norm_num) _)
  cases left with
  | notANumber | infinity _ => exact first.elim
  | zero sign =>
      cases right with
      | notANumber | infinity _ => exact second.elim
      | zero sign' => exact congrArg some (compare_eq_iff_eq.mpr rfl).symm
      | finite sign' mantissa exponent nonzero =>
          cases sign' with
          | positive => exact congrArg some (compare_lt_iff_lt.mpr (positive nonzero)).symm
          | negative =>
              exact congrArg some (compare_gt_iff_gt.mpr (neg_lt_zero.mpr (positive nonzero))).symm
  | finite sign mantissa exponent nonzero =>
      cases right with
      | notANumber | infinity _ => exact second.elim
      | zero sign' =>
          cases sign with
          | positive => exact congrArg some (compare_gt_iff_gt.mpr (positive nonzero)).symm
          | negative =>
              exact congrArg some (compare_lt_iff_lt.mpr (neg_lt_zero.mpr (positive nonzero))).symm
      | finite sign' mantissa' exponent' nonzero' =>
          have left : (0 : ℚ) < mantissa * 2 ^ exponent := positive nonzero
          have right : (0 : ℚ) < mantissa' * 2 ^ exponent' := positive nonzero'
          have magnitudes := compare_magnitude first second
          cases sign with
          | positive =>
              cases sign' with
              | positive => exact congrArg some magnitudes
              | negative =>
                  exact congrArg some (compare_gt_iff_gt.mpr
                    ((neg_lt_zero.mpr right).trans left)).symm
          | negative =>
              cases sign' with
              | positive =>
                  exact congrArg some (compare_lt_iff_lt.mpr
                    ((neg_lt_zero.mpr left).trans right)).symm
              | negative =>
                  change some ((compare exponent exponent').then
                    (compare mantissa mantissa')).swap = _
                  rw [magnitudes, ← compare_neg]
                  rfl

variable {left right : Float32}

/-- Finite singles compare as the rationals that they stand for. -/
theorem exactly_lt (first : left.isFinite = true) (second : right.isFinite = true) :
    left < right ↔ exactly left < exactly right := by
  have compared := compare_unpacked (canonical_of_isFinite first) (canonical_of_isFinite second)
  change decide (UnpackedFloat.lt left.toModel.unpack right.toModel.unpack = true) = true ↔ _
  rw [decide_eq_true_iff, UnpackedFloat.lt, compared, beq_iff_eq, Option.some.injEq,
    compare_lt_iff_lt]
  rfl

/-- So they do for the weak order. -/
theorem exactly_le (first : left.isFinite = true) (second : right.isFinite = true) :
    left ≤ right ↔ exactly left ≤ exactly right := by
  rw [← float_not_lt_iff second first, exactly_lt second first, not_lt]

example : exactly 0.75 = 3 / 4 ∧ exactly (-2.0) = -2 := by decide +kernel

/-! ## Counts in double precision -/

/-- A power of two adds to the logarithm. -/
theorem log2_mul_two_pow {value : Nat} (some : value ≠ 0) (bits : Nat) :
    (value * 2 ^ bits).log2 = value.log2 + bits := by
  induction bits with
  | zero => rw [Nat.pow_zero, Nat.mul_one, Nat.add_zero]
  | succ bits ih =>
      rw [Nat.pow_succ, ← Nat.mul_assoc, Nat.mul_comm _ 2, Nat.log2_two_mul, ih, Nat.add_assoc]
      exact Nat.mul_ne_zero some (Nat.two_pow_pos bits).ne'

/-- A number that fills its mantissa is not rounded. -/
theorem roundWithAccuracy_full {mantissa : Nat} {exponent : Int} (full : mantissa.log2 = 52)
    (least : -1074 ≤ exponent) (positive : 0 < mantissa) :
    roundWithAccuracy Format.binary64 .positive mantissa exponent .exact =
      .finite .positive mantissa exponent positive := by
  have target : Format.targetExponent Format.binary64
      (Float.Model.totalExponent mantissa exponent) = exponent := by
    change max ((mantissa.log2 : Int) + 1 + exponent - 53) (-1074) = exponent
    rw [full]
    omega
  have kept : shiftToTargetExponent Format.binary64 mantissa exponent .exact =
      (⟨mantissa, false, false⟩, exponent) := by
    unfold shiftToTargetExponent shiftToExponent
    dsimp only
    rw [target, Int.sub_self]
    exact Prod.ext rfl (Int.add_zero _)
  unfold roundWithAccuracy
  rw [kept]
  dsimp only
  change (match shiftToTargetExponent Format.binary64 mantissa exponent .exact with
    | (finalExtendedMantissa, finalExponent) =>
        if h : finalExtendedMantissa.mantissa = 0 then UnpackedFloat.zero .positive
        else .finite .positive finalExtendedMantissa.mantissa finalExponent
          (Nat.pos_of_ne_zero h)) = _
  rw [kept]
  exact dif_neg positive.ne'

/-- A count below the precision keeps its bits when it is rounded. -/
theorem ofNat_eq {count : Nat} (some : 0 < count) (below : count < 2 ^ 32) :
    ∃ positive, UnpackedFloat.ofNat Format.binary64 count =
      .finite .positive (count * 2 ^ (52 - count.log2)) (-((52 - count.log2 : Nat) : Int))
        positive := by
  have bits : count.log2 < 32 := (Nat.log2_lt some.ne').mpr below
  have full : (count * 2 ^ (52 - count.log2)).log2 = 52 := by
    rw [log2_mul_two_pow some.ne']
    omega
  refine ⟨Nat.mul_pos some (Nat.two_pow_pos _), ?_⟩
  unfold UnpackedFloat.ofNat UnpackedFloat.ofInt UnpackedFloat.normalize
  rw [Int.compare_eq_gt.mpr (by exact_mod_cast some)]
  dsimp only
  unfold UnpackedFloat.round decreaseExponent
  dsimp only
  have amount : (0 - Format.targetExponent Format.binary64
      (Float.Model.totalExponent count 0)).toNat = 52 - count.log2 := by
    change (0 - max ((count.log2 : Int) + 1 + 0 - 53) (-1074)).toNat = _
    omega
  rw [Int.toNat_natCast, amount, Nat.shiftLeft_eq, Int.zero_sub]
  exact roundWithAccuracy_full full (by omega) _

/-- A number with an exponent unpacks into its mantissa and the exponent without its bias. -/
theorem unpack_of_exponent {spec : Format} {bits : BitVec spec.numBits}
    (number : unpackExponent bits ≠ -1#_) (normal : unpackExponent bits ≠ 0#_) :
    ∃ sign positive, UnpackedFloat.unpack spec bits =
      .finite sign (1#1 ++ unpackMantissa bits).toNat
        ((unpackExponent bits).toNat - (spec.exponentBias + spec.mantissaBitsWithoutImplicit))
        positive := by
  have positive : 0 < (1#1 ++ unpackMantissa bits).toNat := by
    rw [BitVec.toNat_append]
    apply Nat.lt_of_lt_of_le _ Nat.left_le_or
    rw [Nat.shiftLeft_eq]
    exact Nat.mul_pos Nat.one_pos (Nat.two_pow_pos _)
  unfold UnpackedFloat.unpack
  dsimp only
  rw [if_neg number, if_neg normal]
  exact ⟨_, positive, rfl⟩

/-- Up to its sign, a number that fills its mantissa is unpacked as it was packed. -/
theorem unpack_pack_full {mantissa : Nat} {exponent : Int} (full : mantissa.log2 = 52)
    (least : -1074 ≤ exponent) (most : exponent ≤ 971) (positive : 0 < mantissa) :
    ∃ sign, UnpackedFloat.unpack Format.binary64
      (UnpackedFloat.pack Format.binary64 (.finite .positive mantissa exponent positive)) =
      .finite sign mantissa exponent positive := by
  obtain ⟨low, high⟩ := (Nat.log2_eq_iff positive.ne').mp full
  have exponentBits : (BitVec.ofNat 11 (exponent + 1075).toNat).toNat =
      (exponent + 1075).toNat := by
    rw [BitVec.toNat_ofNat]
    omega
  have mantissaBits : (1#1 ++ BitVec.ofNat 52 mantissa).toNat = mantissa := by
    rw [BitVec.toNat_append, ← Nat.shiftLeft_add_eq_or_of_lt (BitVec.isLt _), BitVec.toNat_ofNat]
    change 1 * 2 ^ 52 + mantissa % 2 ^ 52 = mantissa
    omega
  have packed : UnpackedFloat.pack Format.binary64 (.finite .positive mantissa exponent positive) =
      packComponents Format.binary64 .positive (BitVec.ofNat 11 (exponent + 1075).toNat)
        (BitVec.ofNat 52 mantissa) := by
    unfold UnpackedFloat.pack
    dsimp only
    have biased : (exponent + Format.binary64.exponentBias +
        Format.binary64.mantissaBitsWithoutImplicit).toNat = (exponent + 1075).toNat := by
      change (exponent + (1023 : Nat) + (52 : Nat)).toNat = _
      omega
    rw [biased, if_neg (by change ¬ 2048 ≤ _; omega), if_pos (by rw [full]; rfl)]
  have exponents : unpackExponent (packComponents Format.binary64 .positive
      (BitVec.ofNat 11 (exponent + 1075).toNat) (BitVec.ofNat 52 mantissa)) =
      BitVec.ofNat 11 (exponent + 1075).toNat := unpackExponent_packComponents
  have mantissas : unpackMantissa (packComponents Format.binary64 .positive
      (BitVec.ofNat 11 (exponent + 1075).toNat) (BitVec.ofNat 52 mantissa)) =
      BitVec.ofNat 52 mantissa := unpackMantissa_packComponents
  rw [packed]
  generalize packComponents Format.binary64 .positive
    (BitVec.ofNat 11 (exponent + 1075).toNat) (BitVec.ofNat 52 mantissa) = bits at *
  have number : unpackExponent bits ≠ -1#11 := by
    intro same
    have value := congrArg BitVec.toNat same
    rw [exponents, exponentBits] at value
    change _ = 2047 at value
    omega
  have normal : unpackExponent bits ≠ 0#11 := by
    intro same
    have value := congrArg BitVec.toNat same
    rw [exponents, exponentBits] at value
    change _ = 0 at value
    omega
  obtain ⟨sign, positive', unpacked⟩ := unpack_of_exponent number normal
  refine ⟨sign, ?_⟩
  rw [unpacked]
  apply finite_congr rfl
  · rw [mantissas, mantissaBits]
  · rw [exponents, exponentBits]
    change ((exponent + 1075).toNat : Int) - ((1023 : Nat) + (52 : Nat)) = exponent
    omega

/-- The rational number that a finite value of double precision stands for. -/
def exactlyDouble (value : Float) : ℚ := unpackedValue value.toModel.unpack

/-- Conversion of a count makes a finite number of at most the count. -/
theorem exactlyDouble_toFloat (count : UInt32) :
    count.toFloat.isFinite = true ∧ exactlyDouble count.toFloat ≤ count.toNat := by
  by_cases zero : count = 0
  · subst zero
    exact ⟨rfl, le_refl _⟩
  · have some : 0 < count.toNat := Nat.pos_of_ne_zero fun none => zero (UInt32.toNat_inj.mp none)
    obtain ⟨positive, rounded⟩ := ofNat_eq some count.toNat_lt
    have bits : count.toNat.log2 < 32 := (Nat.log2_lt some.ne').mpr count.toNat_lt
    have full : (count.toNat * 2 ^ (52 - count.toNat.log2)).log2 = 52 := by
      rw [log2_mul_two_pow some.ne']
      omega
    have least : (-1074 : Int) ≤ -((52 - count.toNat.log2 : Nat) : Int) := by omega
    obtain ⟨sign, unpacked⟩ := unpack_pack_full full least (by omega) positive
    have same : count.toFloat.toModel.unpack = .finite sign
        (count.toNat * 2 ^ (52 - count.toNat.log2)) (-((52 - count.toNat.log2 : Nat) : Int))
        positive := by
      rw [← unpacked, ← rounded]
      rfl
    have value : ((count.toNat * 2 ^ (52 - count.toNat.log2) : Nat) : ℚ) *
        2 ^ (-((52 - count.toNat.log2 : Nat) : Int)) = count.toNat := by
      rw [zpow_neg, zpow_natCast, Nat.cast_mul, Nat.cast_pow, Nat.cast_ofNat]
      exact mul_inv_cancel_right₀ (pow_ne_zero _ (by norm_num)) _
    constructor
    · change count.toFloat.toModel.unpack.isFinite = true
      rw [same]
      rfl
    · unfold exactlyDouble
      rw [same]
      cases sign with
      | positive => exact value.le
      | negative =>
          change -_ ≤ _
          rw [value]
          have nonneg : (0 : ℚ) ≤ count.toNat := Nat.cast_nonneg _
          linarith

/-- What is not more than a converted count is not more than the count. -/
theorem exactlyDouble_le {value : Float} {count : UInt32} (finite : value.isFinite = true)
    (below : ¬ count.toFloat < value) : exactlyDouble value ≤ count.toNat := by
  obtain ⟨finite', small⟩ := exactlyDouble_toFloat count
  refine le_trans (not_lt.mp fun larger => below ?_) small
  have compared := @compare_unpacked Format.binary64 count.toFloat.toModel.unpack
    value.toModel.unpack (canonical_unpack _ finite') (canonical_unpack _ finite)
  change decide (UnpackedFloat.lt count.toFloat.toModel.unpack value.toModel.unpack = true) = true
  rw [decide_eq_true_iff, UnpackedFloat.lt, compared, beq_iff_eq, Option.some.injEq,
    compare_lt_iff_lt]
  exact larger

/-- Clamping does not enlarge. -/
theorem toNat_ofNatClamp_le (value : Nat) : (UInt64.ofNatClamp value).toNat ≤ value := by
  have size : UInt64.size = 18_446_744_073_709_551_616 := rfl
  unfold UInt64.ofNatClamp
  split
  · exact le_refl _
  · next large => exact (Nat.le_of_lt_succ (UInt64.toNat_lt _)).trans (by omega)

/-- Rounding towards zero drops the fraction of the magnitude. -/
theorem roundToInt_eq (sign : Sign) (mantissa : Nat) (exponent : Int) :
    roundToInt sign mantissa exponent =
      sign.apply (mantissa * 2 ^ exponent.toNat / 2 ^ (-exponent).toNat : Nat) := by
  unfold roundToInt decreaseExponent shiftToExponent
  dsimp only
  rw [mantissa_shiftRight, mantissa_ofMantissaAndAccuracy, Nat.shiftLeft_eq, Int.sub_zero]
  rw [show (0 - (exponent - exponent.toNat)).toNat = (-exponent).toNat by omega]

/-- The integer part of a number is not more than a count that the number does not exceed. -/
theorem truncated_le {mantissa count : Nat} {exponent : Int}
    (small : (mantissa : ℚ) * 2 ^ exponent ≤ count) :
    mantissa * 2 ^ exponent.toNat / 2 ^ (-exponent).toNat ≤ count := by
  apply Nat.div_le_of_le_mul
  rcases le_total 0 exponent with nonneg | negative
  · rw [show (-exponent).toNat = 0 by omega, Nat.pow_zero, Nat.one_mul]
    rw [← Int.toNat_of_nonneg nonneg, zpow_natCast] at small
    exact_mod_cast small
  · rw [show exponent.toNat = 0 by omega, Nat.pow_zero, Nat.mul_one]
    have power : (0 : ℚ) < 2 ^ (-exponent).toNat := pow_pos (by norm_num) _
    rw [show exponent = -((-exponent).toNat : Int) by omega, zpow_neg, zpow_natCast,
      ← div_eq_mul_inv, div_le_iff₀ power] at small
    rw [Nat.mul_comm]
    exact_mod_cast small

/-- Truncation makes no number larger. -/
theorem toUInt64_le {value : Float} {count : Nat} (finite : value.isFinite = true)
    (small : exactlyDouble value ≤ count) : value.toUInt64.toNat ≤ count := by
  refine (toNat_ofNatClamp_le _).trans ?_
  change (UnpackedFloat.toInt 0 (UInt64.size - 1) value.toModel.unpack).toNat ≤ count
  change value.toModel.unpack.isFinite = true at finite
  unfold exactlyDouble at small
  cases unpacked : value.toModel.unpack with
  | notANumber | infinity _ =>
      rw [unpacked] at finite
      cases finite
  | zero _ => exact Nat.zero_le _
  | finite sign mantissa exponent positive =>
      rw [unpacked] at small
      change (roundToInt sign mantissa exponent).toNat ≤ count
      rw [roundToInt_eq]
      cases sign with
      | negative =>
          generalize mantissa * 2 ^ exponent.toNat / 2 ^ (-exponent).toNat = truncated
          change (-(truncated : Int)).toNat ≤ count
          omega
      | positive => exact truncated_le small

end Foundation
