import FaceAuth.Foundation.Float32
import Mathlib.Tactic.Ring
import Mathlib.Algebra.Order.Ring.Nat

/-!
# Rounding within the range of single precision

A result whose exact value is clearly inside the range of the binary32 format
stays finite when it is rounded and packed. Sums with values of the unit
interval, and quotients by small counts, are such results.
-/

namespace Foundation

open Float.Model (Format UnpackedFloat totalExponent)
open Float.Model.UnpackedFloat

/-! ## Dropping bits -/

/-- Shifting by nothing. -/
theorem shiftRight_zero (mantissa : ExtendedMantissa) : mantissa >>> 0 = mantissa := rfl

/-- Shifting by one more. -/
theorem shiftRight_succ (mantissa : ExtendedMantissa) (count : Nat) :
    mantissa >>> (count + 1) = (mantissa >>> count).shiftRightOne := rfl

/-- Shifting divides the mantissa. -/
theorem mantissa_shiftRight (mantissa : ExtendedMantissa) (count : Nat) :
    (mantissa >>> count).mantissa = mantissa.mantissa / 2 ^ count := by
  induction count with
  | zero => rw [shiftRight_zero, Nat.pow_zero, Nat.div_one]
  | succ count ih =>
      rw [shiftRight_succ, ExtendedMantissa.shiftRightOne, ih, Nat.div_div_eq_div_mul,
        Nat.pow_succ]

/-- The last bit that is shifted out. -/
theorem roundBit_shiftRight (mantissa : ExtendedMantissa) (count : Nat) :
    (mantissa >>> (count + 1)).roundBit = (mantissa.mantissa / 2 ^ count % 2 != 0) := by
  rw [shiftRight_succ, ExtendedMantissa.shiftRightOne, mantissa_shiftRight]

/-- Rounding adds one at most. -/
theorem roundedMantissa_le (mantissa : ExtendedMantissa) :
    mantissa.roundedMantissa ≤ mantissa.mantissa + 1 := by
  unfold ExtendedMantissa.roundedMantissa
  cases mantissa.accuracy with
  | exact => exact Nat.le_succ _
  | inexact order =>
      cases order with
      | lt => exact Nat.le_succ _
      | gt => exact Nat.le_refl _
      | eq =>
          change mantissa.mantissa + mantissa.mantissa % 2 ≤ _
          omega

/-- Without the bit rounding adds nothing. -/
theorem roundedMantissa_of_roundBit {mantissa : ExtendedMantissa}
    (down : mantissa.roundBit = false) : mantissa.roundedMantissa = mantissa.mantissa := by
  obtain ⟨value, bit, sticky⟩ := mantissa
  cases down
  cases sticky <;> rfl

/-- The mantissa behind an accuracy. -/
@[simp] theorem mantissa_ofMantissaAndAccuracy (mantissa : Nat) (accuracy : Accuracy) :
    (ExtendedMantissa.ofMantissaAndAccuracy mantissa accuracy).mantissa = mantissa := by
  cases accuracy with
  | exact => rfl
  | inexact order => cases order <;> rfl

/-- The logarithm of a number below a power of two. -/
theorem log2_le_of_lt {value bits : Nat} (below : value < 2 ^ (bits + 1)) : value.log2 ≤ bits := by
  by_cases zero : value = 0
  · rw [zero]
    exact Nat.zero_le _
  · exact Nat.le_of_lt_succ ((Nat.log2_lt zero).mpr below)

/-- Rounding after dropping bits lengthens what is left by at most one bit. -/
theorem log2_rounded_le (mantissa : ExtendedMantissa) (count : Nat) :
    (mantissa >>> count).roundedMantissa.log2 ≤ mantissa.mantissa.log2 - count + 1 := by
  have rounded := roundedMantissa_le (mantissa >>> count)
  rw [mantissa_shiftRight] at rounded
  apply log2_le_of_lt
  have kept : mantissa.mantissa / 2 ^ count < 2 ^ (mantissa.mantissa.log2 - count + 1) := by
    rw [Nat.div_lt_iff_lt_mul (Nat.two_pow_pos _), ← Nat.pow_add]
    apply Nat.lt_of_lt_of_le Nat.lt_log2_self
    exact Nat.pow_le_pow_right (by decide) (by omega)
  have double : 2 ^ (mantissa.mantissa.log2 - count + 1 + 1) =
      2 * 2 ^ (mantissa.mantissa.log2 - count + 1) := by
    rw [Nat.pow_succ, Nat.mul_comm]
  have positive := Nat.two_pow_pos (mantissa.mantissa.log2 - count)
  have split : 2 ^ (mantissa.mantissa.log2 - count + 1) =
      2 * 2 ^ (mantissa.mantissa.log2 - count) := by
    rw [Nat.pow_succ, Nat.mul_comm]
  omega

/-! ## Rounded exponents -/

/-- A float of at most an exponent, or a zero. -/
def ExponentAtMost (bound : Int) : UnpackedFloat → Prop
  | .finite _ _ exponent _ => exponent ≤ bound
  | .zero _ => True
  | _ => False

/-- The exponent after rounding, by the two shifts that it takes. -/
theorem exponentAtMost_roundWithAccuracy {sign : Sign} {mantissa : Nat} {exponent : Int}
    {accuracy : Accuracy} {bound : Int} (start : exponent ≤ bound) (least : -149 ≤ bound)
    (first : totalExponent mantissa exponent ≤ bound + 24)
    (second : ∀ shifted : ExtendedMantissa, ∀ count : Nat,
      shifted.mantissa = mantissa → exponent + count ≤ bound →
      (count = (max (totalExponent mantissa exponent - 24) (-149) - exponent).toNat) →
      totalExponent (shifted >>> count).roundedMantissa (exponent + count) ≤ bound + 24) :
    ExponentAtMost bound
      (roundWithAccuracy Format.binary32 sign mantissa exponent accuracy) := by
  unfold roundWithAccuracy shiftToTargetExponent shiftToExponent
  dsimp only
  apply diteInduction (motive := ExponentAtMost bound)
  · exact fun _ => trivial
  · intro _
    change _ ≤ bound
    have target : ∀ total, Format.targetExponent Format.binary32 total = max (total - 24) (-149) :=
      fun _ => rfl
    rw [target, target]
    generalize count : (max (totalExponent mantissa exponent - 24) (-149) - exponent).toNat = n
    have low : exponent + n ≤ bound := by omega
    have high := second (ExtendedMantissa.ofMantissaAndAccuracy mantissa accuracy) n
      (mantissa_ofMantissaAndAccuracy ..) low count.symm
    omega

/-- Rounding after a shift lifts the exponent by one at most. -/
theorem total_shifted_le {mantissa : Nat} {exponent : Int} {shifted : ExtendedMantissa}
    {count : Nat} (same : shifted.mantissa = mantissa) (low : exponent + count ≤ 104)
    (total : totalExponent mantissa exponent ≤ 127) :
    totalExponent (shifted >>> count).roundedMantissa (exponent + count) ≤ 128 := by
  have rounded := log2_rounded_le shifted count
  rw [same] at rounded
  unfold totalExponent at total ⊢
  omega

/-- Values below half of the range round to finite ones. -/
theorem exponentAtMost_of_total {sign : Sign} {mantissa : Nat} {exponent : Int}
    {accuracy : Accuracy} (start : exponent ≤ 104)
    (total : totalExponent mantissa exponent ≤ 127) :
    ExponentAtMost 104 (roundWithAccuracy Format.binary32 sign mantissa exponent accuracy) := by
  apply exponentAtMost_roundWithAccuracy start (by decide) (by omega)
  intro shifted count same low _
  exact total_shifted_le same low total

/-- A mantissa that is less than half a unit above the largest one of the format rounds to at
most that one. -/
theorem roundedMantissa_lt {shifted : ExtendedMantissa} {count : Nat}
    (below : shifted.mantissa < (2 ^ 25 - 1) * 2 ^ count) :
    (shifted >>> (count + 1)).roundedMantissa < 2 ^ 24 := by
  have halved : (shifted >>> (count + 1)).mantissa = shifted.mantissa / 2 ^ count / 2 := by
    rw [mantissa_shiftRight, Nat.pow_succ, Nat.div_div_eq_div_mul]
  have front : shifted.mantissa / 2 ^ count < 2 ^ 25 - 1 :=
    (Nat.div_lt_iff_lt_mul (Nat.two_pow_pos _)).mpr below
  have bit := roundBit_shiftRight shifted count
  have rounded := roundedMantissa_le (shifted >>> (count + 1))
  by_cases odd : shifted.mantissa / 2 ^ count % 2 = 0
  · have down : (shifted >>> (count + 1)).roundBit = false := by
      rw [bit, odd]
      rfl
    rw [roundedMantissa_of_roundBit down, halved]
    omega
  · rw [halved] at rounded
    omega

/-- Values that exceed the largest one by less than half a unit round to finite ones. -/
theorem exponentAtMost_of_lt {sign : Sign} {mantissa : Nat} {exponent : Int}
    {accuracy : Accuracy} (start : exponent ≤ 103)
    (below : mantissa < (2 ^ 25 - 1) * 2 ^ (103 - exponent).toNat) :
    ExponentAtMost 104 (roundWithAccuracy Format.binary32 sign mantissa exponent accuracy) := by
  have length : mantissa.log2 ≤ 24 + (103 - exponent).toNat := by
    apply log2_le_of_lt
    apply Nat.lt_of_lt_of_le below
    rw [show 24 + (103 - exponent).toNat + 1 = 25 + (103 - exponent).toNat by omega, Nat.pow_add]
    exact Nat.mul_le_mul_right _ (by decide)
  have total : totalExponent mantissa exponent ≤ 128 := by
    unfold totalExponent
    omega
  apply exponentAtMost_roundWithAccuracy (by omega) (by decide) (by omega)
  intro shifted count same low dropped
  by_cases small : totalExponent mantissa exponent ≤ 127
  · exact total_shifted_le same low small
  · have dropped : count = (103 - exponent).toNat + 1 := by omega
    subst dropped
    rw [← same] at below
    have kept : (shifted >>> ((103 - exponent).toNat + 1)).roundedMantissa.log2 ≤ 23 :=
      log2_le_of_lt (roundedMantissa_lt below)
    unfold totalExponent
    omega

/-- Rounding a bounded number gives a bounded exponent. -/
theorem exponentAtMost_round {sign : Sign} {mantissa : Nat} {exponent : Int}
    (start : exponent ≤ 103) (below : mantissa < (2 ^ 25 - 1) * 2 ^ (103 - exponent).toNat) :
    ExponentAtMost 104 (UnpackedFloat.round Format.binary32 sign mantissa exponent) := by
  unfold UnpackedFloat.round decreaseExponent
  dsimp only
  generalize (exponent - Format.targetExponent Format.binary32
    (totalExponent mantissa exponent)).toNat = count
  apply exponentAtMost_of_lt (by omega)
  rw [Nat.shiftLeft_eq, show (103 - (exponent - count)).toNat = (103 - exponent).toNat + count by
    omega, Nat.pow_add, ← Nat.mul_assoc]
  exact Nat.mul_lt_mul_of_pos_right below (Nat.two_pow_pos _)

/-! ## Packing -/

/-- A number of bounded exponent packs into a finite single. -/
theorem isFinite_pack {value : UnpackedFloat} (bounded : ExponentAtMost 104 value) :
    (Float32.ofModel (.pack value)).isFinite = true := by
  change (UnpackedFloat.unpack Format.binary32
    (UnpackedFloat.pack Format.binary32 value)).isFinite = true
  have zeros : (0#8 : BitVec 8) ≠ -1#8 := by decide
  apply isFinite_unpack_of_exponent
  cases value with
  | notANumber | infinity _ => exact bounded.elim
  | zero sign =>
      unfold UnpackedFloat.pack UnpackedFloat.packedZero
      rw [UnpackedFloat.unpackExponent_packComponents]
      exact zeros
  | finite sign mantissa exponent positive =>
      change exponent ≤ 104 at bounded
      have small : (exponent + 127 + 23).toNat ≤ 254 := by omega
      unfold UnpackedFloat.pack
      dsimp only
      rw [if_neg (by change ¬ 256 ≤ (exponent + 127 + 23).toNat + 1; omega)]
      split
      · rw [UnpackedFloat.unpackExponent_packComponents]
        intro full
        have value := congrArg BitVec.toNat full
        change (exponent + 127 + 23).toNat % 256 = 255 at value
        omega
      · rw [UnpackedFloat.unpackExponent_packComponents]
        exact zeros

/-- A number in the form that values are unpacked to. -/
def Unpacked : UnpackedFloat → Prop
  | .finite _ mantissa exponent _ => mantissa < 2 ^ 24 ∧ exponent ≤ 104
  | .zero _ => True
  | _ => False

/-- A finite number unpacks into bounded parts. -/
theorem unpacked_unpack (bits : BitVec Format.binary32.numBits)
    (finite : (UnpackedFloat.unpack Format.binary32 bits).isFinite = true) :
    Unpacked (UnpackedFloat.unpack Format.binary32 bits) := by
  have mantissas : (unpackMantissa bits).toNat < 2 ^ 23 := (unpackMantissa bits).isLt
  have exponents : (unpackExponent bits).toNat < 256 := (unpackExponent bits).isLt
  have bias : Format.binary32.exponentBias = 127 := rfl
  unfold UnpackedFloat.unpack at finite ⊢
  dsimp only at finite ⊢
  by_cases full : unpackExponent bits = -1#_
  · rw [if_pos full] at finite
    split at finite <;> cases finite
  · have below : (unpackExponent bits).toNat ≠ 255 := fun same =>
      full (BitVec.eq_of_toNat_eq same)
    rw [if_neg full]
    by_cases none : unpackExponent bits = 0#_
    · rw [if_pos none]
      by_cases zero : unpackMantissa bits = 0#_
      · rw [dif_pos zero]
        trivial
      · rw [dif_neg zero]
        refine ⟨by omega, ?_⟩
        rw [bias, none]
        decide
    · rw [if_neg none]
      refine ⟨(1#1 ++ unpackMantissa bits).isLt, ?_⟩
      rw [bias]
      change ((unpackExponent bits).toNat : Int) - (127 + 23) ≤ 104
      omega

/-- So does a finite single. -/
theorem unpacked_of_isFinite {value : Float32} (finite : value.isFinite = true) :
    Unpacked value.toModel.unpack :=
  unpacked_unpack _ finite

/-! ## Sums with values of the unit interval -/

/-- A number below two that is not negative, in the form that values are unpacked to. -/
def SmallUnpacked : UnpackedFloat → Prop
  | .finite .positive mantissa exponent _ => mantissa < 2 ^ 24 ∧ exponent ≤ -23
  | .zero _ => True
  | _ => False

/-- The parts of one. -/
theorem unpack_one : ∃ positive,
    (1.0 : Float32).toModel.unpack = .finite .positive 8_388_608 (-23) positive :=
  ⟨by decide, rfl⟩

/-- The parts of zero. -/
theorem unpack_zero : (0.0 : Float32).toModel.unpack = .zero .positive := rfl

/-- The parts of a single between zero and one. -/
theorem smallUnpacked_of_le {value : Float32} (finite : value.isFinite = true)
    (low : 0.0 ≤ value) (high : value ≤ 1.0) : SmallUnpacked value.toModel.unpack := by
  have shape := unpacked_of_isFinite finite
  have above : UnpackedFloat.le (0.0 : Float32).toModel.unpack value.toModel.unpack = true :=
    of_decide_eq_true low
  have below : UnpackedFloat.le value.toModel.unpack (1.0 : Float32).toModel.unpack = true :=
    of_decide_eq_true high
  obtain ⟨positive, one⟩ := unpack_one
  rw [one] at below
  rw [unpack_zero] at above
  cases unpacked : value.toModel.unpack with
  | notANumber | infinity _ =>
      rw [unpacked] at shape
      exact shape.elim
  | zero sign => trivial
  | finite sign mantissa exponent nonzero =>
      rw [unpacked] at shape above below
      cases sign with
      | negative => cases above
      | positive =>
          refine ⟨shape.1, ?_⟩
          have compared : ((compare exponent (-23)).then
              (compare mantissa 8_388_608)).isLE = true := below
          rcases Int.lt_trichotomy exponent (-23) with less | same | more
          · exact Int.le_of_lt less
          · exact Int.le_of_eq same
          · rw [Int.compare_eq_gt.mpr more] at compared
            cases compared

/-- What is at least one is at least zero. -/
theorem float_zero_le_of_one_le {value : Float32} (above : 1.0 ≤ value) : 0.0 ≤ value := by
  have loose : UnpackedFloat.le (1.0 : Float32).toModel.unpack value.toModel.unpack = true :=
    of_decide_eq_true above
  have goal : UnpackedFloat.le (0.0 : Float32).toModel.unpack value.toModel.unpack = true := by
    obtain ⟨positive, one⟩ := unpack_one
    rw [one] at loose
    rw [unpack_zero]
    cases unpacked : value.toModel.unpack with
    | notANumber =>
        rw [unpacked] at loose
        cases loose
    | infinity sign | zero sign =>
        rw [unpacked] at loose
        cases sign
        · cases loose
        · rfl
    | finite sign mantissa exponent nonzero =>
        rw [unpacked] at loose
        cases sign
        · cases loose
        · rfl
  exact decide_eq_true goal

/-- Normalizing a bounded number gives a bounded exponent. -/
theorem exponentAtMost_normalize {mantissa exponent : Int} {zeroSign : Sign}
    (start : exponent ≤ 103)
    (below : mantissa.natAbs < (2 ^ 25 - 1) * 2 ^ (103 - exponent).toNat) :
    ExponentAtMost 104 (UnpackedFloat.normalize Format.binary32 mantissa exponent zeroSign) := by
  unfold UnpackedFloat.normalize
  split
  · exact exponentAtMost_round start (by omega)
  · trivial
  · exact exponentAtMost_round start (by omega)

/-- A sign does not change the magnitude. -/
theorem natAbs_apply (sign : Sign) (value : Nat) : (sign.apply value).natAbs = value := by
  cases sign with
  | negative => exact Int.natAbs_neg _
  | positive => rfl

/-- A small addend stays below half a unit of the largest value. -/
theorem sum_below {first second : Nat} {exponent exponent' : Int} (bounded : first < 2 ^ 24)
    (high : exponent ≤ 104) (bounded' : second < 2 ^ 24) (low : exponent' ≤ -23) :
    first * 2 ^ (exponent - min exponent exponent').toNat +
        second * 2 ^ (exponent' - min exponent exponent').toNat <
      (2 ^ 25 - 1) * 2 ^ (103 - min exponent exponent').toNat := by
  generalize same : (103 - min exponent exponent').toNat = scale
  have front : first * 2 ^ (exponent - min exponent exponent').toNat ≤
      (2 ^ 25 - 2) * 2 ^ scale := by
    calc first * 2 ^ (exponent - min exponent exponent').toNat
        ≤ (2 ^ 24 - 1) * 2 ^ (scale + 1) :=
          Nat.mul_le_mul (by omega) (Nat.pow_le_pow_right (by decide) (by omega))
      _ = (2 ^ 25 - 2) * 2 ^ scale := by
          rw [Nat.pow_succ]
          omega
  have back : second * 2 ^ (exponent' - min exponent exponent').toNat < 2 ^ scale := by
    calc second * 2 ^ (exponent' - min exponent exponent').toNat
        < 2 ^ 24 * 2 ^ (exponent' - min exponent exponent').toNat :=
          Nat.mul_lt_mul_of_pos_right bounded' (Nat.two_pow_pos _)
      _ = 2 ^ (24 + (exponent' - min exponent exponent').toNat) := by rw [Nat.pow_add]
      _ ≤ 2 ^ scale := Nat.pow_le_pow_right (by decide) (by omega)
  have whole : (2 ^ 25 - 1) * 2 ^ scale = (2 ^ 25 - 2) * 2 ^ scale + 2 ^ scale := by
    omega
  omega

/-- Adding something up to one keeps the exponent bounded. -/
theorem exponentAtMost_add {left right : UnpackedFloat} (first : Unpacked left)
    (second : SmallUnpacked right) :
    ExponentAtMost 104 (UnpackedFloat.add Format.binary32 left right) := by
  cases left with
  | notANumber | infinity _ => exact first.elim
  | zero sign =>
      cases right with
      | notANumber | infinity _ => exact second.elim
      | zero sign' =>
          unfold UnpackedFloat.add
          dsimp only
          split <;> trivial
      | finite sign' mantissa exponent positive =>
          cases sign' with
          | negative => exact second.elim
          | positive => exact Int.le_trans second.2 (by decide)
  | finite sign mantissa exponent positive =>
      cases right with
      | notANumber | infinity _ => exact second.elim
      | zero sign' => exact first.2
      | finite sign' mantissa' exponent' positive' =>
          cases sign' with
          | negative => exact second.elim
          | positive =>
              have bounded := sum_below first.1 first.2 second.1 second.2
              unfold UnpackedFloat.add decreaseExponent
              dsimp only
              apply exponentAtMost_normalize
              · have low := second.2
                omega
              · apply Nat.lt_of_le_of_lt (Int.natAbs_add_le _ _)
                rw [natAbs_apply, natAbs_apply, Nat.shiftLeft_eq, Nat.shiftLeft_eq]
                exact bounded

/-- Adding a value of the unit interval to a finite value is finite. -/
theorem isFinite_add_unit {sum value : Float32} (first : sum.isFinite = true)
    (finite : value.isFinite = true) (low : 0.0 ≤ value) (high : value ≤ 1.0) :
    (sum + value).isFinite = true :=
  isFinite_pack (exponentAtMost_add (unpacked_of_isFinite first)
    (smallUnpacked_of_le finite low high))

/-- The sum of an iterator of values. -/
def floatSum (values : List Float32) : Float32 := values.foldl (· + ·) (-0.0)

/-- A sum of singles up to one is finite, however many there are. -/
theorem isFinite_foldl_unit {values : List Float32}
    (unit : ∀ value ∈ values, value.isFinite = true ∧ 0.0 ≤ value ∧ value ≤ 1.0)
    {start : Float32} (first : start.isFinite = true) :
    (values.foldl (· + ·) start).isFinite = true := by
  induction values generalizing start with
  | nil => exact first
  | cons value values ih =>
      rw [List.forall_mem_cons] at unit
      exact ih unit.2 (isFinite_add_unit first unit.1.1 unit.1.2.1 unit.1.2.2)

/-- The sum of values of the unit interval is finite. -/
theorem isFinite_floatSum {values : List Float32}
    (unit : ∀ value ∈ values, value.isFinite = true ∧ 0.0 ≤ value ∧ value ≤ 1.0) :
    (floatSum values).isFinite = true :=
  isFinite_foldl_unit unit (by decide +kernel)

/-! ## Quotients by counts -/

/-- A count of at least two, in the form that values are unpacked to. -/
def CountUnpacked : UnpackedFloat → Bool
  | .finite .positive mantissa exponent _ => decide (2 ^ 23 ≤ mantissa ∧ -22 ≤ exponent)
  | _ => false

/-- The exponent and the length of a quotient before it is rounded. -/
theorem target_div_le {mantissa mantissa' : Nat} {exponent exponent' : Int}
    (small : mantissa < 2 ^ 24) (low : exponent ≤ 104) (large : 2 ^ 23 ≤ mantissa')
    (high : -22 ≤ exponent') :
    (divCore Format.binary32 mantissa exponent mantissa' exponent').2.1 ≤ 104 ∧
      totalExponent (divCore Format.binary32 mantissa exponent mantissa' exponent').1
        (divCore Format.binary32 mantissa exponent mantissa' exponent').2.1 ≤ 127 := by
  have target : ∀ total, Format.targetExponent Format.binary32 total = max (total - 24) (-149) :=
    fun _ => rfl
  have length : mantissa.log2 ≤ 23 := log2_le_of_lt small
  have length' : 23 ≤ mantissa'.log2 :=
    (Nat.le_log2 (Nat.ne_of_gt (Nat.lt_of_lt_of_le (by decide) large))).mpr large
  unfold divCore
  dsimp only
  rw [target]
  generalize goal : min (exponent - exponent')
    (max (totalExponent mantissa exponent - totalExponent mantissa' exponent' - 24) (-149)) =
    final
  have near : final ≤ 102 := by
    unfold totalExponent at goal
    omega
  refine ⟨by omega, ?_⟩
  have quotient : mantissa <<< (exponent - exponent' - final).toNat / mantissa' <
      2 ^ ((exponent - exponent' - final).toNat + 1) := by
    rw [Nat.div_lt_iff_lt_mul (by omega), Nat.shiftLeft_eq]
    calc mantissa * 2 ^ (exponent - exponent' - final).toNat
        < 2 ^ 24 * 2 ^ (exponent - exponent' - final).toNat :=
          Nat.mul_lt_mul_of_pos_right small (Nat.two_pow_pos _)
      _ ≤ 2 ^ ((exponent - exponent' - final).toNat + 1) * 2 ^ 23 := by
          rw [← Nat.pow_add, ← Nat.pow_add]
          exact Nat.pow_le_pow_right (by decide) (by omega)
      _ ≤ 2 ^ ((exponent - exponent' - final).toNat + 1) * mantissa' :=
          Nat.mul_le_mul_left _ large
  have bits := log2_le_of_lt quotient
  unfold totalExponent
  omega

/-- Dividing by a count keeps the exponent bounded. -/
theorem exponentAtMost_div {left right : UnpackedFloat} (first : Unpacked left)
    (second : CountUnpacked right = true) :
    ExponentAtMost 104 (UnpackedFloat.div Format.binary32 left right) := by
  cases right with
  | notANumber | infinity _ | zero _ => cases second
  | finite sign' mantissa' exponent' positive' =>
      cases sign' with
      | negative => cases second
      | positive =>
          obtain ⟨large, high⟩ := of_decide_eq_true second
          cases left with
          | notANumber | infinity _ => exact first.elim
          | zero sign => trivial
          | finite sign mantissa exponent positive =>
              obtain ⟨small, low⟩ := first
              apply exponentAtMost_of_total
              · exact (target_div_le small low large high).1
              · exact (target_div_le small low large high).2

/-- Dividing a finite value by a count is finite. -/
theorem isFinite_div_count {value count : Float32} (finite : value.isFinite = true)
    (counted : CountUnpacked count.toModel.unpack = true) : (value / count).isFinite = true :=
  isFinite_pack (exponentAtMost_div (unpacked_of_isFinite finite) counted)

end Foundation
