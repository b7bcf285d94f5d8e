import Mathlib.Data.List.Zip
import Mathlib.Order.Compare

/-!
# Single-precision arithmetic beyond the core operations

The core library models binary32 values bit by bit. This module adds the fused
multiply-add with its single rounding, the clamp, and the facts about IEEE
comparisons that hold once neither side is a NaN.
-/

namespace Foundation

open Float.Model (Format UnpackedFloat)

/-- What holds of both branches of a conditional holds of the conditional. -/
theorem diteInduction {Value : Type} {motive : Value → Prop} {condition : Prop}
    [Decidable condition] {positive : condition → Value} {negative : ¬ condition → Value}
    (first : ∀ holds, motive (positive holds)) (second : ∀ fails, motive (negative fails)) :
    motive (dite condition positive negative) := by
  by_cases holds : condition
  · rw [dif_pos holds]
    exact first holds
  · rw [dif_neg holds]
    exact second holds

/-! ## Fused multiply-add -/

/-- The product of two unpacked floats before any rounding. -/
def exactProduct : UnpackedFloat → UnpackedFloat → UnpackedFloat
  | .notANumber, _ => .notANumber
  | _, .notANumber => .notANumber
  | .infinity _, .zero _ => .notANumber
  | .zero _, .infinity _ => .notANumber
  | .infinity left, .infinity right => .infinity (left * right)
  | .infinity left, .finite right .. => .infinity (left * right)
  | .finite left .., .infinity right => .infinity (left * right)
  | .zero left, .zero right => .zero (left * right)
  | .zero left, .finite right .. => .zero (left * right)
  | .finite left .., .zero right => .zero (left * right)
  | .finite left mantissa exponent positive, .finite right mantissa' exponent' positive' =>
      .finite (left * right) (mantissa * mantissa') (exponent + exponent')
        (Nat.mul_pos positive positive')

/-- `left * right + addend`, rounded once. -/
def fusedMulAdd (left right addend : Float32) : Float32 :=
  let product := exactProduct left.toModel.unpack right.toModel.unpack
  let sum :=
    match product, addend.toModel.unpack with
    | .finite sign mantissa exponent _, .zero _ =>
        UnpackedFloat.round Format.binary32 sign mantissa exponent
    | product, addend => UnpackedFloat.add Format.binary32 product addend
  .ofModel (.pack sum)

example : fusedMulAdd 0.5 0.5 0.75 = 1.0 := by decide +kernel

/-- A finite number is its sign, its mantissa and its exponent. -/
theorem finite_congr {sign sign' : UnpackedFloat.Sign} {mantissa mantissa' : Nat}
    {exponent exponent' : Int} {positive : 0 < mantissa} {positive' : 0 < mantissa'}
    (signs : sign = sign') (mantissas : mantissa = mantissa') (exponents : exponent = exponent') :
    UnpackedFloat.finite sign mantissa exponent positive =
      .finite sign' mantissa' exponent' positive' := by
  subst signs mantissas exponents
  rfl

/-- The exact product does not depend on the order. -/
theorem exactProduct_comm (left right : UnpackedFloat) :
    exactProduct left right = exactProduct right left := by
  have signs : ∀ first second : UnpackedFloat.Sign, first * second = second * first := by
    intro first second
    cases first <;> cases second <;> rfl
  cases left with
  | notANumber => cases right <;> rfl
  | infinity sign =>
      cases right with
      | notANumber | zero _ => rfl
      | infinity sign' | finite sign' _ _ _ =>
          exact congrArg UnpackedFloat.infinity (signs sign sign')
  | zero sign =>
      cases right with
      | notANumber | infinity _ => rfl
      | zero sign' | finite sign' _ _ _ => exact congrArg UnpackedFloat.zero (signs sign sign')
  | finite sign mantissa exponent _ =>
      cases right with
      | notANumber => rfl
      | infinity sign' => exact congrArg UnpackedFloat.infinity (signs sign sign')
      | zero sign' => exact congrArg UnpackedFloat.zero (signs sign sign')
      | finite sign' mantissa' exponent' _ =>
          exact finite_congr (signs sign sign') (Nat.mul_comm mantissa mantissa')
            (Int.add_comm exponent exponent')

/-- The factors of a fused multiply-add may be swapped. -/
theorem fusedMulAdd_comm (left right addend : Float32) :
    fusedMulAdd left right addend = fusedMulAdd right left addend := by
  unfold fusedMulAdd
  rw [exactProduct_comm]

/-- Restrict a value to an interval; a NaN stays a NaN. -/
def clamp (value low high : Float32) : Float32 :=
  let value := if value < low then low else value
  if high < value then high else value

/-- The running sum of products, as long as every partial sum is finite. -/
def finiteDot (left right : List Float32) : Option Float32 :=
  (left.zip right).foldlM (fun sum pair =>
    let next := fusedMulAdd pair.1 pair.2 sum
    if next.isFinite then some next else none) 0.0

/-- Nor does the dot product. -/
theorem finiteDot_comm (left right : List Float32) :
    finiteDot left right = finiteDot right left := by
  unfold finiteDot
  rw [← List.zip_swap right left, List.foldlM_map]
  congr 1
  funext sum pair
  dsimp only [Prod.swap]
  rw [fusedMulAdd_comm]

/-- The Euclidean norm is finite and within `tolerance` of one. -/
def UnitNorm (tolerance : Float32) (values : List Float32) : Prop :=
  match finiteDot values values with
  | none => False
  | some squaredNorm => ¬ tolerance < (squaredNorm.sqrt - 1.0).abs

instance (tolerance : Float32) (values : List Float32) : Decidable (UnitNorm tolerance values) := by
  unfold UnitNorm
  exact match finiteDot values values with
    | none => isFalse id
    | some squaredNorm => inferInstanceAs (Decidable (¬ _))

/-! ## Comparisons -/

/-- Comparing the other way round swaps the answer. -/
theorem unpacked_compare_swap {left right : UnpackedFloat} {order : Ordering}
    (compared : left.compare right = some order) : right.compare left = some order.swap := by
  cases left with
  | notANumber => cases compared
  | infinity sign =>
      cases right with
      | notANumber => cases sign <;> cases compared
      | infinity sign' =>
          cases sign <;> cases sign' <;> (cases compared; rfl)
      | zero sign' => cases sign <;> (cases compared; rfl)
      | finite sign' mantissa exponent positive => cases sign <;> (cases compared; rfl)
  | zero sign =>
      cases right with
      | notANumber => cases compared
      | infinity sign' => cases sign' <;> (cases compared; rfl)
      | zero sign' => cases compared; rfl
      | finite sign' mantissa exponent positive => cases sign' <;> (cases compared; rfl)
  | finite sign mantissa exponent positive =>
      cases right with
      | notANumber => cases sign <;> cases compared
      | infinity sign' => cases sign <;> cases sign' <;> (cases compared; rfl)
      | zero sign' => cases sign <;> (cases compared; rfl)
      | finite sign' mantissa' exponent' positive' =>
          have exponents : compare exponent' exponent = (compare exponent exponent').swap :=
            Std.OrientedOrd.eq_swap
          have mantissas : compare mantissa' mantissa = (compare mantissa mantissa').swap :=
            Std.OrientedOrd.eq_swap
          have magnitudes : (compare exponent' exponent).then (compare mantissa' mantissa) =
              ((compare exponent exponent').then (compare mantissa mantissa')).swap := by
            rw [exponents, mantissas, Ordering.swap_then]
          cases sign with
          | positive =>
              cases sign' with
              | positive =>
                  cases compared
                  exact congrArg some magnitudes
              | negative =>
                  cases compared
                  rfl
          | negative =>
              cases sign' with
              | positive =>
                  cases compared
                  rfl
              | negative =>
                  cases compared
                  exact congrArg (fun order => some order.swap) magnitudes

/-- Two values that are not NaN are comparable. -/
theorem unpacked_compare_some {left right : UnpackedFloat} (first : left.isNaN = false)
    (second : right.isNaN = false) : ∃ order, left.compare right = some order := by
  cases left with
  | notANumber => cases first
  | infinity sign =>
      cases right with
      | notANumber => cases second
      | infinity sign' => exact ⟨_, rfl⟩
      | zero sign' => cases sign <;> exact ⟨_, rfl⟩
      | finite sign' mantissa exponent positive => cases sign <;> exact ⟨_, rfl⟩
  | zero sign =>
      cases right with
      | notANumber => cases second
      | infinity sign' => cases sign' <;> exact ⟨_, rfl⟩
      | zero sign' => exact ⟨_, rfl⟩
      | finite sign' mantissa exponent positive => cases sign' <;> exact ⟨_, rfl⟩
  | finite sign mantissa exponent positive =>
      cases right with
      | notANumber => cases second
      | infinity sign' => cases sign <;> cases sign' <;> exact ⟨_, rfl⟩
      | zero sign' => cases sign <;> exact ⟨_, rfl⟩
      | finite sign' mantissa' exponent' positive' =>
          cases sign <;> cases sign' <;> exact ⟨_, rfl⟩

/-- A finite number is a number. -/
theorem unpacked_isNaN_of_isFinite {value : UnpackedFloat} (finite : value.isFinite = true) :
    value.isNaN = false := by
  cases value with
  | notANumber => cases finite
  | infinity _ | zero _ | finite _ _ _ _ => rfl

/-- So is a finite single. -/
theorem isNaN_of_isFinite {value : Float32} (finite : value.isFinite = true) :
    value.toModel.unpack.isNaN = false :=
  unpacked_isNaN_of_isFinite finite

/-- Of two values that are no NaN one is at least the other. -/
theorem float_le_of_isNaN {left right : Float32} (first : left.toModel.unpack.isNaN = false)
    (second : right.toModel.unpack.isNaN = false) (below : ¬ left < right) : right ≤ left := by
  obtain ⟨order, compared⟩ := unpacked_compare_some first second
  have swapped := unpacked_compare_swap compared
  have strict : ¬ UnpackedFloat.lt left.toModel.unpack right.toModel.unpack = true := by
    intro less
    exact below (decide_eq_true less)
  have loose : UnpackedFloat.le right.toModel.unpack left.toModel.unpack = true := by
    unfold UnpackedFloat.le
    unfold UnpackedFloat.lt at strict
    rw [swapped]
    rw [compared] at strict
    cases order with
    | lt => exact absurd rfl strict
    | eq => rfl
    | gt => rfl
  exact decide_eq_true loose

/-- Finite singles are ordered totally. -/
theorem float_le_of_not_lt {left right : Float32} (first : left.isFinite = true)
    (second : right.isFinite = true) (below : ¬ left < right) : right ≤ left :=
  float_le_of_isNaN (isNaN_of_isFinite first) (isNaN_of_isFinite second) below

/-- A value is not below one that it is at least. -/
theorem float_not_lt_of_le {left right : Float32} (above : right ≤ left) : ¬ left < right := by
  have loose : UnpackedFloat.le right.toModel.unpack left.toModel.unpack = true :=
    of_decide_eq_true above
  intro less
  have strict : UnpackedFloat.lt left.toModel.unpack right.toModel.unpack = true :=
    of_decide_eq_true less
  unfold UnpackedFloat.le at loose
  unfold UnpackedFloat.lt at strict
  rw [unpacked_compare_swap (beq_iff_eq.mp strict)] at loose
  cases loose

/-- Not below is the same as at least. -/
theorem float_not_lt_iff {left right : Float32} (first : left.isFinite = true)
    (second : right.isFinite = true) : ¬ left < right ↔ right ≤ left :=
  ⟨float_le_of_not_lt first second, float_not_lt_of_le⟩

/-! ## Numbers -/

/-- Rounding gives a finite number. -/
theorem isFinite_round (spec : Format) (sign : UnpackedFloat.Sign) (mantissa : Nat)
    (exponent : Int) :
    (UnpackedFloat.round spec sign mantissa exponent).isFinite = true := by
  unfold UnpackedFloat.round UnpackedFloat.roundWithAccuracy
  dsimp only
  apply diteInduction (motive := fun value => UnpackedFloat.isFinite value = true)
  · exact fun _ => rfl
  · exact fun _ => rfl

/-- Adding finite numbers gives one. -/
theorem isFinite_add {spec : Format} {left right : UnpackedFloat} (first : left.isFinite = true)
    (second : right.isFinite = true) : (UnpackedFloat.add spec left right).isFinite = true := by
  cases left with
  | notANumber | infinity _ => cases first
  | zero sign =>
      cases right with
      | notANumber | infinity _ => cases second
      | zero sign' =>
          unfold UnpackedFloat.add
          dsimp only
          split <;> rfl
      | finite => exact second
  | finite sign mantissa exponent positive =>
      cases right with
      | notANumber | infinity _ => cases second
      | zero sign' => exact first
      | finite sign' mantissa' exponent' positive' =>
          unfold UnpackedFloat.add UnpackedFloat.normalize
          dsimp only
          split
          · exact isFinite_round ..
          · rfl
          · exact isFinite_round ..

/-- So does multiplying them exactly. -/
theorem isFinite_exactProduct {left right : UnpackedFloat} (first : left.isFinite = true)
    (second : right.isFinite = true) : (exactProduct left right).isFinite = true := by
  cases left with
  | notANumber | infinity _ => cases first
  | zero _ | finite _ _ _ _ =>
      cases right with
      | notANumber | infinity _ => cases second
      | zero _ | finite _ _ _ _ => rfl

/-- Bits whose exponent is not all ones are a number. -/
theorem isFinite_unpack_of_exponent {spec : Format} {bits : BitVec spec.numBits}
    (exponent : UnpackedFloat.unpackExponent bits ≠ -1#_) :
    (UnpackedFloat.unpack spec bits).isFinite = true := by
  unfold UnpackedFloat.unpack
  dsimp only
  rw [if_neg exponent]
  by_cases subnormal : UnpackedFloat.unpackExponent bits = 0#_
  · rw [if_pos subnormal]
    by_cases zero : UnpackedFloat.unpackMantissa bits = 0#_
    · rw [dif_pos zero]
      rfl
    · rw [dif_neg zero]
      rfl
  · rw [if_neg subnormal]
    rfl

/-- An infinity is a number. -/
theorem isNaN_packedInfinity (spec : Format) (sign : UnpackedFloat.Sign) :
    (UnpackedFloat.unpack spec (UnpackedFloat.packedInfinity spec sign)).isNaN = false := by
  unfold UnpackedFloat.unpack UnpackedFloat.packedInfinity
  dsimp only
  have mantissa : UnpackedFloat.unpackMantissa (UnpackedFloat.packComponents spec sign (-1#_) 0) =
      BitVec.ofNat spec.mantissaBitsWithoutImplicit 0 := UnpackedFloat.unpackMantissa_packComponents
  rw [if_pos UnpackedFloat.unpackExponent_packComponents, if_pos mantissa]
  rfl

/-- Packing makes no NaN of a number. -/
theorem isNaN_pack {value : UnpackedFloat} (finite : value.isFinite = true) :
    (Float32.Model.pack value).unpack.isNaN = false := by
  change (UnpackedFloat.unpack Format.binary32
    (UnpackedFloat.pack Format.binary32 value)).isNaN = false
  have zeros : (0#8 : BitVec 8) ≠ -1#8 := by decide
  cases value with
  | notANumber | infinity _ => cases finite
  | zero sign =>
      apply unpacked_isNaN_of_isFinite (isFinite_unpack_of_exponent _)
      unfold UnpackedFloat.pack UnpackedFloat.packedZero
      rw [UnpackedFloat.unpackExponent_packComponents]
      exact zeros
  | finite sign mantissa exponent positive =>
      unfold UnpackedFloat.pack
      dsimp only
      split
      · exact isNaN_packedInfinity ..
      · next small =>
          apply unpacked_isNaN_of_isFinite (isFinite_unpack_of_exponent _)
          split
          · rw [UnpackedFloat.unpackExponent_packComponents]
            intro full
            have value := congrArg BitVec.toNat full
            change _ % 256 = 255 at value
            change ¬ 256 ≤ _ at small
            omega
          · rw [UnpackedFloat.unpackExponent_packComponents]
            exact zeros

/-- A fused multiply-add of numbers is no NaN. -/
theorem isNaN_fusedMulAdd {left right addend : Float32} (first : left.isFinite = true)
    (second : right.isFinite = true) (third : addend.isFinite = true) :
    (fusedMulAdd left right addend).toModel.unpack.isNaN = false := by
  have product := isFinite_exactProduct (show left.toModel.unpack.isFinite = true from first)
    (show right.toModel.unpack.isFinite = true from second)
  have added : addend.toModel.unpack.isFinite = true := third
  unfold fusedMulAdd
  apply isNaN_pack
  split
  · exact isFinite_round ..
  · exact isFinite_add product added

/-- Clamping between finite bounds gives a finite single. -/
theorem isFinite_clamp {value low high : Float32} (first : value.isFinite = true)
    (second : low.isFinite = true) (third : high.isFinite = true) :
    (clamp value low high).isFinite = true := by
  unfold clamp
  dsimp only
  split <;> split <;> assumption

/-- The smaller of two values; of a NaN and another value, the other. -/
def floatMin (left right : Float32) : Float32 :=
  if left.isNaN then right else if right.isNaN then left else if right < left then right else left

/-- The larger of two values; of a NaN and another value, the other. -/
def floatMax (left right : Float32) : Float32 :=
  if left.isNaN then right else if right.isNaN then left else if left < right then right else left

/-- The lesser is one of the two. -/
theorem floatMin_eq_or (left right : Float32) :
    floatMin left right = left ∨ floatMin left right = right := by
  unfold floatMin
  split
  · exact .inr rfl
  · split
    · exact .inl rfl
    · split
      · exact .inr rfl
      · exact .inl rfl

/-- The greater is one of the two. -/
theorem floatMax_eq_or (left right : Float32) :
    floatMax left right = left ∨ floatMax left right = right := by
  unfold floatMax
  split
  · exact .inr rfl
  · split
    · exact .inl rfl
    · split
      · exact .inr rfl
      · exact .inl rfl

/-- A fold that chooses one of two values at each step yields one of the values. -/
theorem foldl_mem {Value : Type} {choose : Value → Value → Value}
    (chooses : ∀ left right, choose left right = left ∨ choose left right = right)
    (first : Value) (rest : List Value) : rest.foldl choose first ∈ first :: rest := by
  induction rest generalizing first with
  | nil => exact List.mem_cons_self
  | cons second rest ih =>
      rw [List.foldl_cons]
      have member := ih (choose first second)
      rw [List.mem_cons] at member
      rcases member with same | later
      · rw [same]
        rcases chooses first second with left | right
        · rw [left]
          exact List.mem_cons_self
        · rw [right]
          exact List.mem_cons_of_mem _ List.mem_cons_self
      · exact List.mem_cons_of_mem _ (List.mem_cons_of_mem _ later)

/-! ## Bit patterns -/

instance decidableValid (pattern : BitVec Format.binary32.numBits) :
    Decidable (Format.binary32.Valid pattern) :=
  decidable_of_iff (UnpackedFloat.unpackExponent pattern = (-1#_) →
    UnpackedFloat.unpackMantissa pattern ≠ 0#_ →
      pattern = UnpackedFloat.packedNaN Format.binary32)
    ⟨fun canonical => ⟨canonical⟩, fun valid => valid.eq_packedNaN⟩

/-- The bit pattern of a value. -/
def floatBits (value : Float32) : UInt32 := value.toModel.toBits

/-- The value of a bit pattern that encodes one. -/
def floatFromBits (bits : UInt32) : Option Float32 :=
  if valid : Format.binary32.Valid bits.toBitVec then some (.ofModel ⟨bits, valid⟩) else none

/-- A single is read back from its bits. -/
theorem floatFromBits_floatBits (value : Float32) :
    floatFromBits (floatBits value) = some value :=
  dif_pos value.toModel.valid

/-- Singles differ in their bits. -/
theorem floatBits_injective : Function.Injective floatBits := by
  intro left right same
  have decoded := floatFromBits_floatBits left
  rw [same, floatFromBits_floatBits, Option.some.injEq] at decoded
  exact decoded.symm

/-- The place of a value in the total order of all bit patterns. -/
def totalOrderKey (value : Float32) : Int :=
  let bits := (floatBits value).toNat
  if bits < 2_147_483_648 then bits else 2_147_483_647 - bits

/-- Compare by the total order, in which a zero with a sign is below one without. -/
def totalCmp (left right : Float32) : Ordering := compare (totalOrderKey left) (totalOrderKey right)

example : totalCmp (-0.0) 0.0 = .lt ∧ totalCmp 0.85 0.95 = .lt ∧ totalCmp (-2.0) (-1.0) = .lt := by
  decide +kernel

/-- Singles differ in their place in the total order. -/
theorem totalOrderKey_injective : Function.Injective totalOrderKey := by
  intro left right same
  apply floatBits_injective
  apply UInt32.toNat_inj.mp
  unfold totalOrderKey at same
  dsimp only at same
  split at same <;> split at same <;> omega

end Foundation
