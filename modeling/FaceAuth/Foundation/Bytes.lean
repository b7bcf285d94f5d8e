import Mathlib.Algebra.Group.Nat.Defs
import Mathlib.Data.Nat.Basic
import Mathlib.Data.List.Basic

/-!
# Words as bytes

Fixed-width encodings of natural numbers, least significant byte first.
-/

namespace Foundation

/-- The given number of bytes of a word, least significant first. -/
def toLeBytes : Nat → Nat → List UInt8
  | 0, _ => []
  | count + 1, value => UInt8.ofNat value :: toLeBytes count (value / 256)

/-- The word of a list of bytes, least significant first. -/
def fromLeBytes : List UInt8 → Nat
  | [] => 0
  | byte :: bytes => byte.toNat + 256 * fromLeBytes bytes

/-- A number is written in as many bytes as were asked for. -/
@[simp] theorem length_toLeBytes (count value : Nat) :
    (toLeBytes count value).length = count := by
  induction count generalizing value with
  | zero => rfl
  | succ count ih => rw [toLeBytes, List.length_cons, ih]

/-- A word that fits into its bytes reads back. -/
theorem fromLeBytes_toLeBytes {count value : Nat} (fits : value < 256 ^ count) :
    fromLeBytes (toLeBytes count value) = value := by
  induction count generalizing value with
  | zero =>
      rw [Nat.pow_zero, Nat.lt_one_iff] at fits
      rw [fits]
      rfl
  | succ count ih =>
      have quotient : value / 256 < 256 ^ count := by
        rw [Nat.pow_succ] at fits
        exact Nat.div_lt_of_lt_mul (Nat.mul_comm _ _ ▸ fits)
      have low : (UInt8.ofNat value).toNat = value % 256 := UInt8.toNat_ofNat'
      rw [toLeBytes, fromLeBytes, ih quotient, low, Nat.mod_add_div]

/-- The bytes of the word that they spell. -/
theorem toLeBytes_fromLeBytes (bytes : List UInt8) :
    toLeBytes bytes.length (fromLeBytes bytes) = bytes := by
  induction bytes with
  | nil => rfl
  | cons byte bytes ih =>
      have low := byte.toNat_lt
      have quotient : (byte.toNat + 256 * fromLeBytes bytes) / 256 = fromLeBytes bytes := by
        omega
      have first : UInt8.ofNat (byte.toNat + 256 * fromLeBytes bytes) = byte := by
        apply UInt8.toNat_inj.mp
        rw [UInt8.toNat_ofNat']
        omega
      rw [List.length_cons, toLeBytes, fromLeBytes, first, quotient, ih]

end Foundation
