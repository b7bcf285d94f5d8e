import Mathlib.Data.List.Basic

/-!
# Compatibility digests

A model contract is identified by the lowercase hexadecimal SHA-256 digest of
its manifest. Text is the list of its UTF-8 bytes.
-/

namespace FaceAuth

/-- A digit, or a letter up to F of either case. -/
def isAsciiHexdigit (byte : UInt8) : Bool :=
  (48 ≤ byte && byte ≤ 57) || (65 ≤ byte && byte ≤ 70) || (97 ≤ byte && byte ≤ 102)

/-- A letter of the upper case. -/
def isAsciiUppercase (byte : UInt8) : Bool := 65 ≤ byte && byte ≤ 90

/-- Sixty-four lowercase hexadecimal digits. -/
def ValidDigest (value : List UInt8) : Prop :=
  value.length = 64 ∧ value.all isAsciiHexdigit = true ∧ value.any isAsciiUppercase = false

instance : DecidablePred ValidDigest := fun _ => inferInstanceAs (Decidable (_ ∧ _ ∧ _))

end FaceAuth
