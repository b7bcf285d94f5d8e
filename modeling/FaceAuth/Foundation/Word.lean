import Mathlib.Data.Nat.Basic

/-!
# Unsigned words with checked and saturating arithmetic

Unsigned machine integers are natural numbers. Operations that can leave the
range of their word say what happens there.
-/

namespace Foundation

/-- The largest number of 64 bits. -/
def U64_MAX : Nat := 18_446_744_073_709_551_615

/-- The largest number of 16 bits. -/
def U16_MAX : Nat := 65_535

/-- The largest number of 8 bits. -/
def U8_MAX : Nat := 255

/-- Addition that fails beyond the largest word. -/
def checkedAdd (maximum left right : Nat) : Option Nat :=
  if left + right ≤ maximum then some (left + right) else none

/-- Addition that stops at the largest word. -/
def saturatingAdd (maximum left right : Nat) : Nat := min (left + right) maximum

/-- Distance between two words. -/
def absDiff (left right : Nat) : Nat := if left ≤ right then right - left else left - right

/-- A sum is taken exactly when it fits. -/
theorem checkedAdd_eq_some_iff {maximum left right result : Nat} :
    checkedAdd maximum left right = some result ↔
      left + right ≤ maximum ∧ result = left + right := by
  unfold checkedAdd
  split
  · rename_i fits
    rw [Option.some.injEq]
    exact ⟨fun same => ⟨fits, same.symm⟩, fun parts => parts.2.symm⟩
  · rename_i wide
    exact ⟨fun impossible => (by cases impossible), fun parts => absurd parts.1 wide⟩

/-- A sum is refused exactly when it does not fit. -/
theorem checkedAdd_eq_none_iff {maximum left right : Nat} :
    checkedAdd maximum left right = none ↔ maximum < left + right := by
  unfold checkedAdd
  split
  · rename_i fits
    exact ⟨fun impossible => (by cases impossible), fun wide => absurd fits (Nat.not_le.mpr wide)⟩
  · rename_i wide
    exact ⟨fun _ => Nat.lt_of_not_le wide, fun _ => rfl⟩

/-- Two numbers are close when neither is much larger. -/
theorem absDiff_le_iff {left right bound : Nat} :
    absDiff left right ≤ bound ↔ left ≤ right + bound ∧ right ≤ left + bound := by
  unfold absDiff
  split <;> omega

end Foundation
