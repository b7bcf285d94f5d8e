import Mathlib.Data.List.GetD

/-!
# One-way flags shared by address

A shared flag is allocated down, can be raised by anyone who holds its address,
and is never lowered again. A flag that was not allocated reads as down.
-/

namespace Foundation

/-- The flags allocated so far, in allocation order. -/
structure Flags where
  raised : List Bool
deriving DecidableEq, Repr

namespace Flags

/-- No flag. -/
def empty : Flags := ⟨[]⟩

/-- How many flags there are. -/
def size (flags : Flags) : Nat := flags.raised.length

/-- Read one flag. -/
def isRaised (flags : Flags) (address : Nat) : Bool := flags.raised.getD address false

/-- Allocate a flag that is down. Its address is the size before the allocation. -/
def allocate (flags : Flags) : Flags := ⟨flags.raised ++ [false]⟩

/-- Raise one flag. -/
def raise (flags : Flags) (address : Nat) : Flags := ⟨flags.raised.set address true⟩

variable (flags : Flags) (address other : Nat)

/-- One flag more. -/
@[simp] theorem size_allocate : flags.allocate.size = flags.size + 1 := by
  simp [size, allocate]

/-- Allocation changes no reading: the new flag is down. -/
@[simp] theorem isRaised_allocate : flags.allocate.isRaised address = flags.isRaised address := by
  unfold isRaised allocate
  rcases Nat.lt_trichotomy address flags.raised.length with below | same | above
  · rw [List.getD_append _ _ _ _ below]
  · subst same
    simp
  · rw [List.getD_eq_default _ _ (by simp; omega), List.getD_eq_default _ _ (by omega)]

/-- Raising twice is raising. -/
@[simp] theorem raise_raise : (flags.raise address).raise address = flags.raise address := by
  simp [raise]

/-- A flag that is not there is down. -/
theorem isRaised_of_size_le (outside : flags.size ≤ address) : flags.isRaised address = false :=
  List.getD_eq_default _ _ outside

/-- A flag that was raised is up. -/
theorem isRaised_raise_self (allocated : address < flags.size) :
    (flags.raise address).isRaised address = true := by
  unfold isRaised raise
  rw [List.getD_eq_getElem?_getD, List.getElem?_set_self allocated]
  rfl

/-- The other flags stay. -/
theorem isRaised_raise_of_ne (distinct : other ≠ address) :
    (flags.raise address).isRaised other = flags.isRaised other := by
  unfold isRaised raise
  rw [List.getD_eq_getElem?_getD, List.getElem?_set_ne (Ne.symm distinct),
    List.getD_eq_getElem?_getD]

/-- A flag that is up is there. -/
theorem lt_size_of_isRaised (raised : flags.isRaised address = true) : address < flags.size := by
  refine Nat.lt_of_not_le fun outside => ?_
  rw [isRaised_of_size_le flags address outside] at raised
  cases raised

/-- Raising is monotone: no flag goes down. -/
theorem isRaised_raise_mono (raised : flags.isRaised other = true) :
    (flags.raise address).isRaised other = true := by
  by_cases same : other = address
  · subst same
    exact isRaised_raise_self flags other (lt_size_of_isRaised flags other raised)
  · rw [isRaised_raise_of_ne flags address other same]
    exact raised

end Flags

end Foundation
