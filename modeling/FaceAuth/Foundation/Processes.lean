import Mathlib.Data.List.Basic
import Mathlib.Logic.Function.Basic
import Mathlib.Logic.Relation

/-!
# Processes and their numbers

A process keeps its number until it is reaped. The number may then be that of a new process,
so a number names a process only for a while.
-/

namespace Foundation

/-- The processes in the order of their start, with the number of each, whether it was reaped,
and what it executes. One that has ended executes nothing. -/
structure Processes (Image : Type) where
  started : Nat
  number : Nat → Nat
  reaped : Nat → Bool
  image : Nat → Option Image

namespace Processes

variable {Image : Type} (table : Processes Image)

/-- The process has its number. -/
def Live (process : Nat) : Prop := process < table.started ∧ table.reaped process = false

/-- A number is that of one process at most. -/
def Distinct : Prop :=
  ∀ first second, table.Live first → table.Live second →
    table.number first = table.number second → first = second

/-- What a process does, or what is done to it. -/
inductive Happens : Processes Image → Prop where
  | fork (number : Nat) (image : Option Image)
      (free : ∀ other, table.Live other → table.number other ≠ number) :
      Happens
        ⟨table.started + 1, Function.update table.number table.started number,
          Function.update table.reaped table.started false,
          Function.update table.image table.started image⟩
  | execute (process : Nat) (image : Option Image) (running : table.image process ≠ none) :
      Happens { table with image := Function.update table.image process image }
  | reap (process : Nat) (ended : table.image process = none) :
      Happens { table with reaped := Function.update table.reaped process true }

/-- The process that has a number. -/
def find (number : Nat) : Option Nat :=
  (List.range table.started).find? fun process =>
    !table.reaped process && decide (table.number process = number)

/-- What time makes of the processes. -/
def Later : Processes Image → Processes Image → Prop := Relation.ReflTransGen Happens

variable {table} {after : Processes Image} {process number : Nat}

/-- Nothing gives a process another number, or its number back. -/
theorem Happens.kept (happens : table.Happens after) (known : process < table.started) :
    process < after.started ∧ after.number process = table.number process ∧
      (after.Live process → table.Live process) := by
  cases happens with
  | fork number image free =>
      have other : process ≠ table.started := Nat.ne_of_lt known
      refine ⟨Nat.lt_succ_of_lt known, Function.update_of_ne other .., ?_⟩
      rintro ⟨-, live⟩
      exact ⟨known, (Function.update_of_ne other ..).symm.trans live⟩
  | execute mover image running => exact ⟨known, rfl, id⟩
  | reap mover ended =>
      refine ⟨known, rfl, ?_⟩
      rintro ⟨-, live⟩
      by_cases same : process = mover
      · subst same
        dsimp only at live
        rw [Function.update_self] at live
        cases live
      · exact ⟨known, (Function.update_of_ne same ..).symm.trans live⟩

/-- Numbers stay distinct when something happens. -/
theorem Happens.distinct (happens : table.Happens after) (distinct : table.Distinct) :
    after.Distinct := by
  have known : ∀ {process}, after.Live process → process < table.started →
      table.Live process ∧ after.number process = table.number process := by
    intro process live before
    have kept := happens.kept before
    exact ⟨kept.2.2 live, kept.2.1⟩
  intro first second one two same
  cases happens with
  | fork number image free =>
      have older {process : Nat} (live : process < table.started + 1) :
          process < table.started ∨ process = table.started := by
        omega
      obtain before | rfl := older one.1
      · obtain ⟨live, kept⟩ := known one before
        obtain before' | rfl := older two.1
        · obtain ⟨live', kept'⟩ := known two before'
          exact distinct first second live live' (kept.symm.trans (same.trans kept'))
        · have taken : table.number first = number :=
            kept.symm.trans (same.trans (Function.update_self ..))
          exact (free first live taken).elim
      · obtain before' | rfl := older two.1
        · obtain ⟨live', kept'⟩ := known two before'
          have taken : table.number second = number :=
            kept'.symm.trans (same.symm.trans (Function.update_self ..))
          exact (free second live' taken).elim
        · rfl
  | execute mover image running => exact distinct first second one two same
  | reap mover ended =>
      obtain ⟨live, kept⟩ := known one one.1
      obtain ⟨live', kept'⟩ := known two two.1
      exact distinct first second live live' same

/-- A process keeps its number, and does not come back. -/
theorem Later.kept (later : table.Later after) (known : process < table.started) :
    process < after.started ∧ after.number process = table.number process ∧
      (after.Live process → table.Live process) := by
  induction later with
  | refl => exact ⟨known, rfl, id⟩
  | tail earlier happens ih =>
      obtain ⟨there, number, live⟩ := ih
      obtain ⟨last, same, back⟩ := happens.kept there
      exact ⟨last, same.trans number, fun now => live (back now)⟩

/-- Numbers are distinct later on. -/
theorem Later.distinct (later : table.Later after) (distinct : table.Distinct) :
    after.Distinct := by
  induction later with
  | refl => exact distinct
  | tail earlier happens ih => exact happens.distinct ih

/-- The process that is found is the live one with the number. -/
theorem find_eq_some_iff (distinct : table.Distinct) :
    table.find number = some process ↔ table.Live process ∧ table.number process = number := by
  have sound {process : Nat} (found : table.find number = some process) :
      table.Live process ∧ table.number process = number := by
    have member := List.mem_range.mp (List.mem_of_find?_eq_some found)
    have holds := List.find?_some found
    simp only [Bool.and_eq_true, Bool.not_eq_true', decide_eq_true_eq] at holds
    exact ⟨⟨member, holds.1⟩, holds.2⟩
  refine ⟨sound, fun ⟨live, same⟩ => ?_⟩
  cases found : table.find number with
  | none =>
      have none := List.find?_eq_none.mp found process (List.mem_range.mpr live.1)
      simp [live.2, same] at none
  | some other =>
      obtain ⟨alive, also⟩ := sound found
      rw [distinct other process alive live (also.trans same.symm)]

end Processes

end Foundation
