import Mathlib.Logic.Function.Basic
import FaceAuth.Foundation.Check
import FaceAuth.Foundation.Word

/-!
# Versioned cells with tombstones

A keyed store whose cells count their own mutations. A cell that was removed
keeps its version, so that a version is never given out twice. A conditional
mutation names the version that it expects to find.
-/

namespace Foundation.Versioned

variable {Key Value Error : Type}

/-- What a key holds: nothing yet, a value, or the version of its removal. -/
inductive Cell (Value : Type) where
  | vacant
  | live (version : Nat) (value : Value)
  | removed (version : Nat)
deriving DecidableEq, Repr

/-- Number of mutations behind a cell. -/
def Cell.version : Cell Value → Nat
  | .vacant => 0
  | .live version _ => version
  | .removed version => version

/-- The value of a cell that has one. -/
def Cell.value : Cell Value → Option Value
  | .live _ value => some value
  | .vacant | .removed _ => none

/-- The version of a live cell. -/
@[simp] theorem Cell.version_live (version : Nat) (value : Value) :
    (Cell.live version value).version = version := rfl

/-- A mutation of one cell. -/
inductive Mutation (Value : Type) where
  | put (value : Value)
  | replace (expected : Nat) (value : Value)
  | remove (expected : Option Nat)
deriving DecidableEq, Repr

/-- The version that a conditional mutation insists on. -/
def Mutation.expected : Mutation Value → Option Nat
  | .put _ => none
  | .replace expected _ => some expected
  | .remove expected => expected

/-- The value that a mutation writes. -/
def Mutation.value : Mutation Value → Option Value
  | .put value => some value
  | .replace _ value => some value
  | .remove _ => none

/-- The cell that a mutation leaves when it succeeds. -/
def Mutation.result (version : Nat) : Mutation Value → Cell Value
  | .put value => .live version value
  | .replace _ value => .live version value
  | .remove _ => .removed version

/-- The version that a mutation leaves. -/
@[simp] theorem Mutation.version_result (version : Nat) (mutation : Mutation Value) :
    (mutation.result version).version = version := by
  cases mutation <;> rfl

/-- A mutation without a value leaves a tombstone. -/
theorem Mutation.result_of_value_none {mutation : Mutation Value} (removes : mutation.value = none)
    (version : Nat) : mutation.result version = .removed version := by
  cases mutation with
  | put value => cases removes
  | replace expected value => cases removes
  | remove expected => rfl

/-- Why a mutation was refused. -/
inductive Refusal (Error : Type) where
  | rejected (error : Error)
  | stale (expected actual : Nat)
  | absent (last : Option Nat)
  | exhausted
deriving DecidableEq, Repr

/-- The version of a live cell. -/
def held : Cell Value → Except (Refusal Error) Nat
  | .live version _ => .ok version
  | .removed version => .error (.absent (some version))
  | .vacant => .error (.absent none)

/-- The version after one more mutation. -/
def advance (maximum version : Nat) : Except (Refusal Error) Nat :=
  (checkedAdd maximum version 1).elim (.error .exhausted) .ok

variable (maximum : Nat) (check : Value → Except Error Unit)

/-- The new version and cell, or the reason for a refusal. -/
def next (cell : Cell Value) : Mutation Value → Except (Refusal Error) (Nat × Cell Value)
  | .put value => do
      (check value).mapError .rejected
      let version ← advance maximum cell.version
      .ok (version, .live version value)
  | .replace expected value => do
      (check value).mapError .rejected
      let actual ← held cell
      require (actual = expected) (.stale expected actual)
      let version ← advance maximum actual
      .ok (version, .live version value)
  | .remove expected => do
      let actual ← held cell
      require (expected.all (· = actual) = true) (.stale (expected.getD actual) actual)
      let version ← advance maximum actual
      .ok (version, .removed version)

/-- The condition under which a mutation succeeds. -/
def Enabled (cell : Cell Value) (mutation : Mutation Value) : Prop :=
  (∀ value, mutation.value = some value → check value = .ok ()) ∧ cell.version < maximum ∧
    match mutation with
    | .put _ => True
    | .replace expected _ => ∃ value, cell = .live expected value
    | .remove none => ∃ version value, cell = .live version value
    | .remove (some expected) => ∃ value, cell = .live expected value

/-- One mutation against one key. -/
def step [DecidableEq Key] (cells : Key → Cell Value) (call : Key × Mutation Value) :
    Except (Refusal Error) Nat × (Key → Cell Value) :=
  match next maximum check (cells call.1) call.2 with
  | .ok (version, cell) => (.ok version, Function.update cells call.1 cell)
  | .error refusal => (.error refusal, cells)

/-- A value is held by a live cell. -/
theorem held_eq_ok_iff {cell : Cell Value} {version : Nat} :
    (held cell : Except (Refusal Error) Nat) = .ok version ↔
      ∃ value, cell = .live version value := by
  cases cell with
  | live found value =>
      refine ⟨fun same => ⟨value, ?_⟩, fun ⟨_, same⟩ => ?_⟩
      · cases same
        rfl
      · cases same
        rfl
  | vacant => exact ⟨fun same => (by cases same), fun ⟨_, same⟩ => (by cases same)⟩
  | removed found => exact ⟨fun same => (by cases same), fun ⟨_, same⟩ => (by cases same)⟩

/-- A version advances by one, up to its bound. -/
theorem advance_eq_ok_iff {maximum version result : Nat} :
    (advance maximum version : Except (Refusal Error) Nat) = .ok result ↔
      version < maximum ∧ result = version + 1 := by
  have added : checkedAdd maximum version 1 = some result ↔
      version + 1 ≤ maximum ∧ result = version + 1 := checkedAdd_eq_some_iff
  unfold advance
  cases sum : checkedAdd maximum version 1 with
  | none =>
      rw [sum] at added
      refine ⟨fun same => (by cases same), fun parts => ?_⟩
      exact absurd (added.mpr ⟨parts.1, parts.2⟩) (by simp)
  | some found =>
      rw [sum, Option.some.injEq] at added
      rw [Option.elim_some, Except.ok.injEq, added, Nat.succ_le_iff]

section Next

variable {maximum check}

/-- A mutation succeeds exactly when it is enabled, and raises the version by one. -/
theorem next_eq_ok_iff {cell result : Cell Value} {mutation : Mutation Value} {version : Nat} :
    next maximum check cell mutation = .ok (version, result) ↔
      Enabled maximum check cell mutation ∧ version = cell.version + 1 ∧
        result = mutation.result version := by
  cases mutation with
  | put value =>
      simp only [next, mapError_eq_ok_iff, bind_eq_ok_iff,
        advance_eq_ok_iff, Except.ok.injEq, Prod.mk.injEq, Enabled, Mutation.value,
        Mutation.result, Option.some.injEq]
      constructor
      · rintro ⟨_, checked, found, ⟨room, rfl⟩, rfl, rfl⟩
        exact ⟨⟨fun _ same => same ▸ checked, room, trivial⟩, rfl, rfl⟩
      · rintro ⟨⟨checked, room, -⟩, rfl, rfl⟩
        exact ⟨(), checked value rfl, _, ⟨room, rfl⟩, rfl, rfl⟩
  | replace expected value =>
      simp only [next, mapError_eq_ok_iff, bind_eq_ok_iff,
        held_eq_ok_iff, require_eq_ok_iff, advance_eq_ok_iff, Except.ok.injEq, Prod.mk.injEq,
        Enabled, Mutation.value, Mutation.result, Option.some.injEq]
      constructor
      · rintro ⟨_, checked, _, ⟨old, rfl⟩, _, rfl, found, ⟨room, rfl⟩, rfl, rfl⟩
        exact ⟨⟨fun _ same => same ▸ checked, room, old, rfl⟩, rfl, rfl⟩
      · rintro ⟨⟨checked, room, old, rfl⟩, rfl, rfl⟩
        exact ⟨(), checked value rfl, expected, ⟨old, rfl⟩, (), rfl, _, ⟨room, rfl⟩, rfl, rfl⟩
  | remove expected =>
      simp only [next, bind_eq_ok_iff, held_eq_ok_iff,
        require_eq_ok_iff, advance_eq_ok_iff, Except.ok.injEq, Prod.mk.injEq, Enabled,
        Mutation.value, Mutation.result]
      constructor
      · rintro ⟨actual, ⟨old, rfl⟩, _, agrees, found, ⟨room, rfl⟩, rfl, rfl⟩
        refine ⟨⟨fun _ same => (by cases same), room, ?_⟩, rfl, rfl⟩
        cases expected with
        | none => exact ⟨actual, old, rfl⟩
        | some version =>
            have same : version = actual := of_decide_eq_true agrees
            exact ⟨old, by rw [same]⟩
      · rintro ⟨⟨-, room, present⟩, rfl, rfl⟩
        cases expected with
        | none =>
            obtain ⟨actual, old, rfl⟩ := present
            exact ⟨actual, ⟨old, rfl⟩, (), rfl, _, ⟨room, rfl⟩, rfl, rfl⟩
        | some actual =>
            obtain ⟨old, rfl⟩ := present
            exact ⟨actual, ⟨old, rfl⟩, (), decide_eq_true rfl, _, ⟨room, rfl⟩, rfl, rfl⟩

/-- A conditional mutation is enabled exactly by a live cell of its version. -/
theorem enabled_iff_of_expected {cell : Cell Value} {mutation : Mutation Value} {expected : Nat}
    (insists : mutation.expected = some expected)
    (checked : ∀ value, mutation.value = some value → check value = .ok ()) :
    Enabled maximum check cell mutation ↔
      expected < maximum ∧ ∃ value, cell = .live expected value := by
  cases mutation with
  | put value => cases insists
  | replace wanted value =>
      cases insists
      constructor
      · rintro ⟨-, room, old, rfl⟩
        exact ⟨room, old, rfl⟩
      · rintro ⟨room, old, rfl⟩
        exact ⟨checked, room, old, rfl⟩
  | remove wanted =>
      cases insists
      constructor
      · rintro ⟨-, room, old, rfl⟩
        exact ⟨room, old, rfl⟩
      · rintro ⟨room, old, rfl⟩
        exact ⟨checked, room, old, rfl⟩

end Next

section Step

variable [DecidableEq Key] {maximum check} {cells : Key → Cell Value}
  {call : Key × Mutation Value}

/-- A mutation that is done changes its cell only. -/
theorem step_of_ok {version : Nat} {cell : Cell Value}
    (done : next maximum check (cells call.1) call.2 = .ok (version, cell)) :
    step maximum check cells call = (.ok version, Function.update cells call.1 cell) := by
  rw [step, done]

/-- A mutation that is refused changes nothing. -/
theorem step_of_error {refusal : Refusal Error}
    (refused : next maximum check (cells call.1) call.2 = .error refusal) :
    step maximum check cells call = (.error refusal, cells) := by
  rw [step, refused]

end Step

end Foundation.Versioned
