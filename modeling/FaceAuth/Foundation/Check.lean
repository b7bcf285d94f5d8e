import Mathlib.Logic.Basic

/-!
# Sequences of checks

A fallible computation fails with the error of the first check that does not
hold. Inverting a success yields the success of every check on the way.
-/

namespace Foundation

variable {Error Value Result : Type}

/-- Fail with the given error unless the condition holds. -/
def require (condition : Prop) [Decidable condition] (error : Error) : Except Error Unit :=
  if condition then .ok () else .error error

/-- A check passes when its condition holds. -/
@[simp] theorem require_eq_ok_iff {condition : Prop} [Decidable condition] {error : Error}
    {answer : Unit} : require condition error = .ok answer ↔ condition := by
  by_cases holds : condition <;> simp [require, holds]

/-- A check fails when its condition does. -/
theorem require_of_not {condition : Prop} [Decidable condition] (fails : ¬ condition)
    (error : Error) : require condition error = .error error :=
  if_neg fails

/-- A check that fails does so with its own error. -/
theorem require_eq_error_iff {condition : Prop} [Decidable condition] {error failure : Error} :
    require condition error = .error failure ↔ ¬ condition ∧ error = failure := by
  by_cases holds : condition <;> simp [require, holds]

/-- A sequence that starts with a check fails in the check or after it. -/
theorem require_bind_eq_error_iff {condition : Prop} [Decidable condition]
    {error failure : Error} {next : Unit → Except Error Result} :
    require condition error >>= next = .error failure ↔
      (¬ condition ∧ error = failure) ∨ (condition ∧ next () = .error failure) := by
  by_cases holds : condition
  · rw [require, if_pos holds]
    simp only [holds, not_true_eq_false, false_and, true_and, false_or]
    rfl
  · rw [require_of_not holds]
    simp only [holds, not_false_eq_true, true_and, false_and, or_false]
    exact Except.error.injEq error failure ▸ Iff.rfl

/-- A sequence succeeds exactly when both of its halves do. -/
theorem bind_eq_ok_iff {first : Except Error Value} {next : Value → Except Error Result}
    {result : Result} :
    first >>= next = .ok result ↔ ∃ value, first = .ok value ∧ next value = .ok result := by
  cases first with
  | error error =>
      exact ⟨fun impossible => (by cases impossible), fun ⟨_, same, _⟩ => (by cases same)⟩
  | ok value =>
      refine ⟨fun done => ⟨value, rfl, done⟩, ?_⟩
      rintro ⟨_, same, done⟩
      cases same
      exact done

/-- A check that succeeds has nothing to hand on. -/
@[simp] theorem check_bind_eq_ok_iff {first : Except Error Unit}
    {next : Unit → Except Error Result} {result : Result} :
    first >>= next = .ok result ↔ first = .ok () ∧ next () = .ok result := by
  rw [bind_eq_ok_iff]
  exact ⟨fun ⟨_, held, done⟩ => ⟨held, done⟩, fun ⟨held, done⟩ => ⟨(), held, done⟩⟩

/-- Relabelling the error keeps every success. -/
@[simp] theorem mapError_eq_ok_iff {Error' : Type} {label : Error → Error'}
    {computation : Except Error Value} {value : Value} :
    computation.mapError label = .ok value ↔ computation = .ok value := by
  cases computation with
  | error error =>
      exact ⟨fun impossible => (by cases impossible), fun impossible => (by cases impossible)⟩
  | ok found =>
      change (Except.ok found : Except Error' Value) = .ok value ↔ _
      simp only [Except.ok.injEq]

/-- A failure under a label is a labelled failure. -/
theorem mapError_eq_error {Error' : Type} {label : Error → Error'}
    {computation : Except Error Value} {failure : Error'}
    (failed : computation.mapError label = .error failure) :
    ∃ error, computation = .error error ∧ failure = label error := by
  cases computation with
  | error error => exact ⟨error, rfl, (Except.error.inj failed).symm⟩
  | ok value => cases failed

section Relabel

variable {Error' : Type} (label : Error → Error')

/-- A success needs no label. -/
@[simp] theorem mapError_ok (value : Value) :
    (Except.ok value : Except Error Value).mapError label = .ok value := rfl

/-- A sequence is relabelled by relabelling its halves. -/
theorem mapError_bind (first : Except Error Value) (next : Value → Except Error Result) :
    (first >>= next).mapError label =
      first.mapError label >>= fun value => (next value).mapError label := by
  cases first <;> rfl

/-- A check under a label fails with the labelled error. -/
theorem mapError_require (condition : Prop) [Decidable condition] (error : Error) :
    (require condition error).mapError label = require condition (label error) := by
  by_cases holds : condition <;> simp only [require, holds, if_true, if_false] <;> rfl

/-- Labels that cancel leave the computation as it was. -/
theorem mapError_mapError_cancel (unlabel : Error' → Error)
    (cancel : ∀ error, unlabel (label error) = error) (computation : Except Error Value) :
    (computation.mapError label).mapError unlabel = computation := by
  cases computation with
  | error error => exact congrArg Except.error (cancel error)
  | ok value => rfl

end Relabel

end Foundation
