import FaceAuth.Foundation.Check

/-!
# Machine arithmetic

Fixed-width numbers overflow, indices lie outside of their lists, and conversions
fail. A computation that names each of these faults stops with one, or ends with the
value that exact arithmetic gives.
-/

namespace Foundation

/-- A sequence fails with its first half, or after it. -/
theorem bind_eq_error_iff {Error Value Next : Type} {first : Except Error Value}
    {next : Value → Except Error Next} {error : Error} :
    first >>= next = .error error ↔
      first = .error error ∨ ∃ value, first = .ok value ∧ next value = .error error := by
  cases first with
  | error other =>
      constructor
      · intro fails
        cases fails
        exact .inl rfl
      · rintro (same | ⟨value, impossible, -⟩)
        · cases same
          rfl
        · cases impossible
  | ok value =>
      refine ⟨fun fails => .inr ⟨value, rfl, fails⟩, ?_⟩
      rintro (impossible | ⟨other, same, fails⟩)
      · cases impossible
      · cases same
        exact fails

/-- What can go wrong with machine numbers. -/
inductive Fault where
  | overflow
  | outOfBounds
  | dividedByZero
  | narrowed
deriving DecidableEq, Repr

/-- A fault, or an error that the computation itself reports. -/
inductive Stop (Error : Type) where
  | fault (fault : Fault)
  | error (error : Error)
deriving DecidableEq, Repr

/-- Computations that stop with faults and with errors. -/
abbrev Machine (Error Value : Type) : Type := Except (Stop Error) Value

namespace Machine

variable {Error Value Next : Type}

/-- End with a fault. -/
def stop (fault : Fault) : Machine Error Value := .error (.fault fault)

/-- A step that reports errors, but has no faults. -/
def lift (step : Except Error Value) : Machine Error Value := step.mapError .error

/-- An unsigned number of at most a maximum. -/
def unsigned (maximum value : Nat) : Machine Error Nat :=
  if value ≤ maximum then .ok value else stop .overflow

/-- The difference of two unsigned numbers. -/
def subtract (left right : Nat) : Machine Error Nat :=
  if right ≤ left then .ok (left - right) else stop .overflow

/-- A signed number of at most a magnitude. -/
def signed (magnitude : Nat) (value : Int) : Machine Error Int :=
  if -magnitude - 1 ≤ value ∧ value ≤ magnitude then .ok value else stop .overflow

/-- The items from a first index to before a last one. -/
def slice (items : List Value) (first last : Nat) : Machine Error (List Value) :=
  if first ≤ last ∧ last ≤ items.length then .ok ((items.take last).drop first)
  else stop .outOfBounds

/-- The item at an index. -/
def item (items : List Value) (index : Nat) : Machine Error Value :=
  match items[index]? with
  | some value => .ok value
  | none => stop .outOfBounds

/-- Conversions to an unsigned number of at most a maximum, with a default. -/
abbrev Narrowing (Error : Type) : Type := Nat → Nat → Int → Machine Error Nat

/-- The conversion that falls back to its default. -/
def narrowOr : Narrowing Error := fun maximum default value =>
  .ok (if 0 ≤ value ∧ value ≤ maximum then value.toNat else default)

/-- The conversion that stops where the other one falls back. -/
def narrowExactly : Narrowing Error := fun maximum _ value =>
  if 0 ≤ value ∧ value ≤ maximum then .ok value.toNat else stop .narrowed

/-- Numbers that fit are converted as they are. -/
def Converts (narrow : Narrowing Error) : Prop :=
  ∀ {maximum default : Nat} {value : Int}, 0 ≤ value → value ≤ maximum →
    narrow maximum default value = .ok value.toNat

/-- A number that does not fit is refused. -/
theorem converts_narrowOr : Converts (narrowOr : Narrowing Error) := by
  intro maximum default value least most
  rw [narrowOr, if_pos ⟨least, most⟩]

/-- A number that does not fit is a fault. -/
theorem converts_narrowExactly : Converts (narrowExactly : Narrowing Error) :=
  fun least most => if_pos ⟨least, most⟩

/-- A value is handed on. -/
@[simp] theorem ok_bind {value : Value} {next : Value → Machine Error Next} :
    (Except.ok value : Machine Error Value) >>= next = next value := rfl

/-- A number that fits is kept. -/
theorem unsigned_eq {maximum value : Nat} (fits : value ≤ maximum) :
    (unsigned maximum value : Machine Error Nat) = .ok value := if_pos fits

/-- A difference that is not negative is taken. -/
theorem subtract_eq {left right : Nat} (fits : right ≤ left) :
    (subtract left right : Machine Error Nat) = .ok (left - right) := if_pos fits

/-- A number is kept exactly when it fits. -/
theorem unsigned_eq_ok_iff {maximum value result : Nat} :
    (unsigned maximum value : Machine Error Nat) = .ok result ↔
      value ≤ maximum ∧ value = result := by
  unfold unsigned stop
  split <;> simp [*]

/-- A difference is taken exactly when it is not negative. -/
theorem subtract_eq_ok_iff {left right result : Nat} :
    (subtract left right : Machine Error Nat) = .ok result ↔
      right ≤ left ∧ left - right = result := by
  unfold subtract stop
  split <;> simp [*]

/-- A signed number that fits is kept. -/
theorem signed_eq {magnitude : Nat} {value : Int} (least : -magnitude - 1 ≤ value)
    (most : value ≤ magnitude) : (signed magnitude value : Machine Error Int) = .ok value :=
  if_pos ⟨least, most⟩

/-- An index in bounds reads its item. -/
theorem item_eq {items : List Value} {index : Nat} {value : Value}
    (known : items[index]? = some value) :
    (item items index : Machine Error Value) = .ok value := by
  rw [item, known]

/-- A range in bounds reads its items. -/
theorem slice_eq {items : List Value} {first last : Nat} (order : first ≤ last)
    (inside : last ≤ items.length) :
    (slice items first last : Machine Error (List Value)) = .ok ((items.take last).drop first) :=
  if_pos ⟨order, inside⟩

/-- A step that succeeds does so without a fault. -/
theorem lift_eq {step : Except Error Value} {value : Value} (succeeds : step = .ok value) :
    lift step = .ok value := by
  rw [succeeds]
  rfl

/-- A check that holds passes without a fault. -/
theorem lift_require_eq {condition : Prop} [Decidable condition] {error : Error}
    (holds : condition) : lift (require condition error) = .ok () :=
  lift_eq (require_eq_ok_iff.mpr holds)

/-- Steps are lifted one after the other. -/
theorem lift_bind (step : Except Error Value) (next : Value → Except Error Next) :
    lift (step >>= next) = lift step >>= fun value => lift (next value) := by
  cases step with
  | error error => rfl
  | ok value => rfl

/-- A loop whose every step succeeds from states that keep an invariant. -/
theorem foldlM_eq {State Item : Type} {step : State → Item → Machine Error State}
    {next : State → Item → State} {items : List Item} {start : State} (invariant : State → Prop)
    (holds : invariant start)
    (steps : ∀ state, invariant state → ∀ item ∈ items,
      step state item = .ok (next state item) ∧ invariant (next state item)) :
    items.foldlM step start = .ok (items.foldl next start) ∧
      invariant (items.foldl next start) := by
  induction items generalizing start with
  | nil => exact ⟨rfl, holds⟩
  | cons first rest ih =>
      obtain ⟨stepped, kept⟩ := steps start holds first List.mem_cons_self
      rw [List.foldlM_cons, stepped, ok_bind, List.foldl_cons]
      exact ih kept fun state good item member => steps state good item (.tail _ member)

/-- Sequences that go on in the same way from each value of their first half are the same. -/
theorem bind_congr_ok {first : Machine Error Value}
    {next other : Value → Machine Error Next}
    (same : ∀ value, first = .ok value → next value = other value) :
    first >>= next = first >>= other := by
  cases first with
  | error stop => rfl
  | ok value => exact same value rfl

/-- Lifting adds no success. -/
theorem lift_eq_ok_iff {step : Except Error Value} {value : Value} :
    lift step = .ok value ↔ step = .ok value := by
  cases step with
  | error error => exact ⟨nofun, nofun⟩
  | ok other => exact Iff.of_eq (by rw [lift, mapError_ok, Except.ok.injEq, Except.ok.injEq])

/-- Steps that agree on all items make one loop. -/
theorem foldlM_congr {State Item : Type} {step other : State → Item → Machine Error State}
    {items : List Item} (same : ∀ state, ∀ item ∈ items, step state item = other state item)
    (start : State) : items.foldlM step start = items.foldlM other start := by
  induction items generalizing start with
  | nil => rfl
  | cons item rest ih =>
      rw [List.foldlM_cons, List.foldlM_cons, same start item List.mem_cons_self]
      congr 1
      funext state
      exact ih (fun state item member => same state item (.tail _ member)) state

/-- No faults, only some errors, and only good values. -/
def Sound (reported : Error → Prop) (good : Value → Prop) : Machine Error Value → Prop
  | .ok value => good value
  | .error (.error error) => reported error
  | .error (.fault _) => False

namespace Sound

variable {reported : Error → Prop} {good : Value → Prop} {better : Next → Prop}
  {computation : Machine Error Value} {next : Value → Machine Error Next}

/-- Less may be said of a sound computation. -/
theorem mono {wider : Error → Prop} {weaker : Value → Prop}
    (sound : Sound reported good computation) (errors : ∀ error, reported error → wider error)
    (values : ∀ value, good value → weaker value) :
    Sound wider weaker computation := by
  cases computation with
  | ok value => exact values value sound
  | error stop =>
      cases stop with
      | fault fault => exact sound
      | error error => exact errors error sound

/-- Two sound parts are sound together. -/
theorem bind (sound : Sound reported good computation)
    (steps : ∀ value, good value → Sound reported better (next value)) :
    Sound reported better (computation >>= next) := by
  cases computation with
  | ok value => exact steps value sound
  | error stop =>
      cases stop with
      | fault fault => exact sound
      | error error => exact sound

/-- A lifted step is sound when its results are. -/
theorem lift {step : Except Error Value} (values : ∀ value, step = .ok value → good value)
    (errors : ∀ error, step = .error error → reported error) :
    Sound reported good (Machine.lift step) := by
  cases step with
  | ok value => exact values value rfl
  | error error => exact errors error rfl

/-- A sound computation that reports no errors has a good value. -/
theorem exists_ok (sound : Sound reported good computation) (never : ∀ error, ¬ reported error) :
    ∃ value, computation = .ok value ∧ good value := by
  cases computation with
  | ok value => exact ⟨value, rfl, sound⟩
  | error stop =>
      cases stop with
      | fault fault => exact sound.elim
      | error error => exact (never error sound).elim

/-- A loop whose step at each index keeps an invariant of this index. -/
theorem foldlM {State Item : Type} {step : State → Item → Machine Error State} {items : List Item}
    {start : State} (invariant : Nat → State → Prop) {first : Nat} (holds : invariant first start)
    (steps : ∀ index state, index < items.length → invariant (first + index) state →
      ∀ item ∈ items, Sound reported (invariant (first + index + 1)) (step state item)) :
    Sound reported (invariant (first + items.length)) (items.foldlM step start) := by
  induction items generalizing first start with
  | nil => exact holds
  | cons item rest ih =>
      rw [List.foldlM_cons, List.length_cons]
      apply bind (steps 0 start (Nat.succ_pos _) holds item List.mem_cons_self)
      intro state kept
      have later := @ih state (first + 1) kept
      rw [Nat.add_assoc, Nat.add_comm 1] at later
      apply later
      intro index state below kept item member
      have step := steps (index + 1) state (Nat.succ_lt_succ below)
      rw [← Nat.add_assoc, Nat.add_right_comm] at step
      exact step kept item (.tail _ member)

end Sound

end Machine

end Foundation
