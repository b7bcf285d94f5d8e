import Mathlib.Data.List.Basic

/-!
# Computations that may stop half way

A computation changes a state step by step and may fail at each of them. Its
outcome keeps the states on the way, the state it leaves and its result.
-/

namespace Foundation

/-- The result of a computation, the state it leaves, and the states it wrote on the way. -/
structure Outcome (State Error Value : Type) where
  result : Except Error Value
  state : State
  points : List State

/-- A computation that changes a state step by step. -/
def Stepwise (State Error Value : Type) : Type := State → Outcome State Error Value

namespace Stepwise

variable {State Error Value Next : Type}

instance : Monad (Stepwise State Error) where
  pure value := fun state => ⟨.ok value, state, []⟩
  bind computation next := fun state =>
    match (computation state).result with
    | .ok value =>
        let later := next value (computation state).state
        ⟨later.result, later.state, (computation state).points ++ later.points⟩
    | .error error => ⟨.error error, (computation state).state, (computation state).points⟩

/-- A step that changes nothing, and fails if a failure is given. -/
def check (failure : Option Error) : Stepwise State Error Unit :=
  fun state => ⟨failure.elim (.ok ()) .error, state, []⟩

/-- A step that writes a new state. -/
def change (update : State → State) : Stepwise State Error Unit :=
  fun state => ⟨.ok (), update state, [update state]⟩

/-- A step that looks at the state. -/
def ask (look : State → Except Error Value) : Stepwise State Error Value :=
  fun state => ⟨look state, state, []⟩

/-- A result that was found without looking at the state. -/
def ofExcept (result : Except Error Value) : Stepwise State Error Value := ask fun _ => result

/-- A step that looks at the state and writes a new one. -/
def act (step : State → Except Error Value × State) : Stepwise State Error Value :=
  fun state => ⟨(step state).1, (step state).2, [(step state).2]⟩

/-- Take a failure as the result of looking at it. -/
def recover (computation : Stepwise State Error Value)
    (look : Except Error Value → Except Error Next) : Stepwise State Error Next :=
  fun state => ⟨look (computation state).result, (computation state).state,
    (computation state).points⟩

/-- Judge what a computation returns, or its failure, in other terms. -/
def judge {Failure : Type} (computation : Stepwise State Error Value)
    (look : Except Error Value → Except Failure Next) : Stepwise State Failure Next :=
  fun state => ⟨look (computation state).result, (computation state).state,
    (computation state).points⟩

/-- Report a failure in other words. -/
def relabel {Failure : Type} (computation : Stepwise State Error Value)
    (label : Error → Failure) : Stepwise State Failure Value :=
  computation.judge (Except.mapError label)

/-- Clean up after a failure, whether the cleaning succeeds or not. -/
def cleanup (computation : Stepwise State Error Value) (clean : Stepwise State Error Unit) :
    Stepwise State Error Value :=
  fun state =>
    match (computation state).result with
    | .ok value => ⟨.ok value, (computation state).state, (computation state).points⟩
    | .error error =>
        let cleaned := clean (computation state).state
        ⟨.error error, cleaned.state, (computation state).points ++ cleaned.points⟩

/-- A computation whose failure is a value. -/
def attempt {Failure : Type} (computation : Stepwise State Error Value) :
    Stepwise State Failure (Except Error Value) :=
  fun state =>
    ⟨.ok (computation state).result, (computation state).state, (computation state).points⟩

/-- Go on after a failure with another computation. -/
def rescue {Failure : Type} (computation : Stepwise State Error Value)
    (handle : Error → Stepwise State Failure Value) : Stepwise State Failure Value :=
  attempt computation >>= fun
    | .ok value => pure value
    | .error error => handle error

/-! ## Laws -/

/-- A computation goes on from where its first part returned. -/
theorem bind_of_ok {computation : Stepwise State Error Value}
    {next : Value → Stepwise State Error Next} {state : State} {value : Value}
    (returned : (computation state).result = .ok value) :
    (computation >>= next) state =
      ⟨(next value (computation state).state).result,
        (next value (computation state).state).state,
        (computation state).points ++ (next value (computation state).state).points⟩ := by
  change (match (computation state).result with
    | .ok value => _
    | .error error => _) = _
  rw [returned]

/-- A failure of the first part is the failure of the whole. -/
theorem bind_of_error {computation : Stepwise State Error Value}
    {next : Value → Stepwise State Error Next} {state : State} {error : Error}
    (failed : (computation state).result = .error error) :
    (computation >>= next) state =
      ⟨.error error, (computation state).state, (computation state).points⟩ := by
  change (match (computation state).result with
    | .ok value => _
    | .error error => _) = _
  rw [failed]

/-- A sequence that returns went through the value of its first half. -/
theorem result_bind_eq_ok {computation : Stepwise State Error Value}
    {next : Value → Stepwise State Error Next} {state : State} {answer : Next}
    (done : ((computation >>= next) state).result = .ok answer) :
    ∃ value, (computation state).result = .ok value ∧
      (next value (computation state).state).result = .ok answer := by
  cases began : (computation state).result with
  | error error =>
      rw [bind_of_error began] at done
      cases done
  | ok value =>
      rw [bind_of_ok began] at done
      exact ⟨value, rfl, done⟩

/-- The result is that of the second part. -/
theorem result_bind_of_ok {computation : Stepwise State Error Value}
    {next : Value → Stepwise State Error Next} {state : State} {value : Value}
    (returned : (computation state).result = .ok value) :
    ((computation >>= next) state).result = (next value (computation state).state).result := by
  rw [bind_of_ok returned]

/-- The whole returns when both parts do. -/
theorem result_bind_eq_ok_iff {computation : Stepwise State Error Value}
    {next : Value → Stepwise State Error Next} {state : State} {answer : Next} :
    ((computation >>= next) state).result = .ok answer ↔
      ∃ value, (computation state).result = .ok value ∧
        (next value (computation state).state).result = .ok answer := by
  refine ⟨result_bind_eq_ok, fun ⟨value, returned, later⟩ => ?_⟩
  rw [result_bind_of_ok returned, later]

/-- What a computation returns that fails for good after its own failure. -/
theorem ok_of_rescue {Failure : Type} {computation : Stepwise State Error Value}
    {handle : Error → Stepwise State Failure Value}
    (fails : ∀ error state answer, (handle error state).result ≠ .ok answer) {state : State}
    {answer : Value} (done : (computation.rescue handle state).result = .ok answer) :
    (computation state).result = .ok answer := by
  obtain ⟨outcome, tried, done⟩ := result_bind_eq_ok done
  have same : (computation state).result = outcome := Except.ok.inj tried
  cases outcome with
  | ok value =>
      cases done
      exact same
  | error error => exact absurd done (fails _ _ _)

/-- Computations one after the other do not depend on how they are grouped. -/
theorem bind_bind {Last : Type} (first : Stepwise State Error Value)
    (second : Value → Stepwise State Error Next) (third : Next → Stepwise State Error Last) :
    (first >>= second >>= third) = first >>= fun value => second value >>= third := by
  funext state
  cases began : (first state).result with
  | error error =>
      have failed : ((first >>= second) state).result = .error error := by rw [bind_of_error began]
      rw [bind_of_error failed, bind_of_error began, bind_of_error began]
  | ok value =>
      have whole := @bind_of_ok _ _ _ _ _ second state value began
      rw [bind_of_ok began]
      cases went : (second value (first state).state).result with
      | error error =>
          have failed : ((first >>= second) state).result = .error error := by rw [whole, went]
          rw [bind_of_error failed, bind_of_error went, whole]
      | ok next =>
          have returned : ((first >>= second) state).result = .ok next := by rw [whole, went]
          rw [bind_of_ok returned, bind_of_ok went, whole]
          simp only [List.append_assoc]

/-- A result that is already there is passed on. -/
theorem ofExcept_ok_bind (value : Value) (next : Value → Stepwise State Error Next) :
    (ofExcept (.ok value) >>= next) = next value := by
  funext state
  rw [@bind_of_ok _ _ _ _ _ _ _ value rfl]
  simp [ofExcept, ask]

/-- Nothing comes after a failure. -/
theorem ofExcept_error_bind (error : Error) (next : Value → Stepwise State Error Next) :
    (ofExcept (.error error) >>= next) = ofExcept (.error error) := by
  funext state
  rw [@bind_of_error _ _ _ _ _ _ _ error rfl]
  rfl

/-- Results that are found one after the other are found together. -/
theorem ofExcept_bind_bind (first : Except Error Value) (second : Value → Except Error Next)
    {Last : Type} (next : Next → Stepwise State Error Last) :
    (ofExcept (first >>= second) >>= next) =
      ofExcept first >>= fun value => ofExcept (second value) >>= next := by
  cases first with
  | error error =>
      rw [ofExcept_error_bind]
      exact ofExcept_error_bind error next
  | ok value => rw [ofExcept_ok_bind]; rfl

/-- A check that does not fail does nothing. -/
theorem check_none_bind (next : Unit → Stepwise State Error Next) :
    (check none >>= next) = next () := by
  funext state
  rw [@bind_of_ok _ _ _ _ _ _ _ () rfl]
  simp [check]

/-! ## What a computation ensures -/

/-- What is true of a computation from a state: of every state on the way, and of its
result together with the state that it leaves. -/
structure Ensures (computation : Stepwise State Error Value) (start : State)
    (always : State → Prop) (ends : Except Error Value → State → Prop) : Prop where
  points : ∀ point ∈ (computation start).points, always point
  ended : ends (computation start).result (computation start).state

variable {computation : Stepwise State Error Value} {start : State} {always : State → Prop}
  {ends : Except Error Value → State → Prop}

/-- Returning ensures what holds already. -/
theorem Ensures.pure {value : Value} (holds : ends (.ok value) start) :
    Ensures (Pure.pure value : Stepwise State Error Value) start always ends where
  points := by
    intro point member
    cases member
  ended := holds

/-- Looking ensures what holds of what is seen. -/
theorem Ensures.ask {look : State → Except Error Value} (holds : ends (look start) start) :
    Ensures (Stepwise.ask look) start always ends where
  points := by
    intro point member
    cases member
  ended := holds

/-- A change ensures what holds after it. -/
theorem Ensures.change {update : State → State} {ends : Except Error Unit → State → Prop}
    (written : always (update start)) (holds : ends (.ok ()) (update start)) :
    Ensures (Stepwise.change update) start always ends where
  points := by
    intro point member
    cases List.mem_singleton.mp member
    exact written
  ended := holds

/-- A check ensures that there was no failure. -/
theorem Ensures.check {failure : Option Error} {ends : Except Error Unit → State → Prop}
    (passes : failure = none → ends (.ok ()) start)
    (stops : ∀ error, failure = some error → ends (.error error) start) :
    Ensures (Stepwise.check failure) start always ends where
  points := by
    intro point member
    cases member
  ended := by
    cases failure with
    | none => exact passes rfl
    | some error => exact stops error rfl

/-- A step ensures what holds after it. -/
theorem Ensures.act {step : State → Except Error Value × State}
    (written : always (step start).2) (holds : ends (step start).1 (step start).2) :
    Ensures (Stepwise.act step) start always ends where
  points := by
    intro point member
    cases List.mem_singleton.mp member
    exact written
  ended := holds

/-- A caught failure is a result. -/
theorem Ensures.attempt {Failure : Type} {middle : Except Error Value → State → Prop}
    {ends : Except Failure (Except Error Value) → State → Prop}
    (inner : Ensures computation start always middle)
    (holds : ∀ result state, middle result state → ends (.ok result) state) :
    Ensures (Stepwise.attempt computation) start always ends where
  points := inner.points
  ended := holds _ _ inner.ended

/-- The second part of a computation starts where the first has returned. -/
theorem Ensures.bind {middle : Except Error Value → State → Prop}
    {next : Value → Stepwise State Error Next} {ends : Except Error Next → State → Prop}
    (first : Ensures computation start always middle)
    (stops : ∀ error state, middle (.error error) state → ends (.error error) state)
    (second : ∀ value state, middle (.ok value) state →
      Ensures (next value) state always ends) :
    Ensures (computation >>= next) start always ends := by
  have ended := first.ended
  cases result : (computation start).result with
  | error error =>
      rw [result] at ended
      have whole := @bind_of_error _ _ _ _ _ next _ _ result
      constructor <;> rw [whole]
      · exact first.points
      · exact stops error _ ended
  | ok value =>
      rw [result] at ended
      have whole := @bind_of_ok _ _ _ _ _ next _ _ result
      have later := second value _ ended
      constructor <;> rw [whole]
      · intro point member
        cases List.mem_append.mp member with
        | inl earlier => exact first.points point earlier
        | inr after => exact later.points point after
      · exact later.ended

/-- After a check the rest ensures the whole. -/
theorem Ensures.check_bind {failure : Option Error} {next : Unit → Stepwise State Error Value}
    (stops : ∀ error, failure = some error → ends (.error error) start)
    (passes : failure = none → Ensures (next ()) start always ends) :
    Ensures (Stepwise.check failure >>= next) start always ends := by
  refine @Ensures.bind _ _ _ _ _ _ _ (fun result state => state = start ∧
    match result with
    | .ok _ => failure = none
    | .error error => failure = some error) _ _ ?_ ?_ ?_
  · exact .check (fun none => ⟨rfl, none⟩) fun error given => ⟨rfl, given⟩
  · rintro error state ⟨rfl, given⟩
    exact stops error given
  · rintro value state ⟨rfl, given⟩
    exact passes given

/-- After a change the rest ensures the whole. -/
theorem Ensures.change_bind {update : State → State} {next : Unit → Stepwise State Error Value}
    (written : always (update start)) (rest : Ensures (next ()) (update start) always ends) :
    Ensures (Stepwise.change update >>= next) start always ends := by
  refine @Ensures.bind _ _ _ _ _ _ _
    (fun result state => result = .ok () ∧ state = update start) _ _ ?_ ?_ ?_
  · exact .change written ⟨rfl, rfl⟩
  · rintro error state ⟨same, -⟩
    cases same
  · rintro value state ⟨-, rfl⟩
    exact rest

/-- After a look the rest ensures the whole. -/
theorem Ensures.ask_bind {look : State → Except Error Value}
    {next : Value → Stepwise State Error Next} {ends : Except Error Next → State → Prop}
    (stops : ∀ error, look start = .error error → ends (.error error) start)
    (passes : ∀ value, look start = .ok value → Ensures (next value) start always ends) :
    Ensures (Stepwise.ask look >>= next) start always ends := by
  refine @Ensures.bind _ _ _ _ _ _ _
    (fun result state => look start = result ∧ state = start) _ _ ?_ ?_ ?_
  · exact .ask ⟨rfl, rfl⟩
  · rintro error state ⟨found, rfl⟩
    exact stops error found
  · rintro value state ⟨found, rfl⟩
    exact passes value found

/-- Every end that is looked at ensures the whole. -/
theorem Ensures.recover {middle : Except Error Value → State → Prop}
    {look : Except Error Value → Except Error Next} {ends : Except Error Next → State → Prop}
    (inner : Ensures computation start always middle)
    (looked : ∀ result state, middle result state → ends (look result) state) :
    Ensures (recover computation look) start always ends where
  points := inner.points
  ended := looked _ _ inner.ended

/-- A judgement ensures what holds of each result. -/
theorem Ensures.judge {Failure : Type} {middle : Except Error Value → State → Prop}
    {look : Except Error Value → Except Failure Next} {ends : Except Failure Next → State → Prop}
    (inner : Ensures computation start always middle)
    (judged : ∀ result state, middle result state → ends (look result) state) :
    Ensures (computation.judge look) start always ends where
  points := inner.points
  ended := judged _ _ inner.ended

/-- A label ensures what holds of the failure. -/
theorem Ensures.relabel {Failure : Type} {label : Error → Failure}
    {middle : Except Error Value → State → Prop} {ends : Except Failure Value → State → Prop}
    (inner : Ensures computation start always middle)
    (returns : ∀ value state, middle (.ok value) state → ends (.ok value) state)
    (fails : ∀ error state, middle (.error error) state → ends (.error (label error)) state) :
    Ensures (computation.relabel label) start always ends := by
  apply inner.judge
  intro result state held
  cases result with
  | ok value => exact returns value state held
  | error error => exact fails error state held

/-- The cleaning after a failure starts where the computation has failed. -/
theorem Ensures.cleanup {middle : Except Error Value → State → Prop}
    {clean : Stepwise State Error Unit}
    (inner : Ensures computation start always middle)
    (returns : ∀ value state, middle (.ok value) state → ends (.ok value) state)
    (cleaned : ∀ error state, middle (.error error) state →
      Ensures clean state always fun _ after => ends (.error error) after) :
    Ensures (cleanup computation clean) start always ends := by
  have ended := inner.ended
  cases result : (computation start).result with
  | ok value =>
      rw [result] at ended
      have whole : Stepwise.cleanup computation clean start =
          ⟨.ok value, (computation start).state, (computation start).points⟩ := by
        rw [Stepwise.cleanup, result]
      constructor <;> rw [whole]
      · exact inner.points
      · exact returns value _ ended
  | error error =>
      rw [result] at ended
      have after := cleaned error _ ended
      have whole : Stepwise.cleanup computation clean start =
          ⟨.error error, (clean (computation start).state).state,
            (computation start).points ++ (clean (computation start).state).points⟩ := by
        rw [Stepwise.cleanup, result]
      constructor <;> rw [whole]
      · intro point member
        cases List.mem_append.mp member with
        | inl earlier => exact inner.points point earlier
        | inr later => exact after.points point later
      · exact after.ended

/-- Less may be ensured. -/
theorem Ensures.mono {wider : State → Prop} {weaker : Except Error Value → State → Prop}
    (holds : Ensures computation start always ends) (on : ∀ state, always state → wider state)
    (after : ∀ result state, ends result state → weaker result state) :
    Ensures computation start wider weaker where
  points := fun point member => on point (holds.points point member)
  ended := after _ _ holds.ended

end Stepwise

end Foundation
