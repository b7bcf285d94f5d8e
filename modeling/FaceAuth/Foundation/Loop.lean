import Mathlib.Data.Nat.Basic

/-!
# Loops that may not end

An iteration of a loop either goes on or returns. Running a loop takes a bound
on its iterations; facts about all iterations are facts about the states at
which one begins.
-/

namespace Foundation

variable {State Result : Type}

/-- How one iteration of a loop ends. -/
inductive Flow (State Result : Type) where
  | again (state : State)
  | done (result : Result) (state : State)
deriving Repr

/-- Run a loop for at most the given number of iterations. -/
def iterate (body : State → Flow State Result) : Nat → State → Option (Result × State)
  | 0, _ => none
  | fuel + 1, state =>
      match body state with
      | .again next => iterate body fuel next
      | .done result final => some (result, final)

/-- The states at which an iteration of the loop begins. -/
inductive Visited (body : State → Flow State Result) (start : State) : State → Prop where
  | start : Visited body start start
  | next {state next : State} (earlier : Visited body start state)
      (goes : body state = .again next) : Visited body start next

variable {body : State → Flow State Result} {start : State}

/-- A body that goes on uses up one round. -/
theorem iterate_of_again {state next : State} (goes : body state = .again next) (fuel : Nat) :
    iterate body (fuel + 1) state = iterate body fuel next := by
  rw [iterate, goes]

/-- A body that is done ends the loop. -/
theorem iterate_of_done {state final : State} {result : Result}
    (ends : body state = .done result final) (fuel : Nat) :
    iterate body (fuel + 1) state = some (result, final) := by
  rw [iterate, ends]

/-- A larger bound does not change a result. -/
theorem iterate_mono {fuel more : Nat} (enough : fuel ≤ more) {state final : State}
    {result : Result} (returns : iterate body fuel state = some (result, final)) :
    iterate body more state = some (result, final) := by
  induction fuel generalizing more state with
  | zero => cases returns
  | succ fuel ih =>
      obtain ⟨more, rfl⟩ := Nat.exists_eq_add_of_le' (Nat.le_of_add_left_le enough)
      cases shape : body state with
      | again next =>
          rw [iterate_of_again shape] at returns ⊢
          exact ih (Nat.le_of_succ_le_succ enough) returns
      | done answer after =>
          rw [iterate_of_done shape] at returns ⊢
          exact returns

/-- A loop whose every iteration goes on never returns. -/
theorem iterate_diverges (goes : ∀ state, ∃ next, body state = .again next) (fuel : Nat)
    (state : State) : iterate body fuel state = none := by
  induction fuel generalizing state with
  | zero => rfl
  | succ fuel ih =>
      obtain ⟨next, going⟩ := goes state
      rw [iterate_of_again going]
      exact ih next

/-- What every iteration keeps holds wherever one begins. -/
theorem Visited.invariant {invariant : State → Prop} (holds : invariant start)
    (kept : ∀ state next, invariant state → body state = .again next → invariant next)
    {state : State} (visited : Visited body start state) : invariant state := by
  induction visited with
  | start => exact holds
  | next earlier goes ih => exact kept _ _ ih goes

/-- A loop that returns does so from everywhere it came by. -/
theorem Visited.returns {state final : State} {result : Result}
    (visited : Visited body start state) {fuel : Nat}
    (returns : iterate body fuel start = some (result, final)) :
    ∃ fuel, iterate body fuel state = some (result, final) := by
  induction visited with
  | start => exact ⟨fuel, returns⟩
  | next earlier goes ih =>
      obtain ⟨enough, found⟩ := ih
      cases enough with
      | zero => cases found
      | succ enough => exact ⟨enough, by rwa [iterate_of_again goes] at found⟩

/-- The iteration that returns is one of those that the loop began. -/
theorem iterate_last {fuel : Nat} {final : State} {result : Result}
    (returns : iterate body fuel start = some (result, final)) :
    ∃ last, Visited body start last ∧ body last = .done result final := by
  have general : ∀ fuel state, Visited body start state →
      iterate body fuel state = some (result, final) →
        ∃ last, Visited body start last ∧ body last = .done result final := by
    intro fuel
    induction fuel with
    | zero =>
        intro state _ impossible
        cases impossible
    | succ fuel ih =>
        intro state visited found
        cases outcome : body state with
        | again next =>
            rw [iterate_of_again outcome] at found
            exact ih next (.next visited outcome) found
        | done answer after =>
            rw [iterate_of_done outcome, Option.some.injEq, Prod.mk.injEq] at found
            obtain ⟨rfl, rfl⟩ := found
            exact ⟨state, visited, outcome⟩
  exact general fuel start .start returns

/-- A condition on single iterations that an iteration which goes on always meets, and
that one which returns meets exactly with its outcome, is met by all iterations of a
returning loop exactly with the outcome of the loop. -/
theorem iterate_exact {invariant clean : State → Prop} {outcome : Result → State → Prop}
    (goes : ∀ state next, invariant state → body state = .again next →
      clean state ∧ invariant next)
    (ends : ∀ state result final, invariant state → body state = .done result final →
      (outcome result final ↔ clean state))
    (holds : invariant start) {fuel : Nat} {result : Result} {final : State}
    (returns : iterate body fuel start = some (result, final)) :
    outcome result final ↔ ∀ state, Visited body start state → clean state := by
  have kept : ∀ state, Visited body start state → invariant state := fun state visited =>
    visited.invariant holds fun state next sound going => (goes state next sound going).2
  constructor
  · intro good state visited
    obtain ⟨enough, found⟩ := visited.returns returns
    cases enough with
    | zero => cases found
    | succ enough =>
        cases shape : body state with
        | again next => exact (goes state next (kept state visited) shape).1
        | done answer after =>
            rw [iterate_of_done shape, Option.some.injEq, Prod.mk.injEq] at found
            obtain ⟨rfl, rfl⟩ := found
            exact (ends state answer after (kept state visited) shape).mp good
  · intro all
    obtain ⟨last, visited, shape⟩ := iterate_last returns
    exact (ends last result final (kept last visited) shape).mpr (all last visited)

/-- A loop whose iterations count down returns. -/
theorem iterate_terminates {invariant : State → Prop} (measure : State → Nat)
    (decreases : ∀ state next, invariant state → body state = .again next →
      invariant next ∧ measure next < measure state)
    (holds : invariant start) :
    ∃ fuel result final, iterate body fuel start = some (result, final) := by
  generalize bound : measure start = count
  induction count using Nat.strong_induction_on generalizing start with
  | h count ih =>
      cases shape : body start with
      | again next =>
          obtain ⟨sound, smaller⟩ := decreases start next holds shape
          obtain ⟨fuel, result, final, found⟩ := ih (measure next) (bound ▸ smaller) sound rfl
          exact ⟨fuel + 1, result, final, by rw [iterate_of_again shape, found]⟩
      | done result final => exact ⟨1, result, final, iterate_of_done shape 0⟩

section Course

variable {course : Nat → State} {goes : Nat → Prop}

/-- What holds before some count and at it holds up to it. -/
theorem forall_le_of_lt {count : Nat} (before : ∀ earlier < count, goes earlier)
    (on : goes count) : ∀ earlier ≤ count, goes earlier := by
  intro earlier low
  rcases Nat.lt_or_eq_of_le low with low | rfl
  · exact before earlier low
  · exact on

/-- A loop that follows a course, and leaves it only by returning, is nowhere else. -/
theorem Visited.on_course
    (again : ∀ count, (∀ earlier ≤ count, goes earlier) →
      body (course count) = .again (course (count + 1)))
    (ends : ∀ count, (∀ earlier < count, goes earlier) → ¬goes count →
      ∃ result final, body (course count) = .done result final)
    {state : State} (visited : Visited body (course 0) state) :
    ∃ count, (∀ earlier < count, goes earlier) ∧ state = course count := by
  induction visited with
  | start => exact ⟨0, fun _ impossible => absurd impossible (Nat.not_lt_zero _), rfl⟩
  | @next _ next _ going ih =>
      obtain ⟨count, before, rfl⟩ := ih
      by_cases on : goes count
      · have upto := forall_le_of_lt before on
        rw [again count upto, Flow.again.injEq] at going
        exact ⟨count + 1, fun earlier low => upto earlier (Nat.le_of_lt_succ low), going.symm⟩
      · obtain ⟨result, final, stops⟩ := ends count before on
        rw [going] at stops
        cases stops

/-- It follows the course for its first iterations. -/
theorem iterate_course
    (again : ∀ count, (∀ earlier ≤ count, goes earlier) →
      body (course count) = .again (course (count + 1)))
    {count : Nat} (before : ∀ earlier < count, goes earlier) (fuel : Nat) :
    iterate body (count + fuel) (course 0) = iterate body fuel (course count) := by
  induction count generalizing fuel with
  | zero => rw [Nat.zero_add]
  | succ count ih =>
      have rest := ih (fun earlier low => before earlier (Nat.lt_succ_of_lt low)) (fuel + 1)
      have goes_ := again count fun earlier low => before earlier (Nat.lt_succ_of_le low)
      rw [iterate_of_again goes_] at rest
      rw [Nat.succ_add_eq_add_succ, rest]

/-- It returns what the first iteration returns that leaves its course. -/
theorem iterate_course_iff
    (again : ∀ count, (∀ earlier ≤ count, goes earlier) →
      body (course count) = .again (course (count + 1)))
    (ends : ∀ count, (∀ earlier < count, goes earlier) → ¬goes count →
      ∃ result final, body (course count) = .done result final)
    {result : Result} {final : State} :
    (∃ fuel, iterate body fuel (course 0) = some (result, final)) ↔
      ∃ count, (∀ earlier < count, goes earlier) ∧ ¬goes count ∧
        body (course count) = .done result final := by
  constructor
  · rintro ⟨fuel, returns⟩
    obtain ⟨last, visited, stops⟩ := iterate_last returns
    obtain ⟨count, before, rfl⟩ := visited.on_course again ends
    refine ⟨count, before, fun on => ?_, stops⟩
    rw [again count (forall_le_of_lt before on)] at stops
    cases stops
  · rintro ⟨count, before, -, stops⟩
    exact ⟨count + 1, by rw [iterate_course again before, iterate_of_done stops]⟩

end Course

end Foundation
