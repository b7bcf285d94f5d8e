import Mathlib.Data.List.Infix
import FaceAuth.Foundation.Threads

/-!
# Runs without one thread

A run is compared with the same run in which one thread takes no turn. They agree
on the rest at every moment exactly when that thread never changes the shared
state.
-/

namespace Foundation

variable {Shared Local Choice Event : Type}

/-- The other turns of a list. -/
def without (index : Nat) (turns : List (Turn Choice Event)) : List (Turn Choice Event) :=
  turns.filter fun turn => !turn.isOf index

/-- Two states agree on the shared state and on all threads but one. -/
def Threads.AgreeExcept (index : Nat) (left right : Threads Shared Local) : Prop :=
  left.shared = right.shared ∧ ∀ other, other ≠ index → left.thread other = right.thread other

namespace Program

variable (program : Program Shared Local Choice Event)

/-- A turn that a thread takes when a list is executed, from one state to the next. -/
def Moves (index : Nat) (start : Threads Shared Local) (turns : List (Turn Choice Event))
    (state next : Threads Shared Local) : Prop :=
  ∃ earlier choice, earlier ++ [.thread index choice] <+: turns ∧
    program.execute start earlier = some state ∧
    program.step state (.thread index choice) = some next

/-- At every moment of the execution of a list, leaving out one thread would make no
difference to the rest. -/
def Invisible (index : Nat) (start : Threads Shared Local) (turns : List (Turn Choice Event)) :
    Prop :=
  ∀ earlier, earlier <+: turns → ∀ state, program.execute start earlier = some state →
    ∃ other, program.execute start (without index earlier) = some other ∧
      state.AgreeExcept index other

variable {program} {index : Nat} {start state next other : Threads Shared Local}
  {turns : List (Turn Choice Event)}

/-- Turns are executed one part after the other. -/
theorem execute_append (earlier later : List (Turn Choice Event)) :
    program.execute start (earlier ++ later) =
      (program.execute start earlier).bind fun state => program.execute state later := by
  induction earlier generalizing start with
  | nil => rfl
  | cons turn earlier ih =>
      rw [List.cons_append, execute, execute, Option.bind_assoc]
      apply congrArg
      funext state
      exact ih

/-- The last turn of an executed list is a step. -/
theorem execute_snoc_eq_some_iff {earlier : List (Turn Choice Event)}
    {turn : Turn Choice Event} :
    program.execute start (earlier ++ [turn]) = some next ↔
      ∃ state, program.execute start earlier = some state ∧
        program.step state turn = some next := by
  rw [execute_append, Option.bind_eq_some_iff]
  simp [execute]

/-- A turn of some turns is one of more. -/
theorem Moves.mono {longer : List (Turn Choice Event)}
    (moves : program.Moves index start turns state next) (extends_ : turns <+: longer) :
    program.Moves index start longer state next := by
  obtain ⟨earlier, choice, taken, executed, stepped⟩ := moves
  exact ⟨earlier, choice, taken.trans extends_, executed, stepped⟩

/-- Leaving out is done part by part. -/
theorem without_append (index : Nat) (earlier later : List (Turn Choice Event)) :
    without index (earlier ++ later) = without index earlier ++ without index later :=
  List.filter_append ..

/-- A turn of the thread is left out. -/
theorem without_thread (index : Nat) (choice : Choice) :
    without index [(.thread index choice : Turn Choice Event)] = [] := by
  simp [without, Turn.isOf]

/-- Every other turn stays. -/
theorem without_foreign {turn : Turn Choice Event} (foreign : turn.isOf index = false) :
    without index [turn] = [turn] := by
  simp [without, foreign]

/-- A turn of the others goes the same way in states that agree on them. -/
theorem step_foreign (agree : state.AgreeExcept index other) {turn : Turn Choice Event}
    (foreign : turn.isOf index = false) (taken : program.step state turn = some next) :
    ∃ after, program.step other turn = some after ∧ next.AgreeExcept index after := by
  obtain ⟨shared, threads⟩ := agree
  cases turn with
  | thread mover choice =>
      have moved : mover ≠ index := by simpa [Turn.isOf] using foreign
      obtain ⟨after, own, advanced, rfl⟩ := step_thread_eq_some_iff.mp taken
      rw [shared, threads mover moved] at advanced
      refine ⟨_, step_thread_eq_some_iff.mpr ⟨after, own, advanced, rfl⟩, rfl, ?_⟩
      intro third distinct
      dsimp only
      by_cases same : third = mover
      · subst same
        rw [Function.update_self, Function.update_self]
      · rw [Function.update_of_ne same, Function.update_of_ne same, threads third distinct]
  | event event =>
      obtain ⟨after, occurred, rfl⟩ := step_event_eq_some_iff.mp taken
      rw [shared] at occurred
      exact ⟨_, step_event_eq_some_iff.mpr ⟨after, occurred, rfl⟩, rfl, threads⟩

/-- A turn of the thread keeps the agreement as long as it leaves the shared state alone. -/
theorem step_own (agree : state.AgreeExcept index other) {choice : Choice}
    (silent : next.shared = state.shared)
    (taken : program.step state (.thread index choice) = some next) :
    next.AgreeExcept index other := by
  obtain ⟨after, own, advanced, rfl⟩ := step_thread_eq_some_iff.mp taken
  refine ⟨silent.trans agree.1, ?_⟩
  intro third distinct
  dsimp only
  rw [Function.update_of_ne distinct]
  exact agree.2 third distinct

/-- Leaving out the turns of a silent thread changes nothing for the others. -/
theorem execute_without
    (silent : ∀ state next, program.Moves index start turns state next →
      next.shared = state.shared)
    (executed : program.execute start turns = some state) :
    ∃ other, program.execute start (without index turns) = some other ∧
      state.AgreeExcept index other := by
  induction turns using List.reverseRecOn generalizing state with
  | nil =>
      cases executed
      exact ⟨_, rfl, rfl, fun _ _ => rfl⟩
  | append_singleton earlier turn ih =>
      obtain ⟨before, ran, taken⟩ := execute_snoc_eq_some_iff.mp executed
      obtain ⟨other, others, agree⟩ :=
        ih (fun state next moves => silent state next (moves.mono (List.prefix_append _ _))) ran
      rw [without_append]
      cases own : turn.isOf index with
      | true =>
          cases turn with
          | event event => simp [Turn.isOf] at own
          | thread mover choice =>
              have same : mover = index := by simpa [Turn.isOf] using own
              subst same
              rw [without_thread, List.append_nil]
              have left := silent before state ⟨earlier, choice, List.prefix_refl _, ran, taken⟩
              exact ⟨other, others, step_own agree left taken⟩
      | false =>
          obtain ⟨after, follows, kept⟩ := step_foreign agree own taken
          rw [without_foreign own]
          exact ⟨after, execute_snoc_eq_some_iff.mpr ⟨other, others, follows⟩, kept⟩

/-- What each turn of a thread keeps of it still holds when a list is executed. -/
theorem Moves.keeps {own : Local → Prop}
    (kept : ∀ state next, program.Moves index start turns state next →
      own (state.thread index) → own (next.thread index))
    (holds : own (start.thread index)) (executed : program.execute start turns = some state) :
    own (state.thread index) := by
  induction turns using List.reverseRecOn generalizing state with
  | nil =>
      cases executed
      exact holds
  | append_singleton earlier turn ih =>
      obtain ⟨before, ran, taken⟩ := execute_snoc_eq_some_iff.mp executed
      have held := ih (fun state next moves => kept state next
        (moves.mono (List.prefix_append _ _))) ran
      cases turn with
      | event event =>
          obtain ⟨after, occurred, rfl⟩ := step_event_eq_some_iff.mp taken
          exact held
      | thread mover choice =>
          by_cases same : mover = index
          · subst same
            exact kept before state ⟨earlier, choice, List.prefix_refl _, ran, taken⟩ held
          · obtain ⟨after, own, advanced, rfl⟩ := step_thread_eq_some_iff.mp taken
            dsimp only
            rw [Function.update_of_ne (Ne.symm same)]
            exact held

/-- A thread is invisible to the rest exactly when none of its turns changes the shared
state. -/
theorem invisible_iff :
    program.Invisible index start turns ↔
      ∀ state next, program.Moves index start turns state next → next.shared = state.shared := by
  constructor
  · rintro invisible state next ⟨earlier, choice, taken, ran, stepped⟩
    obtain ⟨before, ranBefore, agreeBefore⟩ :=
      invisible earlier ((List.prefix_append _ _).trans taken) state ran
    obtain ⟨after, ranAfter, agreeAfter⟩ :=
      invisible _ taken next (execute_snoc_eq_some_iff.mpr ⟨state, ran, stepped⟩)
    rw [without_append, without_thread, List.append_nil, ranBefore] at ranAfter
    cases ranAfter
    exact agreeAfter.1.trans agreeBefore.1.symm
  · intro silent earlier shorter state executed
    exact execute_without (fun state next moves => silent state next (moves.mono shorter)) executed

end Program

end Foundation
