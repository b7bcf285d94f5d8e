import FaceAuth.Foundation.Run

/-!
# One-shot slots

A component with one slot opens it, speaks while it is held, and empties it
when it closes. Whatever the actions are, each opening is then followed by at
most one closing output, and by no output at all after that one, until the next
opening.
-/

namespace Foundation

variable {State Action Output : Type}

/-- The single-step facts that make a step function a one-shot slot. -/
structure OneShot (step : State → Action → Output × State) where
  held : State → Prop
  opens : Action → Output → Prop
  speaks : Output → Prop
  closes : Output → Prop
  opens_or_held : ∀ state action, speaks (step state action).1 →
    opens action (step state action).1 ∨ held state
  closes_speaks : ∀ output, closes output → speaks output
  closes_empty : ∀ state action, closes (step state action).1 → ¬ held (step state action).2
  empty_stays : ∀ state action, ¬ held state → ¬ opens action (step state action).1 →
    ¬ held (step state action).2

namespace OneShot

variable {step : State → Action → Output × State} (slot : OneShot step)

/-- The entry opens the slot. -/
def Opening (entry : Entry State Action Output) : Prop :=
  slot.opens entry.action entry.output

/-- Nothing speaks for an empty slot before it is opened. -/
theorem empty_silent {state : State} (empty : ¬ slot.held state) {actions : List Action}
    (unopened : ∀ entry ∈ run step state actions, ¬ slot.Opening entry) :
    ∀ entry ∈ run step state actions, ¬ slot.speaks entry.output := by
  induction actions generalizing state with
  | nil =>
      intro entry member
      cases member
  | cons action actions ih =>
      rw [run_cons] at unopened ⊢
      have first : ¬ slot.opens action (step state action).1 :=
        unopened _ List.mem_cons_self
      intro entry member
      rcases List.mem_cons.mp member with rfl | member
      · intro spoken
        exact (slot.opens_or_held state action spoken).elim first empty
      · exact ih (slot.empty_stays state action empty first)
          (fun later inside => unopened later (List.mem_cons_of_mem _ inside)) entry member

/-- Between two openings no output follows a closing one. -/
theorem closing_last {state : State} {actions : List Action}
    (unopened : ∀ entry ∈ run step state actions, ¬ slot.Opening entry) :
    (run step state actions).Pairwise fun earlier later =>
      slot.closes earlier.output → ¬ slot.speaks later.output := by
  induction actions generalizing state with
  | nil => exact List.Pairwise.nil
  | cons action actions ih =>
      rw [run_cons] at unopened ⊢
      have rest : ∀ entry ∈ run step (step state action).2 actions, ¬ slot.Opening entry :=
        fun entry member => unopened entry (List.mem_cons_of_mem _ member)
      refine List.Pairwise.cons ?_ (ih rest)
      intro later member closed
      exact slot.empty_silent (slot.closes_empty state action closed) rest later member

/-- Between two openings at most one output closes the slot. -/
theorem closing_count [DecidablePred slot.closes] {state : State} {actions : List Action}
    (unopened : ∀ entry ∈ run step state actions, ¬ slot.Opening entry) :
    (run step state actions).countP (fun entry => slot.closes entry.output) ≤ 1 := by
  have ordered := slot.closing_last unopened
  generalize run step state actions = entries at ordered
  induction ordered with
  | nil => exact Nat.zero_le 1
  | @cons entry entries last _ ih =>
      rw [List.countP_cons]
      by_cases closed : slot.closes entry.output
      · have none : entries.countP (fun later => slot.closes later.output) = 0 := by
          rw [List.countP_eq_zero]
          intro later member
          have silent := last later member closed
          simpa using fun again => silent (slot.closes_speaks _ again)
        simp [none, closed]
      · simpa [closed] using ih

end OneShot

end Foundation
