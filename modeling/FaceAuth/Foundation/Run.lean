import Mathlib.Data.List.Basic

/-!
# Recorded runs of step functions

A deterministic component answers each action with an output and a next state.
A run keeps, for every step, the action and the output together with the states
around it, so that a property of a whole history can be stated over its entries.
-/

namespace Foundation

variable {State Action Output : Type}

/-- One recorded step and the states around it. -/
structure Entry (State Action Output : Type) where
  before : State
  action : Action
  output : Output
  after : State

/-- The entry that a step function records for one action. -/
def entryAt (step : State → Action → Output × State) (state : State) (action : Action) :
    Entry State Action Output :=
  ⟨state, action, (step state action).1, (step state action).2⟩

/-- The entries recorded by a list of actions. -/
def run (step : State → Action → Output × State) :
    State → List Action → List (Entry State Action Output)
  | _, [] => []
  | state, action :: actions =>
      entryAt step state action :: run step (step state action).2 actions

/-- The state after a list of actions. -/
def final (step : State → Action → Output × State) : State → List Action → State
  | state, [] => state
  | state, action :: actions => final step (step state action).2 actions

section Basic

variable (step : State → Action → Output × State)

/-- An entry begins where it was made. -/
@[simp] theorem entryAt_before (state : State) (action : Action) :
    (entryAt step state action).before = state := rfl

/-- An entry records its action. -/
@[simp] theorem entryAt_action (state : State) (action : Action) :
    (entryAt step state action).action = action := rfl

/-- An entry records what the step returned. -/
@[simp] theorem entryAt_output (state : State) (action : Action) :
    (entryAt step state action).output = (step state action).1 := rfl

/-- An entry ends where the step did. -/
@[simp] theorem entryAt_after (state : State) (action : Action) :
    (entryAt step state action).after = (step state action).2 := rfl

/-- A run without actions has no entries. -/
@[simp] theorem run_nil (state : State) : run step state [] = [] := rfl

/-- A run goes on from where its first step ended. -/
@[simp] theorem run_cons (state : State) (action : Action) (actions : List Action) :
    run step state (action :: actions) =
      entryAt step state action :: run step (step state action).2 actions := rfl

/-- A run without actions goes nowhere. -/
@[simp] theorem final_nil (state : State) : final step state [] = state := rfl

/-- A run ends where its rest does. -/
@[simp] theorem final_cons (state : State) (action : Action) (actions : List Action) :
    final step state (action :: actions) = final step (step state action).2 actions := rfl

/-- Two runs end where the second does. -/
theorem final_append (state : State) (first second : List Action) :
    final step state (first ++ second) = final step (final step state first) second := by
  induction first generalizing state with
  | nil => rfl
  | cons action first ih => exact ih (step state action).2

/-- Two runs have the entries of both. -/
theorem run_append (state : State) (first second : List Action) :
    run step state (first ++ second) =
      run step state first ++ run step (final step state first) second := by
  induction first generalizing state with
  | nil => rfl
  | cons action first ih =>
      rw [List.cons_append, run_cons, run_cons, ih, List.cons_append, final_cons]

/-- A split of the entries is a split of the actions. -/
theorem run_split {state : State} {actions : List Action}
    {left right : List (Entry State Action Output)}
    (split : run step state actions = left ++ right) :
    ∃ first second, actions = first ++ second ∧ left = run step state first ∧
      right = run step (final step state first) second := by
  induction left generalizing state actions with
  | nil => exact ⟨[], actions, rfl, rfl, split.symm⟩
  | cons entry left ih =>
      cases actions with
      | nil => cases split
      | cons action actions =>
          rw [run_cons, List.cons_append, List.cons.injEq] at split
          obtain ⟨first, second, rfl, rfl, rfl⟩ := ih split.2
          exact ⟨action :: first, second, rfl, by rw [run_cons, split.1], rfl⟩

/-- An entry inside a run is the step taken from the state its prefix ends in. -/
theorem run_split_entry {state : State} {actions : List Action}
    {left right : List (Entry State Action Output)} {entry : Entry State Action Output}
    (split : run step state actions = left ++ entry :: right) :
    ∃ first second, actions = first ++ entry.action :: second ∧ left = run step state first ∧
      entry = entryAt step (final step state first) entry.action ∧
      right = run step entry.after second := by
  obtain ⟨first, rest, rfl, rfl, tail⟩ := run_split step split
  cases rest with
  | nil => cases tail
  | cons action second =>
      rw [run_cons, List.cons.injEq] at tail
      obtain ⟨rfl, rfl⟩ := tail
      exact ⟨first, second, rfl, rfl, rfl, rfl⟩

/-- An entry is one of the run up to its action. -/
theorem mem_run {state : State} {actions : List Action} {entry : Entry State Action Output}
    (member : entry ∈ run step state actions) :
    ∃ first second, actions = first ++ entry.action :: second ∧
      entry = entryAt step (final step state first) entry.action := by
  obtain ⟨left, right, split⟩ := List.append_of_mem member
  obtain ⟨first, second, same, -, taken, -⟩ := run_split_entry step split
  exact ⟨first, second, same, taken⟩

/-- An entry records what the step function does in the state before it. -/
theorem run_entry {state : State} {actions : List Action} {entry : Entry State Action Output}
    (member : entry ∈ run step state actions) :
    entry.output = (step entry.before entry.action).1 ∧
      entry.after = (step entry.before entry.action).2 := by
  obtain ⟨first, second, -, taken⟩ := mem_run step member
  rw [taken]
  exact ⟨rfl, rfl⟩

end Basic

section Invariant

variable {step : State → Action → Output × State}

/-- A predicate that every step keeps. -/
def Preserved (step : State → Action → Output × State) (invariant : State → Prop) : Prop :=
  ∀ state action, invariant state → invariant (step state action).2

/-- A preserved predicate holds after any run that begins in it. -/
theorem Preserved.final {invariant : State → Prop} (preserved : Preserved step invariant)
    {state : State} (holds : invariant state) (actions : List Action) :
    invariant (Foundation.final step state actions) := by
  induction actions generalizing state with
  | nil => exact holds
  | cons action actions ih => exact ih (preserved state action holds)

/-- A preserved predicate holds before every entry of a run. -/
theorem Preserved.before {invariant : State → Prop} (preserved : Preserved step invariant)
    {state : State} (holds : invariant state) {actions : List Action}
    {entry : Entry State Action Output} (member : entry ∈ run step state actions) :
    invariant entry.before := by
  obtain ⟨first, second, -, taken⟩ := mem_run step member
  rw [taken]
  exact preserved.final holds first

/-- A fact about every single step, from a state of the invariant, holds of every entry. -/
theorem Preserved.entry {invariant : State → Prop} (preserved : Preserved step invariant)
    {state : State} (holds : invariant state) {property : Entry State Action Output → Prop}
    (each : ∀ state action, invariant state → property (entryAt step state action))
    {actions : List Action} {entry : Entry State Action Output}
    (member : entry ∈ run step state actions) : property entry := by
  obtain ⟨first, second, -, taken⟩ := mem_run step member
  rw [taken]
  exact each _ _ (preserved.final holds first)

/-- What an entry leaves behind, once every step keeps it, relates the entry to all
later ones. -/
theorem run_pairwise {invariant : State → Prop} {since : Entry State Action Output → State → Prop}
    {relation : Entry State Action Output → Entry State Action Output → Prop}
    (preserved : Preserved step invariant)
    (opens : ∀ state action, invariant state →
      since (entryAt step state action) (step state action).2)
    (kept : ∀ entry state action, invariant state → since entry state →
      since entry (step state action).2)
    (related : ∀ entry state action, invariant state → since entry state →
      relation entry (entryAt step state action))
    {state : State} (holds : invariant state) (actions : List Action) :
    (run step state actions).Pairwise relation := by
  have tail : ∀ actions entry state, invariant state → since entry state →
      ∀ later ∈ run step state actions, relation entry later := by
    intro actions
    induction actions with
    | nil =>
        intro entry state _ _ later member
        cases member
    | cons action actions ih =>
        intro entry state sound open_ later member
        rw [run_cons, List.mem_cons] at member
        obtain rfl | further := member
        · exact related entry state action sound open_
        · exact ih entry _ (preserved state action sound) (kept entry state action sound open_)
            later further
  induction actions generalizing state with
  | nil => exact List.Pairwise.nil
  | cons action actions ih =>
      rw [run_cons, List.pairwise_cons]
      exact ⟨tail actions _ _ (preserved state action holds) (opens state action holds),
        ih (preserved state action holds)⟩

/-- Two step functions that agree on related states answer alike all along. -/
theorem run_simulation {State' Action' Output' : Type}
    {step' : State' → Action' → Output' × State'} {simulates : State → State' → Prop}
    {label : Action → Action'} {agrees : Output → Output' → Prop}
    (follows : ∀ state state' action, simulates state state' →
      agrees (step state action).1 (step' state' (label action)).1 ∧
        simulates (step state action).2 (step' state' (label action)).2)
    {state : State} {state' : State'} (related : simulates state state')
    (actions : List Action) :
    List.Forall₂ agrees ((run step state actions).map Entry.output)
      ((run step' state' (actions.map label)).map Entry.output) ∧
        simulates (final step state actions) (final step' state' (actions.map label)) := by
  induction actions generalizing state state' with
  | nil => exact ⟨List.Forall₂.nil, related⟩
  | cons action actions ih =>
      obtain ⟨answer, next⟩ := follows state state' action related
      obtain ⟨answers, last⟩ := ih next
      exact ⟨List.Forall₂.cons answer answers, last⟩

/-- A property of the history and the state, kept by every step, holds of every
run together with the state it ends in. -/
theorem run_history {property : List (Entry State Action Output) → State → Prop} {state : State}
    (initial : property [] state)
    (kept : ∀ history current action, property history current →
      property (history ++ [entryAt step current action]) (step current action).2)
    (actions : List Action) : property (run step state actions) (final step state actions) := by
  have general : ∀ history current, property history current →
      property (history ++ run step current actions) (final step current actions) := by
    induction actions with
    | nil =>
        intro history current holds
        rw [run_nil, List.append_nil]
        exact holds
    | cons action actions ih =>
        intro history current holds
        have extended := ih _ _ (kept history current action holds)
        rw [List.append_assoc] at extended
        exact extended
  exact general [] state initial

end Invariant

end Foundation
