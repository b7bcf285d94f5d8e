import Mathlib.Logic.Function.Basic

/-!
# Threads over a shared state

Each thread goes through atomic sections that read and change the shared state
and its own. Between two sections any other thread may take its turn, and the
world around them may change the shared state.
-/

namespace Foundation

/-- The shared state, and the state of each thread. -/
structure Threads (Shared Local : Type) where
  shared : Shared
  thread : Nat → Local

/-- An atomic section of one thread, with what it finds outside the model, or an event
around the threads. -/
inductive Turn (Choice Event : Type) where
  | thread (index : Nat) (choice : Choice)
  | event (event : Event)

/-- The turn is one of this thread. -/
def Turn.isOf {Choice Event : Type} (index : Nat) : Turn Choice Event → Bool
  | .thread mover _ => decide (mover = index)
  | .event _ => false

/-- The sections of the threads and the events around them. A section that is not
possible at a moment has no result there. -/
structure Program (Shared Local Choice Event : Type) where
  advance : Nat → Choice → Shared → Local → Option (Shared × Local)
  occur : Event → Shared → Option Shared

namespace Program

variable {Shared Local Choice Event : Type} (program : Program Shared Local Choice Event)

/-- One turn, if it can be taken. -/
def step (state : Threads Shared Local) : Turn Choice Event → Option (Threads Shared Local)
  | .thread index choice =>
      (program.advance index choice state.shared (state.thread index)).map fun next =>
        ⟨next.1, Function.update state.thread index next.2⟩
  | .event event => (program.occur event state.shared).map fun shared => ⟨shared, state.thread⟩

/-- Take the turns of a list, if each is possible when it comes. -/
def execute : Threads Shared Local → List (Turn Choice Event) → Option (Threads Shared Local)
  | state, [] => some state
  | state, turn :: turns => (program.step state turn).bind fun next => execute next turns

/-- The states that a run reaches whose turns are all allowed. -/
inductive Reaches (allowed : Threads Shared Local → Turn Choice Event → Prop)
    (start : Threads Shared Local) : Threads Shared Local → Prop where
  | start : Reaches allowed start start
  | next {state next : Threads Shared Local} {turn : Turn Choice Event}
      (earlier : Reaches allowed start state) (fits : allowed state turn)
      (taken : program.step state turn = some next) : Reaches allowed start next

variable {program} {allowed : Threads Shared Local → Turn Choice Event → Prop}
  {start state next : Threads Shared Local}

/-- A turn of a thread changes the shared state and that thread. -/
theorem step_thread_eq_some_iff {index : Nat} {choice : Choice} :
    program.step state (.thread index choice) = some next ↔
      ∃ shared own, program.advance index choice state.shared (state.thread index) =
          some (shared, own) ∧
        next = ⟨shared, Function.update state.thread index own⟩ := by
  rw [step, Option.map_eq_some_iff]
  constructor
  · rintro ⟨⟨shared, own⟩, advanced, rfl⟩
    exact ⟨shared, own, advanced, rfl⟩
  · rintro ⟨shared, own, advanced, rfl⟩
    exact ⟨(shared, own), advanced, rfl⟩

/-- An event changes nothing but the shared state. -/
theorem step_event_eq_some_iff {event : Event} :
    program.step state (.event event) = some next ↔
      ∃ shared, program.occur event state.shared = some shared ∧
        next = ⟨shared, state.thread⟩ := by
  rw [step, Option.map_eq_some_iff]
  constructor
  · rintro ⟨shared, occurs, rfl⟩
    exact ⟨shared, occurs, rfl⟩
  · rintro ⟨shared, occurs, rfl⟩
    exact ⟨shared, occurs, rfl⟩

/-- What is reached from what was reached is reached. -/
theorem Reaches.trans {middle : Threads Shared Local}
    (first : program.Reaches allowed start middle) (second : program.Reaches allowed middle next) :
    program.Reaches allowed start next := by
  induction second with
  | start => exact first
  | next earlier fits taken ih => exact .next ih fits taken

/-- More may be allowed. -/
theorem Reaches.mono {wider : Threads Shared Local → Turn Choice Event → Prop}
    (reached : program.Reaches allowed start state)
    (wide : ∀ state turn, allowed state turn → wider state turn) :
    program.Reaches wider start state := by
  induction reached with
  | start => exact .start
  | next earlier fits taken ih => exact .next ih (wide _ _ fits) taken

/-- What every allowed turn keeps holds in every state of a run. -/
theorem Reaches.invariant {invariant : Threads Shared Local → Prop} (holds : invariant start)
    (kept : ∀ state turn next, invariant state → allowed state turn →
      program.step state turn = some next → invariant next)
    (reached : program.Reaches allowed start state) : invariant state := by
  induction reached with
  | start => exact holds
  | next earlier fits taken ih => exact kept _ _ _ ih fits taken

/-- What the sections and the events keep of the shared state holds in every state of a run. -/
theorem Reaches.shared {global : Shared → Prop} (holds : global start.shared)
    (advances : ∀ (state : Threads Shared Local) (index : Nat) (choice : Choice)
      (shared : Shared) (own : Local), global state.shared → allowed state (.thread index choice) →
      program.advance index choice state.shared (state.thread index) = some (shared, own) →
        global shared)
    (occurs : ∀ (state : Threads Shared Local) (event : Event) (shared : Shared),
      global state.shared → allowed state (.event event) →
      program.occur event state.shared = some shared → global shared)
    (reached : program.Reaches allowed start state) : global state.shared := by
  induction reached with
  | start => exact holds
  | @next state _ turn earlier fits taken kept =>
      cases turn with
      | thread index choice =>
          obtain ⟨shared, own, advanced, rfl⟩ := step_thread_eq_some_iff.mp taken
          exact advances state index choice shared own kept fits advanced
      | event event =>
          obtain ⟨shared, occurred, rfl⟩ := step_event_eq_some_iff.mp taken
          exact occurs state event shared kept fits occurred

/-- What its own sections keep of a thread holds of every thread in every state of a run. -/
theorem Reaches.each {own : Local → Prop} (holds : ∀ index, own (start.thread index))
    (advances : ∀ (state : Threads Shared Local) (index : Nat) (choice : Choice)
      (shared : Shared) (after : Local), own (state.thread index) →
      program.advance index choice state.shared (state.thread index) = some (shared, after) →
        own after)
    (reached : program.Reaches allowed start state) (index : Nat) : own (state.thread index) := by
  induction reached with
  | start => exact holds index
  | @next state _ turn earlier fits taken kept =>
      cases turn with
      | thread mover choice =>
          obtain ⟨shared, after, advanced, rfl⟩ := step_thread_eq_some_iff.mp taken
          dsimp only
          by_cases same : index = mover
          · subst same
            rw [Function.update_self]
            exact advances state index choice shared after kept advanced
          · rw [Function.update_of_ne same]
            exact kept
      | event event =>
          obtain ⟨shared, occurred, rfl⟩ := step_event_eq_some_iff.mp taken
          exact kept

/-- What holds in every state of a run may be assumed of the states of its turns. -/
theorem Reaches.attach {known : Threads Shared Local → Prop}
    (holds : ∀ state, program.Reaches allowed start state → known state)
    (reached : program.Reaches allowed start state) :
    program.Reaches (fun state turn => allowed state turn ∧ known state) start state := by
  induction reached with
  | start => exact .start
  | next earlier fits taken ih => exact .next ih ⟨fits, holds _ earlier⟩ taken

/-- What has come to hold of a thread began with a turn of its own. -/
theorem Reaches.entered (own : Local → Prop) {index : Nat} (before : ¬ own (start.thread index))
    (reached : program.Reaches allowed start state) (now : own (state.thread index)) :
    ∃ earlier choice shared after, program.Reaches allowed start earlier ∧
      program.advance index choice earlier.shared (earlier.thread index) = some (shared, after) ∧
      ¬ own (earlier.thread index) ∧ own after ∧
      program.Reaches allowed ⟨shared, Function.update earlier.thread index after⟩ state := by
  induction reached with
  | start => exact (before now).elim
  | @next state _ turn earlier fits taken ih =>
      by_cases already : own (state.thread index)
      · obtain ⟨first, choice, shared, after, reached, advanced, fresh, entered, later⟩ :=
          ih already
        exact ⟨first, choice, shared, after, reached, advanced, fresh, entered,
          .next later fits taken⟩
      · cases turn with
        | event event =>
            obtain ⟨shared, occurred, rfl⟩ := step_event_eq_some_iff.mp taken
            exact (already now).elim
        | thread mover choice =>
            obtain ⟨shared, after, advanced, rfl⟩ := step_thread_eq_some_iff.mp taken
            dsimp only at now
            by_cases same : index = mover
            · subst same
              rw [Function.update_self] at now
              exact ⟨state, choice, shared, after, earlier, advanced, already, now, .start⟩
            · rw [Function.update_of_ne same] at now
              exact (already now).elim

/-- The turns of an executed list, each allowed where it is taken, reach its end. -/
theorem reaches_of_execute {turns : List (Turn Choice Event)}
    (fits : ∀ state turn, allowed state turn)
    (executed : program.execute start turns = some next) : program.Reaches allowed start next := by
  induction turns generalizing start with
  | nil =>
      cases executed
      exact .start
  | cons turn turns ih =>
      obtain ⟨middle, taken, rest⟩ := Option.bind_eq_some_iff.mp executed
      exact (Reaches.next .start (fits start turn) taken).trans (ih rest)

/-- The state after the turns of a list, if each is possible. -/
def after (program : Program Shared Local Choice Event) (start : Threads Shared Local)
    (turns : List (Turn Choice Event)) : Threads Shared Local :=
  (program.execute start turns).getD start

/-- Each turn of a list is possible and allowed when it comes. -/
def Obeys (program : Program Shared Local Choice Event)
    (allowed : Threads Shared Local → Turn Choice Event → Prop) :
    Threads Shared Local → List (Turn Choice Event) → Prop
  | _, [] => True
  | state, turn :: turns =>
      allowed state turn ∧
        match program.step state turn with
        | none => False
        | some next => Obeys program allowed next turns

instance obeysDecidable [∀ state turn, Decidable (allowed state turn)] :
    ∀ (state : Threads Shared Local) (turns : List (Turn Choice Event)),
      Decidable (program.Obeys allowed state turns)
  | _, [] => isTrue trivial
  | state, turn :: turns => by
      unfold Obeys
      cases program.step state turn with
      | none => exact inferInstanceAs (Decidable (_ ∧ False))
      | some next =>
          have := obeysDecidable next turns
          exact inferInstanceAs (Decidable (_ ∧ _))

/-- Turns that obey can be taken, and reach where they lead. -/
theorem execute_of_obeys {turns : List (Turn Choice Event)}
    (obeys : program.Obeys allowed start turns) :
    program.execute start turns = some (program.after start turns) ∧
      program.Reaches allowed start (program.after start turns) := by
  induction turns generalizing start with
  | nil => exact ⟨rfl, .start⟩
  | cons turn turns ih =>
      obtain ⟨fits, rest⟩ := obeys
      cases taken : program.step start turn with
      | none =>
          rw [taken] at rest
          exact rest.elim
      | some next =>
          rw [taken] at rest
          obtain ⟨executed, reached⟩ := ih rest
          have ends : program.execute start (turn :: turns) = some (program.after next turns) := by
            rw [execute, taken]
            exact executed
          rw [after, ends]
          exact ⟨rfl, (Reaches.next .start fits taken).trans reached⟩

/-- Turns that obey reach where they lead. -/
theorem Obeys.reaches {turns : List (Turn Choice Event)}
    (obeys : program.Obeys allowed start turns) :
    program.Reaches allowed start (program.after start turns) :=
  (execute_of_obeys obeys).2

/-- A rank that the counted turns lower, and that no other turn raises, bounds their number as
long as something lasts. -/
theorem Obeys.countP_add_le_while {known lasts : Threads Shared Local → Prop}
    {counted : Turn Choice Event → Bool} {rank : Threads Shared Local → Nat}
    {turns : List (Turn Choice Event)}
    (kept : ∀ state turn next, known state → allowed state turn →
      program.step state turn = some next →
        known next ∧ (lasts next → lasts state ∧ (counted turn).toNat + rank next ≤ rank state))
    (holds : known start) (obeys : program.Obeys allowed start turns) :
    known (program.after start turns) ∧ (lasts (program.after start turns) →
      lasts start ∧ turns.countP counted + rank (program.after start turns) ≤ rank start) := by
  induction turns generalizing start with
  | nil => exact ⟨holds, fun lasting => ⟨lasting, by simp [after, execute]⟩⟩
  | cons turn turns ih =>
      obtain ⟨fits, rest⟩ := obeys
      cases taken : program.step start turn with
      | none =>
          rw [taken] at rest
          exact rest.elim
      | some next =>
          rw [taken] at rest
          obtain ⟨later, lower⟩ := kept start turn next holds fits taken
          have ends : program.after start (turn :: turns) = program.after next turns := by
            rw [after, execute, taken, Option.bind_some, (execute_of_obeys rest).1]
            rfl
          obtain ⟨last, bound⟩ := ih later rest
          rw [ends, List.countP_cons]
          refine ⟨last, fun lasting => ?_⟩
          obtain ⟨lasted, fewer⟩ := bound lasting
          obtain ⟨before, lowers⟩ := lower lasted
          refine ⟨before, ?_⟩
          cases mine : counted turn <;> simp [mine] at lowers ⊢ <;> omega

/-- A rank that the counted turns lower, and that no other turn raises, bounds their number. -/
theorem Obeys.countP_add_le {known : Threads Shared Local → Prop}
    {counted : Turn Choice Event → Bool} {rank : Threads Shared Local → Nat}
    {turns : List (Turn Choice Event)}
    (kept : ∀ state turn next, known state → allowed state turn →
      program.step state turn = some next →
        known next ∧ (counted turn).toNat + rank next ≤ rank state)
    (holds : known start) (obeys : program.Obeys allowed start turns) :
    known (program.after start turns) ∧
      turns.countP counted + rank (program.after start turns) ≤ rank start := by
  have always : ∀ (state : Threads Shared Local) turn next, known state → allowed state turn →
      program.step state turn = some next →
        known next ∧ (True → True ∧ (counted turn).toNat + rank next ≤ rank state) := by
    intro state turn next known fits taken
    obtain ⟨later, lower⟩ := kept state turn next known fits taken
    exact ⟨later, fun _ => ⟨trivial, lower⟩⟩
  obtain ⟨later, bound⟩ := obeys.countP_add_le_while always holds
  exact ⟨later, (bound trivial).2⟩

/-- A fact that every turn keeps exactly when the turn is allowed holds after a list of turns
exactly when each of them is. -/
theorem iff_obeys_of_execute {known good : Threads Shared Local → Prop}
    {turns : List (Turn Choice Event)}
    (kept : ∀ state turn next, known state → program.step state turn = some next →
      known next ∧ (good next ↔ good state ∧ allowed state turn))
    (holds : known start) (executed : program.execute start turns = some next) :
    good next ↔ good start ∧ program.Obeys allowed start turns := by
  induction turns generalizing start with
  | nil =>
      cases executed
      simp [Obeys]
  | cons turn turns ih =>
      obtain ⟨middle, taken, rest⟩ := Option.bind_eq_some_iff.mp executed
      obtain ⟨later, exactly⟩ := kept start turn middle holds taken
      rw [ih later rest, exactly, Obeys, taken, and_assoc]

/-- A thread that has no section left stays as it is and takes no turn. -/
theorem Obeys.stays {index : Nat} {own : Local} {turns : List (Turn Choice Event)}
    (done : ∀ choice shared, program.advance index choice shared own = none)
    (at_ : start.thread index = own) (obeys : program.Obeys allowed start turns) :
    (program.after start turns).thread index = own ∧ turns.countP (Turn.isOf index) = 0 := by
  have kept : ∀ (state : Threads Shared Local) turn (next : Threads Shared Local),
      state.thread index = own → allowed state turn → program.step state turn = some next →
        next.thread index = own ∧ (turn.isOf index).toNat + 0 ≤ 0 := by
    intro state turn next at_ _ taken
    cases turn with
    | event event =>
        obtain ⟨shared, occurred, rfl⟩ := step_event_eq_some_iff.mp taken
        exact ⟨at_, Nat.le_refl _⟩
    | thread mover choice =>
        obtain ⟨shared, after, advanced, rfl⟩ := step_thread_eq_some_iff.mp taken
        by_cases moved : index = mover
        · subst moved
          rw [at_, done] at advanced
          cases advanced
        · exact ⟨(Function.update_of_ne moved ..).trans at_, by simp [Turn.isOf, Ne.symm moved]⟩
  obtain ⟨stays, bound⟩ := obeys.countP_add_le kept at_
  exact ⟨stays, Nat.le_zero.mp bound⟩

/-- A fact about the shared state together with a fact about each thread, kept by the
sections of that thread, by those of the others, and by every event. -/
structure Stable (program : Program Shared Local Choice Event)
    (allowed : Threads Shared Local → Turn Choice Event → Prop)
    (global : Shared → Prop) (own : Nat → Shared → Local → Prop) : Prop where
  advances : ∀ (state : Threads Shared Local) (index : Nat) (choice : Choice) (shared : Shared)
    (after : Local), global state.shared → (∀ other, own other state.shared (state.thread other)) →
    allowed state (.thread index choice) →
    program.advance index choice state.shared (state.thread index) = some (shared, after) →
      global shared ∧ own index shared after ∧
        ∀ other, other ≠ index → own other shared (state.thread other)
  occurs : ∀ (state : Threads Shared Local) (event : Event) (shared : Shared),
    global state.shared → (∀ other, own other state.shared (state.thread other)) →
    allowed state (.event event) → program.occur event state.shared = some shared →
      global shared ∧ ∀ other, own other shared (state.thread other)

/-- A stable pair of facts that holds at the start holds in every state of a run. -/
theorem Stable.reaches {global : Shared → Prop} {own : Nat → Shared → Local → Prop}
    (stable : program.Stable allowed global own) (shared : global start.shared)
    (threads : ∀ index, own index start.shared (start.thread index))
    (reached : program.Reaches allowed start state) :
    global state.shared ∧ ∀ index, own index state.shared (state.thread index) := by
  have kept : ∀ (state : Threads Shared Local) turn next,
      (global state.shared ∧ ∀ index, own index state.shared (state.thread index)) →
      allowed state turn → program.step state turn = some next →
        global next.shared ∧ ∀ index, own index next.shared (next.thread index) := by
    intro state turn next holds fits taken
    cases turn with
    | thread index choice =>
        obtain ⟨after, local_, advanced, rfl⟩ := step_thread_eq_some_iff.mp taken
        obtain ⟨kept, mine, theirs⟩ :=
          stable.advances state index choice after local_ holds.1 holds.2 fits advanced
        refine ⟨kept, fun other => ?_⟩
        dsimp only
        by_cases same : other = index
        · subst same
          rw [Function.update_self]
          exact mine
        · rw [Function.update_of_ne same]
          exact theirs other same
    | event event =>
        obtain ⟨after, occurred, rfl⟩ := step_event_eq_some_iff.mp taken
        exact stable.occurs state event after holds.1 holds.2 fits occurred
  induction reached with
  | start => exact ⟨shared, threads⟩
  | next earlier fits taken ih => exact kept _ _ _ ih fits taken

end Program

end Foundation
