import FaceAuth.Foundation.Stepwise
import Mathlib.Data.List.Induction

/-!
# Computations with a history

The state of a computation is the list of the events so far, to which it
appends. Some events may say that it has to stop, and some must not come after
that. It heeds the signal when it then fails for good, whatever its parts answer.
-/

namespace Foundation

namespace Stepwise

/-! ## Appending -/

section Appends

variable {Event Error Failure Value Next : Type} {kind : Event → Prop}
  {computation : Stepwise (List Event) Error Value}

/-- The computation appends events of one kind to the history. -/
def Appends (kind : Event → Prop) (computation : Stepwise (List Event) Error Value) : Prop :=
  ∀ start, ∃ added, (computation start).state = start ++ added ∧ ∀ event ∈ added, kind event

/-- A computation that leaves the history appends nothing. -/
theorem Appends.of_same (same : ∀ start, (computation start).state = start) :
    Appends kind computation := by
  intro start
  refine ⟨[], ?_, by simp⟩
  rw [same, List.append_nil]

/-- Returning appends nothing. -/
theorem Appends.pure (value : Value) :
    Appends kind (Pure.pure value : Stepwise (List Event) Error Value) := .of_same fun _ => rfl

/-- Looking appends nothing. -/
theorem Appends.ask (look : List Event → Except Error Value) :
    Appends kind (Stepwise.ask look) := .of_same fun _ => rfl

/-- A result that is already there appends nothing. -/
theorem Appends.ofExcept (result : Except Error Value) :
    Appends kind (Stepwise.ofExcept result : Stepwise (List Event) Error Value) :=
  .of_same fun _ => rfl

/-- A step appends its event. -/
theorem Appends.act {look : List Event → Except Error Value} {event : List Event → Event}
    (kept : ∀ history, kind (event history)) :
    Appends kind (Stepwise.act fun history => (look history, history ++ [event history])) := by
  intro start
  exact ⟨[event start], rfl, by simpa using kept start⟩

/-- Two parts append what each of them does. -/
theorem Appends.bind {next : Value → Stepwise (List Event) Error Next}
    (first : Appends kind computation) (second : ∀ value, Appends kind (next value)) :
    Appends kind (computation >>= next) := by
  intro start
  obtain ⟨early, began, kept⟩ := first start
  cases result : (computation start).result with
  | error error =>
      rw [bind_of_error result]
      exact ⟨early, began, kept⟩
  | ok value =>
      obtain ⟨late, ended, rest⟩ := second value (computation start).state
      rw [bind_of_ok result]
      refine ⟨early ++ late, ?_, fun event member => ?_⟩
      · rw [ended, began, List.append_assoc]
      · exact (List.mem_append.mp member).elim (kept event) (rest event)

/-- A failure that is caught leaves what was appended. -/
theorem Appends.attempt (inner : Appends kind computation) :
    Appends kind (Stepwise.attempt computation :
      Stepwise (List Event) Failure (Except Error Value)) := inner

/-- The handler of a failure appends after it. -/
theorem Appends.rescue {handle : Error → Stepwise (List Event) Failure Value}
    (inner : Appends kind computation) (handled : ∀ error, Appends kind (handle error)) :
    Appends kind (Stepwise.rescue computation handle) := by
  refine inner.attempt.bind fun result => ?_
  cases result with
  | ok value => exact .pure value
  | error error => exact handled error

end Appends

/-! ## Heeding a signal -/

section Heeds

variable {Event Error Failure Value Next : Type} {stops uses : Event → Prop}
  {harmless : Error → Prop} {minor : Failure → Prop}

/-- Nothing of the forbidden kind comes after an event that says to stop. -/
def Heeded (stops uses : Event → Prop) (events : List Event) : Prop :=
  events.Pairwise fun earlier later => stops earlier → ¬ uses later

/-- The computation appends to the history and heeds the signal. Unless it fails with an
error that is not harmless, nothing told it to stop. -/
def Heeds (stops uses : Event → Prop) (harmless : Error → Prop)
    (computation : Stepwise (List Event) Error Value) : Prop :=
  ∀ start, ∃ added, (computation start).state = start ++ added ∧ Heeded stops uses added ∧
    ((∀ error, (computation start).result = .error error → harmless error) →
      ∀ event ∈ added, ¬ stops event)

/-- The computation fails for good, with no event of the forbidden kind. -/
def Closes (uses : Event → Prop) (harmless : Error → Prop)
    (computation : Stepwise (List Event) Error Value) : Prop :=
  ∀ start, ∃ added, (computation start).state = start ++ added ∧ (∀ event ∈ added, ¬ uses event) ∧
    ∃ error, (computation start).result = .error error ∧ ¬ harmless error

/-- Nothing is heeded of nothing. -/
theorem heeded_nil : Heeded stops uses ([] : List Event) := .nil

/-- A history without a use heeds every stop. -/
theorem heeded_of_silent {events : List Event} (silent : ∀ event ∈ events, ¬ uses event) :
    Heeded stops uses events := by
  refine List.pairwise_of_forall_mem_list fun earlier _ later member _ => ?_
  exact silent later member

/-- Two parts are heeded together when the first does not stop or the second does not use. -/
theorem heeded_append {first second : List Event} (early : Heeded stops uses first)
    (late : Heeded stops uses second)
    (ends : (∀ event ∈ first, ¬ stops event) ∨ ∀ event ∈ second, ¬ uses event) :
    Heeded stops uses (first ++ second) := by
  refine List.pairwise_append.mpr ⟨early, late, fun earlier before later after told => ?_⟩
  rcases ends with calm | silent
  · exact (calm earlier before told).elim
  · exact silent later after

variable {computation : Stepwise (List Event) Error Value}

/-- What closes heeds every stop. -/
theorem Closes.heeds (closes : Closes uses harmless computation) :
    Heeds stops uses harmless computation := by
  intro start
  obtain ⟨added, appended, silent, error, failed, serious⟩ := closes start
  refine ⟨added, appended, heeded_of_silent silent, fun only => ?_⟩
  exact (serious (only error failed)).elim

/-- A computation that leaves the history heeds every stop. -/
theorem Heeds.of_same (same : ∀ start, (computation start).state = start) :
    Heeds stops uses harmless computation := by
  intro start
  refine ⟨[], ?_, heeded_nil, by simp⟩
  rw [same, List.append_nil]

/-- Returning heeds every stop. -/
theorem Heeds.pure (value : Value) :
    Heeds stops uses harmless (Pure.pure value : Stepwise (List Event) Error Value) :=
  .of_same fun _ => rfl

/-- Looking heeds every stop. -/
theorem Heeds.ask (look : List Event → Except Error Value) :
    Heeds stops uses harmless (Stepwise.ask look) := .of_same fun _ => rfl

/-- A result that is already there heeds every stop. -/
theorem Heeds.ofExcept (result : Except Error Value) :
    Heeds stops uses harmless (Stepwise.ofExcept result : Stepwise (List Event) Error Value) :=
  .of_same fun _ => rfl

/-- A serious failure closes. -/
theorem Closes.ofExcept {error : Error} (serious : ¬ harmless error) :
    Closes uses harmless
      (Stepwise.ofExcept (.error error) : Stepwise (List Event) Error Value) := by
  intro start
  exact ⟨[], (List.append_nil start).symm, by simp, error, rfl, serious⟩

/-- One event, which says to stop only where the computation fails for good. -/
theorem Heeds.act {look : List Event → Except Error Value} {event : List Event → Event}
    (told : ∀ history, stops (event history) →
      ∃ error, look history = .error error ∧ ¬ harmless error) :
    Heeds stops uses harmless
      (Stepwise.act fun history => (look history, history ++ [event history])) := by
  intro start
  refine ⟨[event start], rfl, List.pairwise_singleton .., fun only other member => ?_⟩
  rw [List.mem_singleton.mp member]
  intro stop
  obtain ⟨error, failed, serious⟩ := told start stop
  exact serious (only error failed)

/-- An event that does not stop is heeded. -/
theorem Heeds.change {event : Event} (calm : ¬ stops event) :
    Heeds stops uses harmless
      (Stepwise.change fun history => history ++ [event] :
        Stepwise (List Event) Error Unit) := by
  intro start
  refine ⟨[event], rfl, List.pairwise_singleton .., fun _ other member => ?_⟩
  rw [List.mem_singleton.mp member]
  exact calm

/-- Two parts heed every stop together. -/
theorem Heeds.bind {next : Value → Stepwise (List Event) Error Next}
    (first : Heeds stops uses harmless computation)
    (second : ∀ value, Heeds stops uses harmless (next value)) :
    Heeds stops uses harmless (computation >>= next) := by
  intro start
  obtain ⟨early, began, heeded, calm⟩ := first start
  cases result : (computation start).result with
  | error error =>
      rw [bind_of_error result]
      refine ⟨early, began, heeded, fun only => calm fun other failed => only other ?_⟩
      cases result.symm.trans failed
      rfl
  | ok value =>
      obtain ⟨late, ended, rest, quiet⟩ := second value (computation start).state
      rw [bind_of_ok result]
      have before : ∀ event ∈ early, ¬ stops event := calm (by simp [result])
      refine ⟨early ++ late, ?_, heeded_append heeded rest (.inl before), fun only => ?_⟩
      · rw [ended, began, List.append_assoc]
      · intro event member
        cases List.mem_append.mp member with
        | inl inEarly => exact before event inEarly
        | inr inLate => exact quiet only event inLate

/-- Where the answer to a question says to stop, the rest has to close. -/
theorem Heeds.question {look : List Event → Value} {event : Value → Event}
    {next : Value → Stepwise (List Event) Error Next}
    (goesOn : ∀ value, ¬ stops (event value) → Heeds stops uses harmless (next value))
    (closes : ∀ value, stops (event value) → Closes uses harmless (next value)) :
    Heeds stops uses harmless
      ((Stepwise.act fun history => (.ok (look history), history ++ [event (look history)])) >>=
        next) := by
  intro start
  rw [@bind_of_ok _ _ _ _ _ next start (look start) rfl]
  have single : Heeded stops uses [event (look start)] := List.pairwise_singleton ..
  by_cases told : stops (event (look start))
  · obtain ⟨late, ended, silent, error, failed, serious⟩ :=
      closes _ told (start ++ [event (look start)])
    refine ⟨[event (look start)] ++ late, ?_, ?_, fun only => ?_⟩
    · exact ended.trans (List.append_assoc ..)
    · exact heeded_append single (heeded_of_silent silent) (.inr silent)
    · exact (serious (only error failed)).elim
  · obtain ⟨late, ended, rest, quiet⟩ := goesOn _ told (start ++ [event (look start)])
    have calm : ∀ other ∈ [event (look start)], ¬ stops other := by simpa using told
    refine ⟨[event (look start)] ++ late, ?_, ?_, fun only other member => ?_⟩
    · exact ended.trans (List.append_assoc ..)
    · exact heeded_append single rest (.inl calm)
    · cases List.mem_append.mp member with
      | inl inSingle => exact calm other inSingle
      | inr inLate => exact quiet only other inLate

/-- What follows a failure that is not harmless has to close. -/
theorem Heeds.attempt_bind {next : Except Error Value → Stepwise (List Event) Failure Next}
    (inner : Heeds stops uses harmless computation)
    (returns : ∀ value, Heeds stops uses minor (next (.ok value)))
    (goesOn : ∀ error, harmless error → Heeds stops uses minor (next (.error error)))
    (closes : ∀ error, ¬ harmless error → Closes uses minor (next (.error error))) :
    Heeds stops uses minor (attempt computation >>= next) := by
  intro start
  obtain ⟨early, began, heeded, calm⟩ := inner start
  rw [@bind_of_ok _ _ _ _ (attempt computation) next start (computation start).result rfl]
  change ∃ added, (next (computation start).result (computation start).state).state =
    start ++ added ∧ _
  have goes : (∀ error, (computation start).result = .error error → harmless error) →
      Heeds stops uses minor (next (computation start).result) := by
    intro only
    cases result : (computation start).result with
    | ok value => exact returns value
    | error error => exact goesOn error (only error result)
  by_cases only : ∀ error, (computation start).result = .error error → harmless error
  · obtain ⟨late, ended, rest, quiet⟩ := goes only (computation start).state
    refine ⟨early ++ late, ?_, heeded_append heeded rest (.inl (calm only)), fun mild => ?_⟩
    · rw [ended, began, List.append_assoc]
    · intro event member
      cases List.mem_append.mp member with
      | inl inEarly => exact calm only event inEarly
      | inr inLate => exact quiet mild event inLate
  · push Not at only
    obtain ⟨error, failed, serious⟩ := only
    rw [failed]
    obtain ⟨late, ended, silent, other, closed, grave⟩ :=
      closes error serious (computation start).state
    refine ⟨early ++ late, ?_, ?_, fun mild => (grave (mild other closed)).elim⟩
    · rw [ended, began, List.append_assoc]
    · exact heeded_append heeded (heeded_of_silent silent) (.inr silent)

/-- A handler that closes after serious failures heeds every stop. -/
theorem Heeds.rescue {handle : Error → Stepwise (List Event) Failure Value}
    (inner : Heeds stops uses harmless computation)
    (goesOn : ∀ error, harmless error → Heeds stops uses minor (handle error))
    (closes : ∀ error, ¬ harmless error → Closes uses minor (handle error)) :
    Heeds stops uses minor (Stepwise.rescue computation handle) :=
  inner.attempt_bind (fun value => .pure value) goesOn closes

end Heeds

end Stepwise

/-! ## What is found along a history -/

section Gather

variable {Event Found : Type} {look : List Event → Event → Option Found}
  {history first second : List Event} {kind : Found → Prop}

/-- What is found at the events that follow a history, each of them looked at together with
what came before it. -/
def gather (look : List Event → Event → Option Found) : List Event → List Event → List Found
  | _, [] => []
  | history, event :: events =>
      (look history event).toList ++ gather look (history ++ [event]) events

/-- Nothing is gathered from nothing. -/
@[simp] theorem gather_nil : gather look history [] = [] := rfl

/-- An event is looked at in the history before it. -/
theorem gather_cons {event : Event} {events : List Event} :
    gather look history (event :: events) =
      (look history event).toList ++ gather look (history ++ [event]) events := rfl

/-- What is gathered from the first part comes before the rest. -/
theorem gather_append :
    gather look history (first ++ second) =
      gather look history first ++ gather look (history ++ first) second := by
  induction first generalizing history with
  | nil => rw [List.nil_append, gather_nil, List.append_nil, List.nil_append]
  | cons event first ih =>
      rw [List.cons_append, gather_cons, gather_cons, ih, List.append_assoc, List.append_assoc,
        List.singleton_append]

/-- Everything that is found is of one kind. -/
theorem forall_mem_gather
    (every : ∀ before, ∀ event ∈ second, ∀ found ∈ look before event, kind found) :
    ∀ found ∈ gather look history second, kind found := by
  induction second generalizing history with
  | nil => exact List.forall_mem_nil _
  | cons event second ih =>
      rw [gather_cons]
      refine List.forall_mem_append.mpr ⟨fun found member => ?_, ?_⟩
      · exact every history event (List.mem_cons_self ..) found (Option.mem_toList.mp member)
      · exact ih fun before other member => every before other (.tail _ member)

end Gather

/-! ## What happens along a history -/

section Occurs

variable {Event : Type} {holds : List Event → Event → Prop} {kind : Event → Prop}

/-- An event of which a fact holds, after what came before it. -/
def Occurs (holds : List Event → Event → Prop) (history : List Event) : Prop :=
  ∃ before event after, history = before ++ event :: after ∧ holds before event

/-- Nothing occurs in nothing. -/
theorem occurs_nil : ¬ Occurs holds [] := by
  intro occurs
  obtain ⟨before, event, after, same, -⟩ := occurs
  simp at same

/-- It occurs in the history, or with the last event. -/
@[simp] theorem occurs_concat {history : List Event} {event : Event} :
    Occurs holds (history ++ [event]) ↔ Occurs holds history ∨ holds history event := by
  constructor
  · intro occurs
    obtain ⟨before, other, after, same, found⟩ := occurs
    cases after using List.reverseRecOn with
    | nil =>
        obtain ⟨rfl, last⟩ := List.append_inj' same rfl
        cases last
        exact .inr found
    | append_singleton after last =>
        rw [← List.cons_append, ← List.append_assoc] at same
        obtain ⟨rfl, -⟩ := List.append_inj' same rfl
        exact .inl ⟨before, other, after, rfl, found⟩
  · intro either
    rcases either with occurs | found
    · obtain ⟨before, other, after, rfl, found⟩ := occurs
      exact ⟨before, other, after ++ [event], by simp, found⟩
    · exact ⟨history, event, [], rfl, found⟩

/-- What has occurred stays so. -/
theorem Occurs.append {history : List Event} (occurs : Occurs holds history)
    (added : List Event) : Occurs holds (history ++ added) := by
  obtain ⟨before, event, after, rfl, found⟩ := occurs
  exact ⟨before, event, after ++ added, by simp, found⟩

/-- Events of which the fact never holds change nothing. -/
theorem occurs_append_silent {history added : List Event}
    (silent : ∀ event, kind event → ∀ before, ¬ holds before event)
    (every : ∀ event ∈ added, kind event) :
    Occurs holds (history ++ added) ↔ Occurs holds history := by
  induction added using List.reverseRecOn with
  | nil => rw [List.append_nil]
  | append_singleton added event ih =>
      rw [← List.append_assoc, occurs_concat,
        ih fun other member => every other (List.mem_append_left _ member)]
      exact or_iff_left (silent event (every event (by simp)) _)

end Occurs

end Foundation
