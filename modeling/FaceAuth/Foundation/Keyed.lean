import FaceAuth.Foundation.Check
import Mathlib.Data.List.Perm.Subperm

/-!
# Items with keys

Lists whose items are told apart by a key: what picking one out by its key finds, what
mapping and removing leave.
-/

namespace Foundation

/-- Different items, as many as a list has and all from it, are that list. -/
theorem perm_of_mem {Item : Type} {items all : List Item} (unique : items.Nodup)
    (count : all.length = items.length) (within : ∀ item ∈ items, item ∈ all) :
    items.Perm all :=
  (unique.subperm within).perm_of_length_le (Nat.le_of_eq count)

section Names

variable {Item Key : Type} [DecidableEq Key] {name : Item → Key}

/-- Among items that are told apart by their names, one is picked out by its own. -/
theorem filter_of_nodup {items : List Item} (unique : (items.map name).Nodup) {item : Item}
    (member : item ∈ items) {key : Key} (known : name item = key) :
    items.filter (fun other => decide (name other = key)) = [item] := by
  induction items with
  | nil => cases member
  | cons first items ih =>
      rw [List.map_cons, List.nodup_cons] at unique
      rcases List.mem_cons.mp member with rfl | later
      · rw [List.filter_cons_of_pos (by simpa using known), List.filter_eq_nil_iff.mpr]
        intro other inside same
        apply unique.1
        rw [known, ← of_decide_eq_true same]
        exact List.mem_map_of_mem inside
      · have other : name first ≠ key := fun same =>
          unique.1 (same.trans known.symm ▸ List.mem_map_of_mem later)
        rw [List.filter_cons_of_neg (by simpa using other)]
        exact ih unique.2 later

end Names

/-- A loop of checks passes when each of them does. -/
theorem forM_eq_ok_iff {Item Error : Type} {check : Item → Except Error Unit}
    {items : List Item} : items.forM check = .ok () ↔ ∀ item ∈ items, check item = .ok () := by
  induction items with
  | nil => exact iff_of_true rfl (List.forall_mem_nil _)
  | cons item items ih =>
      change (check item >>= fun _ => items.forM check) = .ok () ↔ _
      rw [check_bind_eq_ok_iff, List.forall_mem_cons, ih]

/-- What a map answers, item by item. -/
theorem mapM_eq_ok_iff {Item Answer Error : Type} {step : Item → Except Error Answer}
    {items : List Item} {answers : List Answer} :
    items.mapM step = .ok answers ↔ ∃ pairs : List (Item × Answer),
      pairs.map Prod.fst = items ∧ pairs.map Prod.snd = answers ∧
        ∀ pair ∈ pairs, step pair.1 = .ok pair.2 := by
  induction items generalizing answers with
  | nil =>
      constructor
      · rintro ⟨⟩
        exact ⟨[], rfl, rfl, List.forall_mem_nil _⟩
      · rintro ⟨pairs, none, rfl, -⟩
        cases List.map_eq_nil_iff.mp none
        rfl
  | cons item items ih =>
      rw [List.mapM_cons, bind_eq_ok_iff]
      constructor
      · rintro ⟨answer, first, rest⟩
        obtain ⟨others, mapped, done⟩ := bind_eq_ok_iff.mp rest
        cases done
        obtain ⟨pairs, rfl, rfl, each⟩ := ih.mp mapped
        exact ⟨(item, answer) :: pairs, rfl, rfl, List.forall_mem_cons.mpr ⟨first, each⟩⟩
      · rintro ⟨pairs, whole, rfl, each⟩
        obtain ⟨pair, pairs, rfl, rfl, rfl⟩ := List.map_eq_cons_iff.mp whole
        rw [List.forall_mem_cons] at each
        exact ⟨pair.2, each.1, bind_eq_ok_iff.mpr
          ⟨pairs.map Prod.snd, ih.mpr ⟨pairs, rfl, rfl, each.2⟩, rfl⟩⟩

/-! ## Taking items out -/

section Remove

variable {Item : Type}

/-- Take an item out and put the last one in its place. -/
def swapRemove (items : List Item) (index : Nat) : List Item :=
  match items.getLast? with
  | none => []
  | some last => (items.set index last).dropLast

/-- Removing by a swap keeps all other items. -/
theorem swapRemove_perm {items : List Item} {index : Nat} {item : Item}
    (found : items[index]? = some item) : (item :: swapRemove items index).Perm items := by
  rcases List.eq_nil_or_concat' items with rfl | ⟨front, last, rfl⟩
  · cases found
  have ended : (front ++ [last]).getLast? = some last := List.getLast?_concat
  simp only [swapRemove, ended]
  by_cases inside : index < front.length
  · rw [List.getElem?_append_left inside, List.getElem?_eq_getElem inside,
      Option.some.injEq] at found
    rw [List.set_append_left _ _ inside, List.dropLast_concat, ← found]
    have moved : (front.set index last).Perm (last :: front.eraseIdx index) :=
      List.set_perm_cons_eraseIdx inside last
    have whole : (front[index] :: front.eraseIdx index).Perm front :=
      List.getElem_cons_eraseIdx_perm inside
    exact ((moved.cons _).trans (.swap ..)).trans
      ((whole.cons last).trans (List.perm_append_singleton last front).symm)
  · have bound : index < (front ++ [last]).length :=
      (List.getElem?_eq_some_iff.mp found).1
    have final : index = front.length := by
      rw [List.length_append, List.length_singleton] at bound
      omega
    subst final
    rw [List.getElem?_concat_length, Option.some.injEq] at found
    rw [List.set_append_right _ _ (Nat.le_refl _), Nat.sub_self, List.set_cons_zero,
      List.dropLast_concat, found]
    exact (List.perm_append_singleton item front).symm

/-- Take out the first item that a test holds of. -/
def takeFirst (test : Item → Bool) (items : List Item) : Option (Item × List Item) := do
  let index ← items.findIdx? test
  let item ← items[index]?
  pure (item, swapRemove items index)

/-- What is taken passes the test, and the others stay. -/
theorem takeFirst_perm {test : Item → Bool} {items rest : List Item} {item : Item}
    (taken : takeFirst test items = some (item, rest)) :
    test item = true ∧ (item :: rest).Perm items := by
  simp only [takeFirst, Option.bind_eq_bind, Option.bind_eq_some_iff] at taken
  obtain ⟨index, first, other, found, done⟩ := taken
  cases done
  obtain ⟨bound, holds, -⟩ := List.findIdx?_eq_some_iff_getElem.mp first
  have same : items[index] = item := (List.getElem?_eq_some_iff.mp found).2
  exact ⟨same ▸ holds, swapRemove_perm found⟩

/-- Something is taken when an item passes. -/
theorem takeFirst_isSome {test : Item → Bool} {items : List Item} {item : Item}
    (member : item ∈ items) (holds : test item = true) : (takeFirst test items).isSome := by
  have found : (items.findIdx? test).isSome := by
    rw [List.findIdx?_isSome, List.any_eq_true]
    exact ⟨item, member, holds⟩
  obtain ⟨index, first⟩ := Option.isSome_iff_exists.mp found
  obtain ⟨bound, -⟩ := List.findIdx?_eq_some_iff_getElem.mp first
  simp [takeFirst, first, List.getElem?_eq_getElem bound]

end Remove

end Foundation
