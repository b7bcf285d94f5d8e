import Mathlib.Algebra.BigOperators.Group.List.Basic
import Mathlib.Algebra.GroupWithZero.Nat
import Mathlib.Data.List.Sort
import Mathlib.Order.Basic

/-!
# Order statistics

The items of a sorted list that have a downwards closed property come first, so a
position of the list is within them exactly if it is below their number. The item of
a rank is therefore known from how many items are below a value, and how many are
below it or equal: the sums of the first frequencies of a histogram.
-/

namespace Foundation

section Order

variable {Item : Type*}

/-- A position holds an item of a downwards closed property iff it is below the count. -/
theorem getElem?_iff_lt_countP {property : Item → Prop} [DecidablePred property]
    {items : List Item} {index : Nat} {item : Item}
    (closed : items.Pairwise fun first second => property second → property first)
    (known : items[index]? = some item) :
    property item ↔ index < items.countP fun item => property item := by
  induction items generalizing index with
  | nil => cases known
  | cons first rest ih =>
      obtain ⟨below, closed⟩ := List.pairwise_cons.mp closed
      by_cases holds : property first
      · have count : (first :: rest).countP (fun item => property item) =
            rest.countP (fun item => property item) + 1 :=
          List.countP_cons_of_pos (decide_eq_true holds)
        rw [count]
        cases index with
        | zero =>
            obtain rfl := Option.some.inj known
            exact iff_of_true holds (Nat.succ_pos _)
        | succ index =>
            rw [ih closed known, Nat.succ_lt_succ_iff]
      · have none : ∀ item ∈ rest, ¬ property item :=
          fun item member later => holds (below item member later)
        have count : (first :: rest).countP (fun item => property item) = 0 := by
          rw [List.countP_eq_zero]
          simpa [holds] using none
        rw [count]
        refine iff_of_false ?_ (Nat.not_lt_zero _)
        cases List.mem_cons.mp (List.mem_of_getElem? known) with
        | inl same => exact same ▸ holds
        | inr member => exact none item member

variable [LinearOrder Item]

/-- The item of a rank among items in any order. -/
def orderStatistic (items : List Item) (rank : Nat) : Option Item :=
  (items.insertionSort (· ≤ ·))[rank]?

/-- Every rank below the length has its item. -/
theorem orderStatistic_of_lt {items : List Item} {rank : Nat} (inside : rank < items.length) :
    ∃ item, orderStatistic items rank = some item := by
  rw [← List.length_insertionSort (· ≤ ·)] at inside
  exact ⟨_, List.getElem?_eq_getElem inside⟩

/-- An order statistic is one of the items. -/
theorem mem_of_orderStatistic {items : List Item} {rank : Nat} {item : Item}
    (known : orderStatistic items rank = some item) : item ∈ items :=
  (List.perm_insertionSort (· ≤ ·) items).mem_iff.mp (List.mem_of_getElem? known)

/-- The item of a rank has at most so many items below it, and more below it or equal. -/
theorem orderStatistic_spec {items : List Item} {rank : Nat} {item : Item}
    (known : orderStatistic items rank = some item) :
    items.countP (· < item) ≤ rank ∧ rank < items.countP (· ≤ item) := by
  have sorted := List.pairwise_insertionSort (· ≤ ·) items
  have same := List.perm_insertionSort (· ≤ ·) items
  constructor
  · rw [← same.countP_eq, ← not_lt,
      ← getElem?_iff_lt_countP (sorted.imp fun order => order.trans_lt) known]
    exact lt_irrefl item
  · rw [← same.countP_eq,
      ← getElem?_iff_lt_countP (sorted.imp fun order => order.trans) known]

/-- Higher ranks have higher items. -/
theorem orderStatistic_mono {items : List Item} {rank later : Nat} {low high : Item}
    (order : rank ≤ later) (lower : orderStatistic items rank = some low)
    (higher : orderStatistic items later = some high) : low ≤ high := by
  by_contra above
  have inverted : high < low := not_le.mp above
  have counts : items.countP (· ≤ high) ≤ items.countP (· < low) := by
    apply List.countP_mono_left
    intro item _ below
    exact decide_eq_true ((of_decide_eq_true below).trans_lt inverted)
  have before := (orderStatistic_spec lower).1
  have after := (orderStatistic_spec higher).2
  omega

end Order

/-! ## Histograms -/

/-- The frequencies of the numbers below a bound. -/
def histogram (levels : Nat) (items : List Nat) : List Nat :=
  (List.range levels).map fun level => items.count level

section Histogram

variable {levels : Nat} {items : List Nat}

/-- A histogram has a bin for each level. -/
@[simp] theorem length_histogram : (histogram levels items).length = levels := by
  simp [histogram]

/-- A bin counts the items of its level. -/
theorem getElem?_histogram {level : Nat} (inside : level < levels) :
    (histogram levels items)[level]? = some (items.count level) := by
  simp [histogram, inside]

/-- The histogram of nothing is empty. -/
theorem histogram_nil : histogram levels [] = List.replicate levels 0 := by
  apply List.ext_getElem
  · simp
  · simp [histogram]

/-- One more item adds one to its frequency. -/
theorem histogram_concat {item : Nat} :
    histogram levels (items ++ [item]) =
      (histogram levels items).set item (items.count item + 1) := by
  apply List.ext_getElem
  · simp
  · intro level inside inside'
    rw [List.getElem_set]
    split
    · next same => simp [histogram, ← same]
    · next other => simp [histogram, List.count_singleton, other]

/-- Below the next level are those below and those at this one. -/
theorem countP_lt_succ (items : List Nat) (level : Nat) :
    items.countP (· < level + 1) = items.countP (· < level) + items.count level := by
  induction items with
  | nil => rfl
  | cons item rest ih =>
      simp only [List.countP_cons, List.count_cons, ih, decide_eq_true_iff, beq_iff_eq]
      split <;> split <;> split <;> omega

/-- The first frequencies count the items below a level. -/
theorem sum_take_histogram {level : Nat} (inside : level ≤ levels) :
    ((histogram levels items).take level).sum = items.countP (· < level) := by
  induction level with
  | zero => simp
  | succ level ih =>
      rw [List.take_add_one, getElem?_histogram inside, List.sum_append, ih (by omega),
        countP_lt_succ]
      simp

/-- The bins count every item once. -/
theorem sum_histogram (inside : ∀ item ∈ items, item < levels) :
    (histogram levels items).sum = items.length := by
  have all := @sum_take_histogram levels items levels (Nat.le_refl levels)
  rw [List.take_of_length_le (by simp)] at all
  rw [all, List.countP_eq_length]
  simpa using inside

/-- Where the sums of the first frequencies pass a rank, there is the item of this rank. -/
theorem sum_take_orderStatistic {rank level : Nat} (inside : level < levels)
    (known : orderStatistic items rank = some level) :
    ((histogram levels items).take level).sum ≤ rank ∧
      rank < ((histogram levels items).take (level + 1)).sum := by
  rw [sum_take_histogram (by omega), sum_take_histogram (by omega)]
  simp only [Nat.lt_succ_iff]
  exact orderStatistic_spec known

end Histogram

end Foundation
