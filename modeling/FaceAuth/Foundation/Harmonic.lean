import FaceAuth.Foundation.Float32
import Mathlib.Algebra.Order.BigOperators.Group.List
import Mathlib.Algebra.Order.Field.Basic
import Mathlib.Algebra.BigOperators.Ring.List
import Mathlib.Order.Bounds.Basic

/-!
# Weighted harmonic means

The mean of positive values by the sum of their reciprocals. It is at least the
least of the values, and no value that grows makes it smaller.
-/

namespace Foundation.Harmonic

variable {Number : Type} [Field Number] [LinearOrder Number] [IsStrictOrderedRing Number]

/-- The weights of pairs of a value and a weight, added up. -/
def weightSum (pairs : List (Number × Number)) : Number := (pairs.map Prod.snd).sum

/-- The weights over their values, added up. -/
def reciprocalSum (pairs : List (Number × Number)) : Number :=
  (pairs.map fun pair => pair.2 / pair.1).sum

/-- The weighted harmonic mean. -/
def mean (pairs : List (Number × Number)) : Number := weightSum pairs / reciprocalSum pairs

/-- There are pairs, and each value and each weight is positive. -/
structure Positive (pairs : List (Number × Number)) : Prop where
  nonempty : pairs ≠ []
  value : ∀ pair ∈ pairs, 0 < pair.1
  weight : ∀ pair ∈ pairs, 0 < pair.2

/-- Both sums, taken in one pass. -/
def sums (pairs : List (Number × Number)) (start : Number × Number) : Number × Number :=
  pairs.foldl (fun sums pair => (sums.1 + pair.2, sums.2 + pair.2 / pair.1)) start

variable {pairs larger : List (Number × Number)}

omit [LinearOrder Number] [IsStrictOrderedRing Number] in
/-- The two sums in one pass. -/
theorem sums_eq (start : Number × Number) :
    sums pairs start = (start.1 + weightSum pairs, start.2 + reciprocalSum pairs) := by
  induction pairs generalizing start with
  | nil => simp [sums, weightSum, reciprocalSum]
  | cons first rest ih =>
      change sums rest _ = _
      rw [ih]
      simp only [weightSum, reciprocalSum, List.map_cons, List.sum_cons, add_assoc]

namespace Positive

/-- Positive weights sum up to something positive. -/
theorem weightSum_pos (positive : Positive pairs) : 0 < weightSum pairs := by
  apply List.sum_pos
  · intro weight member
    obtain ⟨pair, known, rfl⟩ := List.mem_map.mp member
    exact positive.weight pair known
  · simpa using positive.nonempty

/-- So do their quotients by positive values. -/
theorem reciprocalSum_pos (positive : Positive pairs) : 0 < reciprocalSum pairs := by
  apply List.sum_pos
  · intro term member
    obtain ⟨pair, known, rfl⟩ := List.mem_map.mp member
    exact div_pos (positive.weight pair known) (positive.value pair known)
  · simpa using positive.nonempty

/-- The mean is not below the least value. -/
theorem le_mean (positive : Positive pairs) {least : Number}
    (below : ∀ pair ∈ pairs, least ≤ pair.1) : least ≤ mean pairs := by
  rw [mean, le_div_iff₀ positive.reciprocalSum_pos, reciprocalSum, ← List.sum_map_mul_left]
  apply List.sum_le_sum
  intro pair member
  have value := positive.value pair member
  calc least * (pair.2 / pair.1) ≤ pair.1 * (pair.2 / pair.1) := by
        apply mul_le_mul_of_nonneg_right (below pair member)
        exact div_nonneg (positive.weight pair member).le value.le
    _ = pair.2 := mul_div_cancel₀ _ value.ne'

end Positive

/-- A value that has grown under the weight that it had. -/
structure Grown (pair larger : Number × Number) : Prop where
  value : pair.1 ≤ larger.1
  weight : larger.2 = pair.2

omit [IsStrictOrderedRing Number] in
/-- Larger values leave the weights. -/
theorem weightSum_grown (grown : List.Forall₂ Grown pairs larger) :
    weightSum larger = weightSum pairs := by
  induction grown with
  | nil => rfl
  | cons first rest ih =>
      unfold weightSum at ih ⊢
      rw [List.map_cons, List.map_cons, List.sum_cons, List.sum_cons, first.weight, ih]

/-- Larger values make the quotients smaller. -/
theorem reciprocalSum_grown (value : ∀ pair ∈ pairs, 0 < pair.1)
    (weight : ∀ pair ∈ pairs, 0 < pair.2) (grown : List.Forall₂ Grown pairs larger) :
    reciprocalSum larger ≤ reciprocalSum pairs := by
  induction grown with
  | nil => exact le_refl _
  | cons first rest ih =>
      rw [List.forall_mem_cons] at value weight
      unfold reciprocalSum at ih ⊢
      rw [List.map_cons, List.map_cons, List.sum_cons, List.sum_cons, first.weight]
      apply add_le_add
      · exact div_le_div_of_nonneg_left weight.1.le value.1 first.value
      · exact ih value.2 weight.2

/-- Larger values make the mean larger. -/
theorem mean_grown (positive : Positive pairs) (positive' : Positive larger)
    (grown : List.Forall₂ Grown pairs larger) : mean pairs ≤ mean larger := by
  rw [mean, mean, weightSum_grown grown]
  apply div_le_div_of_nonneg_left positive.weightSum_pos.le positive'.reciprocalSum_pos
  exact reciprocalSum_grown positive.value positive.weight grown

end Foundation.Harmonic

namespace Foundation

variable {Number : Type} [LinearOrder Number] {start bound : Number} {values : List Number}

/-- A bound of a least value bounds all. -/
theorem le_foldl_min_iff :
    bound ≤ values.foldl min start ↔ bound ≤ start ∧ ∀ value ∈ values, bound ≤ value := by
  induction values generalizing start with
  | nil => simp
  | cons first rest ih => simp [ih, and_assoc]

/-- The running minimum of values that do not exceed its start is the least of them. -/
theorem foldl_min_isLeast (nonempty : values ≠ []) (most : ∀ value ∈ values, value ≤ start) :
    IsLeast {value | value ∈ values} (values.foldl min start) := by
  have below := (le_foldl_min_iff.mp (le_refl (values.foldl min start))).2
  refine ⟨?_, fun value member => below value member⟩
  have chosen := foldl_mem min_choice start values
  rcases List.mem_cons.mp chosen with same | member
  · obtain ⟨value, member⟩ := List.exists_mem_of_ne_nil values nonempty
    have least := below value member
    rw [same] at least ⊢
    rw [← le_antisymm (most value member) least]
    exact member
  · exact member

end Foundation
