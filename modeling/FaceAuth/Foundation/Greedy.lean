import Mathlib.Data.List.Induction
import Mathlib.Data.List.Sort

/-!
# Greedy choice

Candidates come in the order of their ranks, and each is kept that conflicts with
none of those kept before it. The candidates kept are the only choice without
conflicts in which every candidate left out conflicts with one of higher rank.
-/

namespace Foundation

section Greedy

variable {Candidate : Type} {conflicts : Candidate → Candidate → Prop}
  {before : Candidate → Candidate → Prop} {candidates kept : List Candidate}
  {candidate : Candidate}

section Keep

variable (conflicts) [DecidableRel conflicts]

/-- Keep a candidate that conflicts with none of those kept. -/
def keep (kept : List Candidate) (candidate : Candidate) : List Candidate :=
  if ∃ other ∈ kept, conflicts candidate other then kept else kept ++ [candidate]

/-- Keep what can be kept, from the first candidate on. -/
def greedy (candidates : List Candidate) : List Candidate :=
  candidates.foldl (keep conflicts) []

/-- The last candidate is looked at last. -/
@[simp] theorem greedy_concat (candidates : List Candidate) (candidate : Candidate) :
    greedy conflicts (candidates ++ [candidate]) =
      keep conflicts (greedy conflicts candidates) candidate := by
  rw [greedy, List.foldl_append]
  rfl

/-- A candidate in conflict is not kept. -/
theorem keep_of_conflict {other : Candidate} (member : other ∈ kept)
    (conflict : conflicts candidate other) : keep conflicts kept candidate = kept :=
  if_pos ⟨other, member, conflict⟩

/-- A candidate without a conflict is kept. -/
theorem keep_of_free (free : ∀ other ∈ kept, ¬ conflicts candidate other) :
    keep conflicts kept candidate = kept ++ [candidate] :=
  if_neg fun ⟨other, member, conflict⟩ => free other member conflict

end Keep

/-- The candidates kept are ranked and free of conflicts, and every other candidate conflicts
with one of higher rank that is kept. -/
structure GreedyChoice (before conflicts : Candidate → Candidate → Prop)
    (candidates kept : List Candidate) : Prop where
  chosen : ∀ candidate ∈ kept, candidate ∈ candidates
  ranked : kept.Pairwise before
  apart : kept.Pairwise fun earlier later => ¬ conflicts later earlier
  covered : ∀ candidate ∈ candidates, candidate ∉ kept →
    ∃ other ∈ kept, before other candidate ∧ conflicts candidate other

/-- Nothing is chosen of nothing. -/
theorem greedyChoice_nil : GreedyChoice before conflicts [] [] :=
  ⟨by simp, .nil, .nil, by simp⟩

/-- One more candidate, behind all others. -/
theorem GreedyChoice.keep [DecidableRel conflicts]
    (choice : GreedyChoice before conflicts candidates kept)
    (last : ∀ other ∈ candidates, before other candidate) :
    GreedyChoice before conflicts (candidates ++ [candidate])
      (keep conflicts kept candidate) := by
  by_cases conflict : ∃ other ∈ kept, conflicts candidate other
  · obtain ⟨other, member, conflict⟩ := conflict
    rw [keep_of_conflict conflicts member conflict]
    refine ⟨fun one chosen => ?_, choice.ranked, choice.apart, fun one among left => ?_⟩
    · exact List.mem_append_left _ (choice.chosen one chosen)
    · rcases List.mem_append.mp among with early | same
      · exact choice.covered one early left
      · rw [List.mem_singleton.mp same]
        exact ⟨other, member, last other (choice.chosen other member), conflict⟩
  · rw [not_exists] at conflict
    have free : ∀ other ∈ kept, ¬ conflicts candidate other := fun other member found =>
      conflict other ⟨member, found⟩
    rw [keep_of_free conflicts free]
    refine ⟨fun one chosen => ?_, ?_, ?_, fun one among left => ?_⟩
    · rcases List.mem_append.mp chosen with early | same
      · exact List.mem_append_left _ (choice.chosen one early)
      · exact List.mem_append_right _ same
    · refine List.pairwise_append.mpr ⟨choice.ranked, List.pairwise_singleton _ _, ?_⟩
      intro other member one same
      rw [List.mem_singleton.mp same]
      exact last other (choice.chosen other member)
    · refine List.pairwise_append.mpr ⟨choice.apart, List.pairwise_singleton _ _, ?_⟩
      intro other member one same
      rw [List.mem_singleton.mp same]
      exact free other member
    · rw [List.mem_append, not_or] at left
      rcases List.mem_append.mp among with early | same
      · obtain ⟨other, member, found⟩ := choice.covered one early left.1
        exact ⟨other, List.mem_append_left _ member, found⟩
      · exact (left.2 same).elim

/-- Keeping candidates in their order makes the greedy choice. -/
theorem greedy_choice [DecidableRel conflicts] (ranked : candidates.Pairwise before) :
    GreedyChoice before conflicts candidates (greedy conflicts candidates) := by
  induction candidates using List.reverseRecOn with
  | nil => exact greedyChoice_nil
  | append_singleton candidates candidate ih =>
      obtain ⟨early, -, last⟩ := List.pairwise_append.mp ranked
      rw [greedy_concat]
      exact (ih early).keep fun other member => last other member candidate (by simp)

/-- There is no other choice. -/
theorem GreedyChoice.unique [DecidableRel conflicts] [Std.Asymm before]
    (choice : GreedyChoice before conflicts candidates kept)
    (ranked : candidates.Pairwise before) : kept = greedy conflicts candidates := by
  induction candidates using List.reverseRecOn generalizing kept with
  | nil =>
      have none : kept = [] := List.eq_nil_iff_forall_not_mem.mpr fun one chosen =>
        List.not_mem_nil (choice.chosen one chosen)
      rw [none]
      rfl
  | append_singleton candidates candidate ih =>
      obtain ⟨early, -, last⟩ := List.pairwise_append.mp ranked
      have behind : ∀ other ∈ candidates, ¬ before candidate other := fun other member =>
        Std.Asymm.asymm _ _ (last other member candidate (by simp))
      have inside : kept.Sublist (candidates ++ [candidate]) :=
        List.sublist_of_subperm_of_pairwise (r := before)
          (List.subperm_of_subset choice.ranked.nodup choice.chosen) choice.ranked ranked
      obtain ⟨front, rest, rfl, within, atEnd⟩ := List.sublist_append_iff.mp inside
      have others : ∀ one ∈ rest, one = candidate := fun one member =>
        List.mem_singleton.mp (atEnd.subset member)
      have fronts : GreedyChoice before conflicts candidates front := by
        refine ⟨fun one member => within.subset member, (List.pairwise_append.mp choice.ranked).1,
          (List.pairwise_append.mp choice.apart).1, fun one among left => ?_⟩
        have unlike : one ≠ candidate := by
          rintro rfl
          exact behind one among (last one among one (by simp))
        have out : one ∉ front ++ rest := fun member => by
          rcases List.mem_append.mp member with member | member
          · exact left member
          · exact unlike (others one member)
        obtain ⟨other, member, first, conflict⟩ := choice.covered one (by simp [among]) out
        rcases List.mem_append.mp member with member | member
        · exact ⟨other, member, first, conflict⟩
        · exact (behind one among (others other member ▸ first)).elim
      rw [greedy_concat, ← ih fronts early]
      rcases List.sublist_singleton.mp atEnd with rfl | rfl
      · rw [List.append_nil] at choice ⊢
        by_cases chosen : candidate ∈ front
        · exact (behind candidate (within.subset chosen)
            (last candidate (within.subset chosen) candidate (by simp))).elim
        · obtain ⟨other, member, -, conflict⟩ := choice.covered candidate (by simp) chosen
          exact (keep_of_conflict conflicts member conflict).symm
      · refine (keep_of_free conflicts fun other member => ?_).symm
        exact (List.pairwise_append.mp choice.apart).2.2 other member candidate (by simp)

end Greedy

end Foundation
