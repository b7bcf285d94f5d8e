import FaceAuth.Inference.Adapter
import FaceAuth.Foundation.Greedy
import Mathlib.Data.List.Pairwise

/-!
# Suppression of overlapping detections

The detector marks one face with several boxes. The boxes are searched in the order
of their confidence, and each is retained that overlaps none retained before it; more
faces than the ceiling are an error, so that a second person is never hidden.
-/

namespace FaceAuth

open Foundation

namespace Inference

/-- The area shared by two boxes, relative to the area that they cover. -/
def intersectionOverUnion (left right : NormalizedFaceBox) : Float32 :=
  let intersectionWidth :=
    floatMax (floatMin left.right right.right - floatMax left.left right.left) 0.0
  let intersectionHeight :=
    floatMax (floatMin left.bottom right.bottom - floatMax left.top right.top) 0.0
  let intersection := intersectionWidth * intersectionHeight
  let leftArea := (left.right - left.left) * (left.bottom - left.top)
  let rightArea := (right.right - right.left) * (right.bottom - right.top)
  let union := leftArea + rightArea - intersection
  if 0.0 < union then intersection / union else 0.0

namespace FaceDetections

/-- The bound and the ceiling of a suppression are usable. -/
def ValidSuppression (maximumIou : Float32) (maximumFaces : Nat) : Prop :=
  UnitScore maximumIou ∧ 1 ≤ maximumFaces ∧ maximumFaces ≤ 64

instance (maximumIou : Float32) (maximumFaces : Nat) :
    Decidable (ValidSuppression maximumIou maximumFaces) :=
  inferInstanceAs (Decidable (_ ∧ _))

section Suppression

variable (iou : NormalizedFaceBox → NormalizedFaceBox → Float32) (detections : FaceDetections)
  (maximumIou : Float32) (maximumFaces : Nat)

/-- By decreasing confidence, and by the order of the detector. -/
def rank (left right : Fin detections.faces.length) : Ordering :=
  (totalCmp (detections.faces.get right).confidence (detections.faces.get left).confidence).then
    (compare left.val right.val)

/-- All faces in the order of their ranks. -/
def candidates : List (Fin detections.faces.length) :=
  (List.finRange detections.faces.length).insertionSort fun left right =>
    (detections.rank left right).isLE = true

/-- Retain a candidate that overlaps none of the faces retained. -/
def retain (faces : List FaceDetection) (index : Fin detections.faces.length) :
    Except InferenceError (List FaceDetection) :=
  let candidate := detections.faces.get index
  if faces.any fun retained => decide (maximumIou < iou candidate.bounds retained.bounds) then
    .ok faces
  else if faces.length = maximumFaces then
    .error (.faceDetectionLimitExceeded (faces.length + 1) maximumFaces)
  else .ok (faces ++ [candidate])

/-- The suppression by a measure of overlap. -/
def suppressOverlapsBy : Except InferenceError FaceDetections := do
  require (ValidSuppression maximumIou maximumFaces) .invalidDetectionPostprocessConfig
  let faces ← detections.candidates.foldlM (detections.retain iou maximumIou maximumFaces) []
  return ⟨detections.compatibilitySha256, faces⟩

/-- Suppress the overlaps that the configured measure finds. -/
def suppressOverlaps : Except InferenceError FaceDetections :=
  detections.suppressOverlapsBy intersectionOverUnion maximumIou maximumFaces

/-- The one face, if there is exactly one. -/
def requireSingleFace : Except InferenceError FaceDetection :=
  match detections.faces with
  | [face] => .ok face
  | [] => .error .noFaceDetected
  | faces => .error (.multipleFacesDetected faces.length)

/-! ## Ranks -/

/-- A face comes before one of lower confidence, and before a later one of the same. -/
def Outranks (first second : Fin detections.faces.length) : Prop :=
  totalOrderKey (detections.faces.get second).confidence <
      totalOrderKey (detections.faces.get first).confidence ∨
    (detections.faces.get first).confidence = (detections.faces.get second).confidence ∧
      first < second

/-- Two faces overlap beyond the bound. -/
def Overlaps (first second : Fin detections.faces.length) : Prop :=
  maximumIou < iou (detections.faces.get first).bounds (detections.faces.get second).bounds

instance : DecidableRel (detections.Overlaps iou maximumIou) :=
  fun _ _ => inferInstanceAs (Decidable (_ < _))

end Suppression

variable {iou : NormalizedFaceBox → NormalizedFaceBox → Float32} {detections : FaceDetections}
  {maximumIou : Float32} {maximumFaces : Nat}

/-- A face outranks another by its confidence, and by its place among equals. -/
theorem outranks_iff {first second : Fin detections.faces.length} :
    detections.Outranks first second ↔
      totalOrderKey (detections.faces.get second).confidence <
          totalOrderKey (detections.faces.get first).confidence ∨
        totalOrderKey (detections.faces.get first).confidence =
          totalOrderKey (detections.faces.get second).confidence ∧ first.val < second.val := by
  unfold Outranks
  rw [totalOrderKey_injective.eq_iff]
  rfl

instance : Std.Asymm detections.Outranks where
  asymm first second before after := by
    rw [outranks_iff] at before after
    omega

/-- The order of the sort is that of the ranks. -/
theorem rank_isLE_iff {left right : Fin detections.faces.length} :
    (detections.rank left right).isLE = true ↔ ¬ detections.Outranks right left := by
  rw [outranks_iff, rank, Ordering.isLE_then_iff_and]
  unfold totalCmp
  rw [Std.isLE_compare, Std.compare_eq_lt, Std.isLE_compare]
  omega

/-- Every face is a candidate. -/
theorem mem_candidates (index : Fin detections.faces.length) : index ∈ detections.candidates := by
  unfold candidates
  simp

/-- The candidates are searched by rank. -/
theorem candidates_ranked (detections : FaceDetections) :
    detections.candidates.Pairwise detections.Outranks := by
  have total : Std.Total fun left right => (detections.rank left right).isLE = true := by
    constructor
    intro left right
    rw [rank_isLE_iff, rank_isLE_iff, outranks_iff, outranks_iff]
    omega
  have transitive : IsTrans _ fun left right => (detections.rank left right).isLE = true := by
    constructor
    intro first second third
    rw [rank_isLE_iff, rank_isLE_iff, rank_isLE_iff, outranks_iff, outranks_iff, outranks_iff]
    omega
  have nodup : detections.candidates.Nodup :=
    (List.perm_insertionSort _ _).nodup_iff.mpr (List.nodup_finRange _)
  refine (List.pairwise_insertionSort _ _).imp₂ (fun first second behind unlike => ?_) nodup
  rw [rank_isLE_iff, outranks_iff] at behind
  rw [outranks_iff]
  have apart : first.val ≠ second.val := fun same => unlike (Fin.ext same)
  omega

/-! ## The survivors -/

section Survivors

variable (iou : NormalizedFaceBox → NormalizedFaceBox → Float32) (detections : FaceDetections)
  (maximumIou : Float32) (maximumFaces : Nat)

/-- The faces that a greedy search by rank retains. -/
def survivors : List (Fin detections.faces.length) :=
  greedy (detections.Overlaps iou maximumIou) detections.candidates

/-- The faces are in the order of their ranks, no two overlap, and every other face overlaps
one of higher rank. -/
structure Suppressed (survivors : List (Fin detections.faces.length)) : Prop where
  ranked : survivors.Pairwise detections.Outranks
  apart : ∀ first ∈ survivors, ∀ second ∈ survivors, first ≠ second →
    ¬ detections.Overlaps iou maximumIou first second
  covered : ∀ candidate, candidate ∉ survivors →
    ∃ retained ∈ survivors, detections.Outranks retained candidate ∧
      detections.Overlaps iou maximumIou candidate retained

end Survivors

variable {candidates survivors : List (Fin detections.faces.length)}

/-- The overlap of two detections does not depend on their order. -/
def Symmetric (iou : NormalizedFaceBox → NormalizedFaceBox → Float32)
    (detections : FaceDetections) : Prop :=
  ∀ first ∈ detections.faces, ∀ second ∈ detections.faces,
    iou first.bounds second.bounds = iou second.bounds first.bounds

instance : Decidable (Symmetric iou detections) :=
  inferInstanceAs (Decidable (∀ _ ∈ _, ∀ _ ∈ _, _ = _))

/-- Overlap does not depend on the order. -/
theorem Symmetric.overlaps (symmetric : Symmetric iou detections)
    {first second : Fin detections.faces.length}
    (overlaps : detections.Overlaps iou maximumIou first second) :
    detections.Overlaps iou maximumIou second first := by
  unfold Overlaps at overlaps ⊢
  rwa [symmetric _ (List.get_mem ..) _ (List.get_mem ..)]

/-- Suppression is the greedy choice among the candidates. -/
theorem suppressed_iff (symmetric : Symmetric iou detections) :
    detections.Suppressed iou maximumIou survivors ↔
      GreedyChoice detections.Outranks (detections.Overlaps iou maximumIou) detections.candidates
        survivors := by
  constructor
  · intro suppressed
    refine ⟨fun index _ => mem_candidates index, suppressed.ranked, ?_, fun index _ =>
      suppressed.covered index⟩
    refine suppressed.ranked.imp_of_mem fun {first second} early late before overlaps => ?_
    refine suppressed.apart second late first early ?_ overlaps
    rintro rfl
    exact Std.Irrefl.irrefl _ before
  · intro choice
    refine ⟨choice.ranked, ?_, fun index => choice.covered index (mem_candidates index)⟩
    have opposite : Std.Symm fun earlier later =>
        ¬ detections.Overlaps iou maximumIou later earlier :=
      ⟨fun _ _ free overlaps => free (symmetric.overlaps overlaps)⟩
    intro first early second late unlike
    exact choice.apart.forall late early unlike.symm

/-- The survivors are what suppression leaves. -/
theorem suppressed_survivors (symmetric : Symmetric iou detections) :
    detections.Suppressed iou maximumIou (detections.survivors iou maximumIou) :=
  (suppressed_iff symmetric).mpr (greedy_choice (candidates_ranked detections))

/-- Nothing else is. -/
theorem Suppressed.eq_survivors (symmetric : Symmetric iou detections)
    (suppressed : detections.Suppressed iou maximumIou survivors) :
    survivors = detections.survivors iou maximumIou :=
  ((suppressed_iff symmetric).mp suppressed).unique (candidates_ranked detections)

/-! ## The loop -/

/-- The loop over faces is the one over their numbers. -/
theorem retain_map (faces : List (Fin detections.faces.length))
    (candidate : Fin detections.faces.length) :
    detections.retain iou maximumIou maximumFaces (faces.map detections.faces.get) candidate =
      if ∃ other ∈ faces, detections.Overlaps iou maximumIou candidate other then
        .ok (faces.map detections.faces.get)
      else if faces.length = maximumFaces then
        .error (.faceDetectionLimitExceeded (faces.length + 1) maximumFaces)
      else .ok ((faces ++ [candidate]).map detections.faces.get) := by
  have searched : ((faces.map detections.faces.get).any fun retained =>
      decide (maximumIou < iou (detections.faces.get candidate).bounds retained.bounds)) =
        true ↔ ∃ other ∈ faces, detections.Overlaps iou maximumIou candidate other := by
    simp [Overlaps]
  unfold retain
  dsimp only
  rw [List.length_map, List.map_append]
  exact if_congr searched rfl rfl

/-- The loop retains the faces that the search keeps, unless they exceed the ceiling. -/
theorem foldlM_retain (candidates : List (Fin detections.faces.length)) :
    candidates.foldlM (detections.retain iou maximumIou maximumFaces) [] =
      if (greedy (detections.Overlaps iou maximumIou) candidates).length ≤ maximumFaces then
        .ok ((greedy (detections.Overlaps iou maximumIou) candidates).map detections.faces.get)
      else .error (.faceDetectionLimitExceeded (maximumFaces + 1) maximumFaces) := by
  induction candidates using List.reverseRecOn with
  | nil => rfl
  | append_singleton candidates candidate ih =>
      rw [List.foldlM_append, ih, greedy_concat]
      generalize greedy (detections.Overlaps iou maximumIou) candidates = faces
      have last : ∀ start, [candidate].foldlM
          (detections.retain iou maximumIou maximumFaces) start =
            detections.retain iou maximumIou maximumFaces start candidate := fun start => by
        rw [List.foldlM_cons, funext fun faces => List.foldlM_nil, bind_pure]
      by_cases within : faces.length ≤ maximumFaces
      · rw [if_pos within]
        refine (last _).trans ((retain_map faces candidate).trans ?_)
        by_cases conflict : ∃ other ∈ faces, detections.Overlaps iou maximumIou candidate other
        · rw [if_pos conflict, keep, if_pos conflict, if_pos within]
        · rw [if_neg conflict, keep, if_neg conflict, List.length_append, List.length_singleton]
          by_cases full : faces.length = maximumFaces
          · rw [if_pos full, if_neg (by omega), full]
          · rw [if_neg full, if_pos (by omega)]
      · rw [if_neg within]
        have more : faces.length ≤
            (keep (detections.Overlaps iou maximumIou) faces candidate).length := by
          unfold keep
          split
          · exact Nat.le_refl _
          · rw [List.length_append]
            exact Nat.le_add_right _ _
        rw [if_neg (by omega)]
        rfl

/-- The faces that survive are returned, unless they are too many. -/
theorem suppressOverlapsBy_eq :
    detections.suppressOverlapsBy iou maximumIou maximumFaces =
      if ¬ ValidSuppression maximumIou maximumFaces then
        .error .invalidDetectionPostprocessConfig
      else if (detections.survivors iou maximumIou).length ≤ maximumFaces then
        .ok ⟨detections.compatibilitySha256,
          (detections.survivors iou maximumIou).map detections.faces.get⟩
      else .error (.faceDetectionLimitExceeded (maximumFaces + 1) maximumFaces) := by
  rw [suppressOverlapsBy, foldlM_retain]
  unfold require survivors
  by_cases valid : ValidSuppression maximumIou maximumFaces
  · rw [if_pos valid, if_neg (not_not_intro valid)]
    split <;> rfl
  · rw [if_neg valid, if_pos valid]
    rfl

/-! ## Its output -/

section Output

variable {chosen : List (Fin detections.faces.length)}

/-- The detections at some places. -/
def select (detections : FaceDetections) (chosen : List (Fin detections.faces.length)) :
    FaceDetections :=
  ⟨detections.compatibilitySha256, chosen.map detections.faces.get⟩

/-- A measure is symmetric among fewer faces. -/
theorem Symmetric.select (symmetric : Symmetric iou detections) :
    Symmetric iou (detections.select chosen) := by
  have inside : ∀ face ∈ (detections.select chosen).faces, face ∈ detections.faces := by
    intro face member
    obtain ⟨index, -, rfl⟩ := List.mem_map.mp member
    exact List.get_mem ..
  exact fun first early second late => symmetric first (inside first early) second
    (inside second late)

/-- Among the survivors nothing is suppressed. -/
theorem Suppressed.select (suppressed : detections.Suppressed iou maximumIou chosen) :
    (detections.select chosen).Suppressed iou maximumIou (List.finRange _) := by
  have shorter : (detections.select chosen).faces.length = chosen.length := List.length_map _
  have same : ∀ index : Fin (detections.select chosen).faces.length,
      (detections.select chosen).faces.get index =
        detections.faces.get (chosen.get (index.cast shorter)) := by
    intro index
    exact List.getElem_map detections.faces.get
  refine ⟨?_, ?_, fun index left => (left (List.mem_finRange index)).elim⟩
  · refine (List.sortedLT_finRange _).pairwise.imp fun {first second} before => ?_
    have ranked : detections.Outranks (chosen.get (first.cast shorter))
        (chosen.get (second.cast shorter)) :=
      List.pairwise_iff_get.mp suppressed.ranked _ _ before
    unfold Outranks at ranked ⊢
    rw [same, same]
    exact ranked.imp_right fun tie => ⟨tie.1, before⟩
  · intro first _ second _ unlike overlaps
    have distinct : chosen.get (first.cast shorter) ≠ chosen.get (second.cast shorter) := by
      intro equal
      have places := (List.nodup_iff_injective_get.mp suppressed.ranked.nodup) equal
      exact unlike (Fin.cast_injective shorter places)
    refine suppressed.apart _ (List.get_mem ..) _ (List.get_mem ..) distinct ?_
    unfold Overlaps at overlaps ⊢
    rwa [same, same] at overlaps

/-- The output of a suppression is its own output. -/
theorem suppressOverlapsBy_idempotent (symmetric : Symmetric iou detections)
    {kept : FaceDetections}
    (suppressed : detections.suppressOverlapsBy iou maximumIou maximumFaces = .ok kept) :
    kept.suppressOverlapsBy iou maximumIou maximumFaces = .ok kept := by
  have survived : detections.Suppressed iou maximumIou (detections.survivors iou maximumIou) :=
    suppressed_survivors symmetric
  rw [suppressOverlapsBy_eq] at suppressed
  split_ifs at suppressed with valid within
  cases suppressed
  have again := survived.select.eq_survivors symmetric.select
  have all : (List.finRange (detections.select (detections.survivors iou maximumIou)).faces.length
      ).map (detections.select (detections.survivors iou maximumIou)).faces.get =
        (detections.select (detections.survivors iou maximumIou)).faces :=
    List.map_get_finRange _
  have few : (detections.select (detections.survivors iou maximumIou)).faces.length ≤
      maximumFaces := (List.length_map _).trans_le within
  change (detections.select (detections.survivors iou maximumIou)).suppressOverlapsBy iou
    maximumIou maximumFaces = .ok (detections.select (detections.survivors iou maximumIou))
  rw [suppressOverlapsBy_eq, if_neg (not_not_intro valid), ← again, List.length_finRange,
    if_pos few, all]

end Output

/-- The suppression is the greedy one: in the order of their ranks it returns the only faces
without overlaps that every other face overlaps with one of higher rank, it fails when there are
more than the ceiling allows, and it changes nothing in its own output. -/
theorem suppressOverlapsBy_greedy (iou : NormalizedFaceBox → NormalizedFaceBox → Float32)
    (detections : FaceDetections) (symmetric : Symmetric iou detections) (maximumIou : Float32)
    (maximumFaces : Nat) :
    ∃ survivors, detections.Suppressed iou maximumIou survivors ∧
      (∀ others, detections.Suppressed iou maximumIou others → others = survivors) ∧
      detections.suppressOverlapsBy iou maximumIou maximumFaces =
        (if ¬ ValidSuppression maximumIou maximumFaces then
          .error .invalidDetectionPostprocessConfig
        else if survivors.length ≤ maximumFaces then .ok (detections.select survivors)
        else .error (.faceDetectionLimitExceeded (maximumFaces + 1) maximumFaces)) ∧
      ∀ kept, detections.suppressOverlapsBy iou maximumIou maximumFaces = .ok kept →
        kept.suppressOverlapsBy iou maximumIou maximumFaces = .ok kept :=
  ⟨detections.survivors iou maximumIou, suppressed_survivors symmetric,
    fun _ suppressed => suppressed.eq_survivors symmetric, suppressOverlapsBy_eq,
    fun _ suppressed => suppressOverlapsBy_idempotent symmetric suppressed⟩

/-- Two boxes of one face, after a face of lower confidence. -/
def threeBoxes : FaceDetections where
  compatibilitySha256 := []
  faces := [⟨⟨0.60, 0.20, 0.90, 0.70⟩, 0.85⟩, ⟨⟨0.10, 0.10, 0.50, 0.60⟩, 0.95⟩,
    ⟨⟨0.12, 0.12, 0.49, 0.59⟩, 0.95⟩]

/-- Of three boxes the best one suppresses its neighbour. -/
theorem suppressOverlapsBy_greedy_threeBoxes :
    ∃ survivors, threeBoxes.Suppressed intersectionOverUnion 0.5 survivors ∧
      survivors.map Fin.val = [1, 0] ∧
      threeBoxes.suppressOverlaps 0.5 4 = .ok (threeBoxes.select survivors) := by
  have symmetric : Symmetric intersectionOverUnion threeBoxes := by decide +kernel
  obtain ⟨survivors, suppressed, -, ran, -⟩ :=
    suppressOverlapsBy_greedy intersectionOverUnion threeBoxes symmetric 0.5 4
  have places : survivors.map Fin.val = [1, 0] := by
    rw [suppressed.eq_survivors symmetric]
    decide +kernel
  have few : survivors.length ≤ 4 := by
    rw [← survivors.length_map Fin.val, places]
    decide
  have valid : ValidSuppression 0.5 4 := by decide +kernel
  refine ⟨survivors, suppressed, places, ?_⟩
  rw [suppressOverlaps, ran, if_neg (not_not_intro valid), if_pos few]

/-- The one face is returned when there is no other. -/
theorem requireSingleFace_eq_ok_iff {face : FaceDetection} :
    detections.requireSingleFace = .ok face ↔ detections.faces = [face] := by
  unfold requireSingleFace
  split <;> simp_all

/-- A suppression leaves a single face exactly where one face alone survives. -/
theorem suppressOverlapsBy_single_iff (symmetric : Symmetric iou detections)
    (valid : ValidSuppression maximumIou maximumFaces) :
    (∃ kept face, detections.suppressOverlapsBy iou maximumIou maximumFaces = .ok kept ∧
      kept.requireSingleFace = .ok face) ↔
      ∃ index, detections.Suppressed iou maximumIou [index] := by
  constructor
  · intro single
    obtain ⟨kept, face, suppressed, alone⟩ := single
    rw [suppressOverlapsBy_eq, if_neg (not_not_intro valid)] at suppressed
    split_ifs at suppressed
    cases suppressed
    obtain ⟨index, one, -⟩ := List.map_eq_singleton_iff.mp (requireSingleFace_eq_ok_iff.mp alone)
    exact ⟨index, one ▸ suppressed_survivors symmetric⟩
  · intro single
    obtain ⟨index, suppressed⟩ := single
    have one := suppressed.eq_survivors symmetric
    have within : [index].length ≤ maximumFaces := valid.2.1
    refine ⟨detections.select [index], detections.faces.get index, ?_,
      requireSingleFace_eq_ok_iff.mpr rfl⟩
    rw [suppressOverlapsBy_eq, if_neg (not_not_intro valid), ← one, if_pos within]
    rfl

end FaceDetections

end Inference

end FaceAuth
