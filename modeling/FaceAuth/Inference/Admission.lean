import FaceAuth.Inference.Adapter
import Mathlib.Algebra.BigOperators.Group.List.Basic
import Mathlib.Data.List.Nodup
import Mathlib.Data.List.Forall2

/-!
# What an accepted manifest promises
-/

namespace FaceAuth

open Foundation

/-! ## Numbers of elements -/

/-- A checked product continues from where it starts. -/
theorem foldlM_checkedMul {dimensions : List Nat} {start product : Nat}
    (multiplied : dimensions.foldlM checkedMul start = some product) :
    product = start * dimensions.prod := by
  induction dimensions generalizing start with
  | nil =>
      rw [List.prod_nil, Nat.mul_one]
      exact (Option.some.inj multiplied).symm
  | cons dimension dimensions ih =>
      rw [List.foldlM_cons, checkedMul] at multiplied
      split at multiplied
      · rw [ih multiplied, List.prod_cons, Nat.mul_assoc]
      · cases multiplied

/-- A checked product is the product. -/
theorem checkedProduct_eq {dimensions : List Nat} {product : Nat}
    (multiplied : checkedProduct dimensions = some product) : product = dimensions.prod := by
  rw [foldlM_checkedMul multiplied, Nat.one_mul]

/-- Dimensions have a product when it fits. -/
theorem dimensionProduct_eq_ok_iff {dimensions : List Nat} {product : Nat} :
    dimensionProduct dimensions = .ok product ↔ checkedProduct dimensions = some product := by
  unfold dimensionProduct
  cases checkedProduct dimensions <;> simp

/-- So do those of a tensor. -/
theorem tensorElementCount_eq_ok_iff {dimensions : List Nat} {product : Nat} :
    Inference.tensorElementCount dimensions = .ok product ↔
      checkedProduct dimensions = some product := by
  unfold Inference.tensorElementCount
  cases checkedProduct dimensions <;> simp

/-- The elements of a tensor are counted without overflow, up to the maximum of a tensor. -/
structure Countable (dimensions : List Nat) : Prop where
  counted : checkedProduct dimensions = some dimensions.prod
  bounded : dimensions.prod ≤ MAX_TENSOR_ELEMENTS

/-- Valid dimensions can be counted. -/
theorem countable_of_validateDimensions {dimensions : List Nat}
    (valid : validateDimensions dimensions = .ok ()) : Countable dimensions := by
  simp only [validateDimensions, bind_eq_ok_iff, require_eq_ok_iff, exists_const,
    dimensionProduct_eq_ok_iff] at valid
  obtain ⟨-, product, counted, bounded⟩ := valid
  obtain rfl := checkedProduct_eq counted
  exact ⟨counted, bounded⟩

/-! ## Outputs -/

/-- Outputs behind some names and a number of elements. -/
structure OutputsAdmitted (names : List (List UInt8)) (total : Nat)
    (outputs : List OutputContract) : Prop where
  fresh : ∀ output ∈ outputs, output.name ∉ names
  unique : (outputs.map OutputContract.name).Nodup
  countable : ∀ output ∈ outputs, Countable output.dimensions
  bounded : total ≤ MAX_TOTAL_OUTPUT_ELEMENTS →
    total + (outputs.map fun output => output.dimensions.prod).sum ≤ MAX_TOTAL_OUTPUT_ELEMENTS

/-- The loop over the outputs admits what it accepts. -/
theorem outputsAdmitted_of_validateOutputs {names : List (List UInt8)} {total : Nat}
    {outputs : List OutputContract} (valid : validateOutputs names total outputs = .ok ()) :
    OutputsAdmitted names total outputs := by
  induction outputs generalizing names total with
  | nil => exact ⟨by simp, by simp, by simp, by simp⟩
  | cons output outputs ih =>
      simp only [validateOutputs, bind_eq_ok_iff, require_eq_ok_iff, exists_const,
        dimensionProduct_eq_ok_iff] at valid
      obtain ⟨-, -, ⟨⟩, dimensions, product, counted, -, bounded, fresh, rest⟩ := valid
      have later := ih rest
      rw [checkedProduct_eq counted] at bounded later
      refine ⟨?_, ?_, ?_, ?_⟩
      · rw [List.forall_mem_cons]
        exact ⟨fresh, fun other member known =>
          later.fresh other member (List.mem_append_left _ known)⟩
      · rw [List.map_cons, List.nodup_cons]
        refine ⟨?_, later.unique⟩
        intro repeated
        obtain ⟨other, member, same⟩ := List.mem_map.mp repeated
        apply later.fresh other member
        rw [same]
        exact List.mem_append_right _ List.mem_cons_self
      · rw [List.forall_mem_cons]
        exact ⟨countable_of_validateDimensions dimensions, later.countable⟩
      · intro _
        rw [List.map_cons, List.sum_cons, ← Nat.add_assoc]
        exact later.bounded bounded

namespace ModelManifest

/-- What validation leaves known of a manifest. -/
structure Admitted (manifest : ModelManifest) : Prop where
  inputNames : manifest.validateInputNames = .ok ()
  inputs : validateInputs [] (manifest.input :: manifest.additionalInputs) = .ok ()
  alignment : validateRoleContract .faceEmbedding manifest.role .invalidAlignmentContract
    FaceAlignmentContract.validate manifest.faceAlignment = .ok ()
  crop : validateRoleContract .faceLandmarks manifest.role .invalidFaceCropContract
    FaceCropContract.validate manifest.faceCrop = .ok ()
  measurement : validateRoleContract .faceLandmarks manifest.role
    .invalidLandmarkMeasurementContract LandmarkMeasurementContract.validate
    manifest.landmarkMeasurement = .ok ()
  outputs : OutputsAdmitted [] 0 manifest.outputs
  role : validateRoleSemantics manifest.role manifest.outputs = .ok ()
  shapes : manifest.outputs.forM validateOutputShape = .ok ()

/-- A valid manifest is admitted. -/
theorem admitted {spdx : List UInt8 → Bool} {manifest : ModelManifest}
    (valid : manifest.validate spdx = .ok ()) : manifest.Admitted := by
  simp only [validate, check_bind_eq_ok_iff, validateOutputSemantics] at valid
  obtain ⟨-, -, -, -, -, -, inputNames, inputs, alignment, crop, measurement, -, outputs, role,
    shapes⟩ := valid
  exact ⟨inputNames, inputs, alignment, crop, measurement,
    outputsAdmitted_of_validateOutputs outputs, role, shapes⟩

end ModelManifest

/-- A contract that its owner carries is there and valid. -/
theorem validateRoleContract_owner {Contract : Type} {owner : ModelRole} {error : ModelError}
    {validate : Contract → Except ModelError Unit} {found : Option Contract}
    (valid : validateRoleContract owner owner error validate found = .ok ()) :
    ∃ contract, found = some contract ∧ validate contract = .ok () := by
  cases found with
  | none => simp [validateRoleContract] at valid
  | some contract => exact ⟨contract, rfl, by simpa [validateRoleContract] using valid⟩

/-- Nobody else carries the contract. -/
theorem validateRoleContract_other {Contract : Type} {owner role : ModelRole} {error : ModelError}
    {validate : Contract → Except ModelError Unit} {found : Option Contract}
    (other : role ≠ owner)
    (valid : validateRoleContract owner role error validate found = .ok ()) : found = none := by
  cases found with
  | none => rfl
  | some contract => simp [validateRoleContract, other] at valid

/-- A loop of checks passes for each of its items. -/
theorem forM_ok_mem {Item : Type} {check : Item → Except ModelError Unit} {items : List Item}
    (checked : items.forM check = .ok ()) : ∀ item ∈ items, check item = .ok () := by
  induction items with
  | nil => simp
  | cons item items ih =>
      change (check item >>= fun _ => items.forM check) = .ok () at checked
      rw [check_bind_eq_ok_iff] at checked
      rw [List.forall_mem_cons]
      exact ⟨checked.1, ih checked.2⟩

namespace Inference

/-! ## Reading outputs -/

/-- The one output of a meaning is found. -/
theorem semanticOutput_of_unique {manifest : ModelManifest} {semantic : OutputSemantic}
    {contract : OutputContract}
    (unique : uniqueSemanticOutput manifest.outputs semantic = .ok contract) :
    semanticOutput manifest semantic = .ok contract ∧ contract ∈ manifest.outputs ∧
      contract.semantic = semantic := by
  unfold uniqueSemanticOutput at unique
  split at unique
  case h_1 output same =>
    cases unique
    have member : contract ∈ manifest.outputs.filter
        (fun output => decide (output.semantic = semantic)) := by
      rw [same]
      exact List.mem_cons_self
    rw [List.mem_filter, decide_eq_true_iff] at member
    refine ⟨?_, member⟩
    unfold semanticOutput
    rw [same]
  case h_2 => cases unique

/-- An output that is counted once is unique. -/
theorem unique_of_semanticCount {manifest : ModelManifest} {semantic : OutputSemantic}
    (counted : semanticCount manifest.outputs semantic = 1) :
    ∃ contract, uniqueSemanticOutput manifest.outputs semantic = .ok contract := by
  obtain ⟨contract, same⟩ := List.length_eq_one_iff.mp counted
  exact ⟨contract, by rw [uniqueSemanticOutput, same]⟩

/-- The tensor is what the contract declares. -/
structure Matches (contract : OutputContract) (tensor : OutputTensor) : Prop where
  name : tensor.name = contract.name
  dimensions : tensor.dimensions = contract.dimensions
  count : tensorElementCount contract.dimensions = .ok tensor.values.length
  finite : tensor.values.all Float32.isFinite = true

/-- The tensors are what the manifest declares, in some order. -/
def Conforms (manifest : ModelManifest) (outputs : List OutputTensor) : Prop :=
  ∃ ordered, outputs.Perm ordered ∧ List.Forall₂ Matches manifest.outputs ordered

/-- A copied tensor matches its contract. -/
theorem copyOutput_matches {runtime : List UInt8 → Except InferenceError (List Int × List Float32)}
    {contract : OutputContract} {tensor : OutputTensor}
    (copied : copyOutput runtime contract = .ok tensor) : Matches contract tensor := by
  simp only [copyOutput, bind_eq_ok_iff, require_eq_ok_iff, exists_const] at copied
  obtain ⟨⟨shape, values⟩, -, -, dimensions, count, counted, ⟨length, finite⟩, done⟩ := copied
  cases done
  exact ⟨rfl, dimensions, length ▸ counted, finite⟩

/-- A loop succeeds when each of its steps does. -/
theorem mapM_eq_ok {Item Answer : Type} {step : Item → Except InferenceError Answer}
    {items : List Item} (each : ∀ item ∈ items, ∃ answer, step item = .ok answer) :
    ∃ answers, items.mapM step = .ok answers := by
  induction items with
  | nil => exact ⟨[], rfl⟩
  | cons item items ih =>
      rw [List.forall_mem_cons] at each
      obtain ⟨answer, first⟩ := each.1
      obtain ⟨answers, rest⟩ := ih each.2
      refine ⟨answer :: answers, ?_⟩
      rw [List.mapM_cons]
      exact bind_eq_ok_iff.mpr ⟨answer, first, bind_eq_ok_iff.mpr ⟨answers, rest, rfl⟩⟩

/-- What each step gives, the loop gives for each item. -/
theorem mapM_forall₂ {Item Answer : Type} {step : Item → Except InferenceError Answer}
    {related : Item → Answer → Prop} (steps : ∀ item answer, step item = .ok answer →
      related item answer) {items : List Item} {answers : List Answer}
    (mapped : items.mapM step = .ok answers) : List.Forall₂ related items answers := by
  induction items generalizing answers with
  | nil =>
      cases mapped
      exact .nil
  | cons item items ih =>
      rw [List.mapM_cons, bind_eq_ok_iff] at mapped
      obtain ⟨answer, first, rest⟩ := mapped
      rw [bind_eq_ok_iff] at rest
      obtain ⟨others, rest, done⟩ := rest
      cases done
      exact .cons (steps item answer first) (ih rest)

/-- What a finished run returns is what the manifest declares. -/
theorem copyOutputs_conforms
    {runtime : List UInt8 → Except InferenceError (List Int × List Float32)}
    {manifest : ModelManifest} {outputs : List OutputTensor}
    (copied : copyOutputs runtime manifest = .ok outputs) : Conforms manifest outputs :=
  ⟨outputs, .refl _, mapM_forall₂ (fun _ _ => copyOutput_matches) copied⟩

/-- Matching tensors have the names of their contracts. -/
theorem forall₂_names {contracts : List OutputContract} {tensors : List OutputTensor}
    (matching : List.Forall₂ Matches contracts tensors) :
    tensors.map OutputTensor.name = contracts.map OutputContract.name := by
  induction matching with
  | nil => rfl
  | cons first _ ih => rw [List.map_cons, List.map_cons, first.name, ih]

/-- By its name a contract finds the one tensor that matches it. -/
theorem filter_of_matches {contracts : List OutputContract} {tensors : List OutputTensor}
    (matching : List.Forall₂ Matches contracts tensors)
    (unique : (contracts.map OutputContract.name).Nodup) {contract : OutputContract}
    (member : contract ∈ contracts) :
    ∃ tensor, Matches contract tensor ∧
      tensors.filter (fun output => decide (output.name = contract.name)) = [tensor] := by
  induction matching with
  | nil => cases member
  | @cons first tensor contracts tensors found rest ih =>
      rw [List.map_cons, List.nodup_cons] at unique
      rcases List.mem_cons.mp member with rfl | later
      · refine ⟨tensor, found, ?_⟩
        rw [List.filter_cons_of_pos (by simpa using found.name), List.filter_eq_nil_iff.mpr]
        intro other inside same
        apply unique.1
        rw [← of_decide_eq_true same, ← forall₂_names rest]
        exact List.mem_map_of_mem inside
      · obtain ⟨other, matched, same⟩ := ih unique.2 later
        refine ⟨other, matched, ?_⟩
        rw [List.filter_cons_of_neg, same]
        rw [decide_eq_true_iff, found.name]
        intro repeated
        exact unique.1 (repeated ▸ List.mem_map_of_mem later)

/-- What an adapter finds under a meaning. -/
structure Reads (manifest : ModelManifest) (outputs : List OutputTensor)
    (semantic : OutputSemantic) (dimensions : List Nat) (tensor : OutputTensor) : Prop where
  contracted : ∃ contract, semanticOutput manifest semantic = .ok contract ∧
    contract.dimensions = dimensions ∧
    exactOutput outputs contract.name contract.dimensions = .ok tensor
  member : tensor ∈ outputs
  length : tensor.values.length = dimensions.prod

/-- The tensor of a unique meaning is read. -/
theorem reads_of_unique {manifest : ModelManifest} (admitted : manifest.Admitted)
    {outputs : List OutputTensor} (conforms : Conforms manifest outputs)
    {semantic : OutputSemantic} {contract : OutputContract}
    (unique : uniqueSemanticOutput manifest.outputs semantic = .ok contract) :
    ∃ tensor, Reads manifest outputs semantic contract.dimensions tensor := by
  obtain ⟨contracted, member, -⟩ := semanticOutput_of_unique unique
  obtain ⟨ordered, order, matching⟩ := conforms
  obtain ⟨tensor, found, same⟩ := filter_of_matches matching admitted.outputs.unique member
  have only : outputs.filter (fun output => decide (output.name = contract.name)) = [tensor] :=
    List.perm_singleton.mp (same ▸ order.filter _)
  refine ⟨tensor, ⟨contract, contracted, rfl, ?_⟩, ?_, ?_⟩
  · unfold exactOutput
    rw [only]
    exact if_pos found.dimensions
  · have inside : tensor ∈ outputs.filter
        (fun output => decide (output.name = contract.name)) := by
      rw [only]
      exact List.mem_cons_self
    exact (List.mem_filter.mp inside).1
  · exact checkedProduct_eq (tensorElementCount_eq_ok_iff.mp found.count)

/-- There are as many tensors as outputs. -/
theorem length_of_conforms {manifest : ModelManifest} {outputs : List OutputTensor}
    (conforms : Conforms manifest outputs) : outputs.length = manifest.outputs.length := by
  obtain ⟨ordered, order, matching⟩ := conforms
  rw [order.length_eq, matching.length_eq]

end Inference

end FaceAuth
