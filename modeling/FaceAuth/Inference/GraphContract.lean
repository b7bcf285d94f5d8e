import FaceAuth.Core.Io
import FaceAuth.Foundation.Keyed
import FaceAuth.Inference.Loaded

/-!
# The contract of a graph

A graph is admitted when it takes and yields exactly the tensors of its manifest. What
a run is then given fits it: each of its inputs gets one tensor of its type and shape.
-/

namespace FaceAuth

open Foundation

/-- What can be wrong with a model file. -/
inductive ModelFileError where
  | manifest (error : ModelError)
  | notRegularFile
  | digestMismatch (expected actual : List UInt8)
  | io (error : IoError)
deriving DecidableEq

/-- What can be wrong with an installed runtime, with a model or with its graph. -/
inductive InstallationError where
  | invalidConfig
  | notRegularFile (path : List String)
  | unsafeFilePermissions (path : List String) (ownerUid mode : UInt32)
  | unsafeParentDirectory (path : List String) (ownerUid mode : UInt32)
  | modelSizeInvalid (actual maximum : Nat)
  | runtimeAlreadyInitialized (existing requested : List String)
  | runtimeStatePoisoned
  | runtimeAlreadyInitializedExternally
  | graphContractMismatch
  | model (error : ModelFileError)
  | io (error : IoError)
  | ort
deriving DecidableEq

/-- The types of tensor elements that a manifest tells apart. -/
inductive TensorElementType where
  | float32 | other
deriving DecidableEq

/-- What the runtime says of the values of an input or an output. -/
inductive ValueType where
  | tensor (element : TensorElementType) (shape : List Int)
  | other
deriving DecidableEq

/-- An input or an output of a graph. -/
structure Outlet where
  name : List UInt8
  dtype : ValueType
deriving DecidableEq

/-- What a graph takes and what it yields. -/
structure Graph where
  inputs : List Outlet
  outputs : List Outlet
deriving DecidableEq

namespace Inference

/-- A tensor has the type, the name and the dimensions that are stated. -/
def validateTensorContract (actualName : List UInt8) (actualType : TensorElementType)
    (actualDimensions : List Int) (expectedName : List UInt8) (expectedDimensions : List Int) :
    Except InstallationError Unit := do
  require (actualName = expectedName) .graphContractMismatch
  require (actualType = .float32 ∧ actualDimensions = expectedDimensions) .graphContractMismatch

/-- An outlet is a tensor as stated. -/
def validateOutlet (actual : Outlet) (expectedName : List UInt8) (expectedDimensions : List Int) :
    Except InstallationError Unit :=
  match actual.dtype with
  | .tensor element shape =>
      validateTensorContract actual.name element shape expectedName expectedDimensions
  | .other => .error .graphContractMismatch

/-- A graph has the input of a contract. -/
def validateGraphInput (graph : Graph) (expected : InputContract) :
    Except InstallationError Unit :=
  match graph.inputs.find? fun input => input.name = expected.name with
  | none => .error .graphContractMismatch
  | some input => validateOutlet input expected.name (expected.dimensions.map Int.ofNat)

/-- A graph has exactly the inputs and the outputs of a manifest. -/
def validateSessionContract (manifest : ModelManifest) (graph : Graph) :
    Except InstallationError Unit := do
  require (graph.inputs.length = (manifest.input :: manifest.additionalInputs).length ∧
    graph.outputs.length = manifest.outputs.length) .graphContractMismatch
  (manifest.input :: manifest.additionalInputs).forM (validateGraphInput graph)
  (graph.outputs.zip manifest.outputs).forM fun (actual, expected) =>
    validateOutlet actual expected.name (expected.dimensions.map Int.ofNat)

/-! ## What fits -/

/-- The tensor that a graph takes where the manifest states a contract. -/
def inputOutlet (contract : InputContract) : Outlet :=
  ⟨contract.name, .tensor .float32 (contract.dimensions.map Int.ofNat)⟩

/-- The tensor that a graph yields where the manifest states a contract. -/
def outputOutlet (contract : OutputContract) : Outlet :=
  ⟨contract.name, .tensor .float32 (contract.dimensions.map Int.ofNat)⟩

/-- What a run feeds into a graph. -/
def fed (input : InputContract × InputTensor) : Outlet :=
  ⟨input.1.name, .tensor .float32 (input.2.dimensions.map Int.ofNat)⟩

/-- An outlet passes when it is the tensor that was stated. -/
theorem validateOutlet_eq_ok_iff {actual : Outlet} {name : List UInt8} {dimensions : List Int} :
    validateOutlet actual name dimensions = .ok () ↔
      actual = ⟨name, .tensor .float32 dimensions⟩ := by
  obtain ⟨actualName, dtype⟩ := actual
  cases dtype with
  | other => simp [validateOutlet]
  | tensor element shape =>
      simp [validateOutlet, validateTensorContract]

/-- The loop over the inputs accepts each name once. -/
theorem nodup_of_validateInputs {names : List (List UInt8)} {inputs : List InputContract}
    (valid : validateInputs names inputs = .ok ()) :
    (inputs.map InputContract.name).Nodup ∧ ∀ input ∈ inputs, input.name ∉ names := by
  induction inputs generalizing names with
  | nil => simp
  | cons input inputs ih =>
      simp only [validateInputs, check_bind_eq_ok_iff, require_eq_ok_iff] at valid
      obtain ⟨-, fresh, rest⟩ := valid
      obtain ⟨unique, apart⟩ := ih rest
      simp only [List.mem_append, List.mem_singleton, not_or] at apart
      rw [List.map_cons, List.nodup_cons, List.forall_mem_cons]
      refine ⟨⟨?_, unique⟩, fresh, fun other member => (apart other member).1⟩
      rintro named
      obtain ⟨other, member, same⟩ := List.mem_map.mp named
      exact (apart other member).2 same

/-- The inputs of a valid manifest differ in their names. -/
theorem nodup_inputs {spdx : List UInt8 → Bool} {manifest : ModelManifest}
    (valid : manifest.validate spdx = .ok ()) :
    ((manifest.input :: manifest.additionalInputs).map InputContract.name).Nodup :=
  (nodup_of_validateInputs (ModelManifest.admitted valid).inputs).1

/-- A contract that passes is an input of the graph. -/
theorem mem_of_validateGraphInput {graph : Graph} {contract : InputContract}
    (valid : validateGraphInput graph contract = .ok ()) : inputOutlet contract ∈ graph.inputs := by
  unfold validateGraphInput at valid
  cases found : graph.inputs.find? (fun input => input.name = contract.name) with
  | none =>
      rw [found] at valid
      cases valid
  | some input =>
      rw [found] at valid
      have same : input = inputOutlet contract := validateOutlet_eq_ok_iff.mp valid
      exact same ▸ List.mem_of_find?_eq_some found

/-- An input of the graph passes when no name is there twice. -/
theorem validateGraphInput_of_mem {graph : Graph} (unique : (graph.inputs.map Outlet.name).Nodup)
    {contract : InputContract} (member : inputOutlet contract ∈ graph.inputs) :
    validateGraphInput graph contract = .ok () := by
  have picked : graph.inputs.filter (fun input => decide (input.name = contract.name)) =
      [inputOutlet contract] := filter_of_nodup unique member rfl
  have found : graph.inputs.find? (fun input => input.name = contract.name) =
      some (inputOutlet contract) := by
    rw [← List.head?_filter, picked, List.head?_cons]
  rw [validateGraphInput, found]
  exact validateOutlet_eq_ok_iff.mpr rfl

/-- Outputs are compared one by one. -/
theorem zip_eq_iff {actual : List Outlet} {expected : List OutputContract}
    (count : actual.length = expected.length) :
    (∀ pair ∈ actual.zip expected, pair.1 = outputOutlet pair.2) ↔
      expected.map outputOutlet = actual := by
  induction actual generalizing expected with
  | nil =>
      cases List.length_eq_zero_iff.mp count.symm
      simp
  | cons first actual ih =>
      cases expected with
      | nil => cases count
      | cons contract expected =>
          rw [List.zip_cons_cons, List.forall_mem_cons, List.map_cons, List.cons.injEq,
            ih (by simpa using count), eq_comm]

section Contract

variable {manifest : ModelManifest} {graph : Graph}
  (unique : ((manifest.input :: manifest.additionalInputs).map InputContract.name).Nodup)

include unique

/-- A graph is admitted exactly if its inputs are those of the manifest, in whatever order, and
its outputs are those of the manifest in their order. -/
theorem validateSessionContract_eq_ok_iff :
    validateSessionContract manifest graph = .ok () ↔
      ((manifest.input :: manifest.additionalInputs).map inputOutlet).Perm graph.inputs ∧
        manifest.outputs.map outputOutlet = graph.outputs := by
  have names : (manifest.input :: manifest.additionalInputs).map InputContract.name =
      ((manifest.input :: manifest.additionalInputs).map inputOutlet).map Outlet.name := by
    rw [List.map_map]
    rfl
  unfold validateSessionContract
  rw [check_bind_eq_ok_iff, check_bind_eq_ok_iff, require_eq_ok_iff, forM_eq_ok_iff,
    forM_eq_ok_iff]
  constructor
  · rintro ⟨⟨inputs, outputs⟩, taken, yielded⟩
    refine ⟨perm_of_mem (names ▸ unique).of_map (by rw [inputs, List.length_map]) ?_, ?_⟩
    · intro outlet member
      obtain ⟨contract, inside, rfl⟩ := List.mem_map.mp member
      exact mem_of_validateGraphInput (taken contract inside)
    · exact (zip_eq_iff outputs).mp fun pair member =>
        validateOutlet_eq_ok_iff.mp (yielded pair member)
  · rintro ⟨inputs, outputs⟩
    have count : graph.outputs.length = manifest.outputs.length := by
      rw [← outputs, List.length_map]
    refine ⟨⟨by rw [← inputs.length_eq, List.length_map], count⟩, ?_, ?_⟩
    · intro contract inside
      apply validateGraphInput_of_mem
      · exact (inputs.map Outlet.name).nodup_iff.mp (names ▸ unique)
      · exact inputs.subset (List.mem_map_of_mem inside)
    · exact fun pair member =>
        validateOutlet_eq_ok_iff.mpr ((zip_eq_iff count).mpr outputs pair member)

end Contract

/-! ## What a run is given -/

/-- A tensor under the name that it is given for. -/
def labelled (pair : InputContract × InputTensor) : List UInt8 × InputTensor :=
  (pair.1.name, pair.2)

/-- A named input is found when it is there once and fits. -/
theorem namedInput_eq_ok_iff {inputs : List (List UInt8 × InputTensor)}
    {contract : InputContract} {tensor : InputTensor} :
    OnnxSession.namedInput inputs contract = .ok tensor ↔ tensor.Fits contract ∧
      inputs.filter (fun input => input.1 = contract.name) = [labelled (contract, tensor)] := by
  have keyed : ∀ entry ∈ inputs.filter fun input => input.1 = contract.name,
      entry.1 = contract.name := fun entry member => by simpa using (List.mem_filter.mp member).2
  unfold OnnxSession.namedInput
  split
  · next name input found =>
      have key : name = contract.name := keyed (name, input) (found ▸ List.mem_cons_self)
      simp only [found, check_bind_eq_ok_iff, require_eq_ok_iff, pure, Except.pure,
        Except.ok.injEq, InputTensor.Fits, labelled, List.cons.injEq, Prod.mk.injEq, and_true]
      constructor
      · rintro ⟨fits, rfl⟩
        exact ⟨fits, key, rfl⟩
      · rintro ⟨fits, -, rfl⟩
        exact ⟨fits, rfl⟩
  · next several =>
      constructor
      · intro found
        cases found
      · rintro ⟨-, single⟩
        exact absurd single (several _ _)

section Contract

variable {session : OnnxSession} {inputs : List (List UInt8 × InputTensor)}
  {tensors : List InputTensor}
  (unique : ((session.manifest.input :: session.manifest.additionalInputs).map
    InputContract.name).Nodup)

include unique

/-- A run is given exactly one tensor that fits for each input of the manifest, and no others. -/
theorem validateNamedInputs_eq_ok_iff :
    session.validateNamedInputs inputs = .ok tensors ↔
      ∃ ordered : List (InputContract × InputTensor),
        ordered.map Prod.fst = session.manifest.input :: session.manifest.additionalInputs ∧
          ordered.map Prod.snd = tensors ∧ (ordered.map labelled).Perm inputs ∧
            ∀ pair ∈ ordered, pair.2.Fits pair.1 := by
  have count : (session.manifest.input :: session.manifest.additionalInputs).length =
      1 + session.manifest.additionalInputs.length := by rw [List.length_cons, Nat.add_comm]
  have keys : ∀ ordered : List (InputContract × InputTensor),
      ordered.map Prod.fst = session.manifest.input :: session.manifest.additionalInputs →
        ((ordered.map labelled).map Prod.fst).Nodup := by
    intro ordered contracts
    have same : (ordered.map labelled).map Prod.fst =
        (ordered.map Prod.fst).map InputContract.name := by
      rw [List.map_map, List.map_map]
      rfl
    rw [same, contracts]
    exact unique
  unfold OnnxSession.validateNamedInputs
  rw [check_bind_eq_ok_iff, require_eq_ok_iff, mapM_eq_ok_iff]
  constructor
  · rintro ⟨given, ordered, contracts, rfl, each⟩
    refine ⟨ordered, contracts, rfl, perm_of_mem (keys ordered contracts).of_map ?_ ?_,
      fun pair member => (namedInput_eq_ok_iff.mp (each pair member)).1⟩
    · rw [given, List.length_map, ← count, ← contracts, List.length_map]
    · intro input member
      obtain ⟨pair, inside, rfl⟩ := List.mem_map.mp member
      have picked := (namedInput_eq_ok_iff.mp (each pair inside)).2
      exact (List.mem_filter.mp (picked ▸ List.mem_singleton_self (labelled pair))).1
  · rintro ⟨ordered, contracts, rfl, given, fits⟩
    refine ⟨by rw [← given.length_eq, List.length_map, ← count, ← contracts, List.length_map],
      ordered, contracts, rfl, fun pair member => namedInput_eq_ok_iff.mpr ⟨fits pair member, ?_⟩⟩
    have names : (inputs.map Prod.fst).Nodup :=
      (given.map Prod.fst).nodup_iff.mp (keys ordered contracts)
    exact filter_of_nodup names (given.subset (List.mem_map_of_mem member)) rfl

/-- What a run feeds into an admitted graph is what the graph takes. -/
theorem fed_perm {graph : Graph}
    (admitted : validateSessionContract session.manifest graph = .ok ())
    {ordered : List (InputContract × InputTensor)}
    (contracts : ordered.map Prod.fst =
      session.manifest.input :: session.manifest.additionalInputs)
    (fits : ∀ pair ∈ ordered, pair.2.Fits pair.1) : (ordered.map fed).Perm graph.inputs := by
  have same : ordered.map fed = (ordered.map Prod.fst).map inputOutlet := by
    rw [List.map_map]
    apply List.map_congr_left
    intro pair member
    rw [fed, (fits pair member).1]
    rfl
  rw [same, contracts]
  exact ((validateSessionContract_eq_ok_iff unique).mp admitted).1

end Contract

/-- A session whose manifest is valid is made from a graph exactly if the graph takes the inputs
of the manifest and yields its outputs in order. A run is then accepted exactly if it gives one
tensor that fits for each input, and the graph gets all that it takes and nothing else. -/
theorem session_contract_exact {spdx : List UInt8 → Bool} {session : OnnxSession}
    (valid : session.manifest.validate spdx = .ok ()) {graph : Graph} :
    (validateSessionContract session.manifest graph = .ok () ↔
      ((session.manifest.input :: session.manifest.additionalInputs).map inputOutlet).Perm
        graph.inputs ∧ session.manifest.outputs.map outputOutlet = graph.outputs) ∧
    (validateSessionContract session.manifest graph = .ok () → ∀ inputs tensors,
      session.validateNamedInputs inputs = .ok tensors ↔
        ∃ ordered : List (InputContract × InputTensor),
          ordered.map Prod.fst = session.manifest.input :: session.manifest.additionalInputs ∧
            ordered.map Prod.snd = tensors ∧ (ordered.map labelled).Perm inputs ∧
              (∀ pair ∈ ordered, pair.2.Fits pair.1) ∧ (ordered.map fed).Perm graph.inputs) := by
  have unique := nodup_inputs valid
  refine ⟨validateSessionContract_eq_ok_iff unique, fun admitted inputs tensors => ?_⟩
  rw [validateNamedInputs_eq_ok_iff unique]
  constructor
  · rintro ⟨ordered, contracts, taken, given, fits⟩
    exact ⟨ordered, contracts, taken, given, fits, fed_perm unique admitted contracts fits⟩
  · rintro ⟨ordered, contracts, taken, given, fits, -⟩
    exact ⟨ordered, contracts, taken, given, fits⟩

/-- The graph of a detector, and a graph that yields the same outputs in another order. -/
theorem session_contract_exampleDetector :
    validateSessionContract exampleDetector
        ⟨[inputOutlet exampleDetector.input], exampleDetector.outputs.map outputOutlet⟩ = .ok () ∧
      validateSessionContract exampleDetector ⟨[inputOutlet exampleDetector.input],
        (exampleDetector.outputs.map outputOutlet).reverse⟩ ≠ .ok () := by
  have valid : (OnnxSession.mk exampleDetector []).manifest.validate apacheOnly = .ok () := by
    decide +kernel
  refine ⟨(session_contract_exact valid).1.mpr ⟨.refl _, rfl⟩, fun admitted => ?_⟩
  have same := ((session_contract_exact valid).1.mp admitted).2
  revert same
  decide +kernel

end Inference

end FaceAuth
