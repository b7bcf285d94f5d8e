import FaceAuth.Inference.Preprocess
import FaceAuth.Inference.Shapes

/-!
# Loaded sessions

What is known of a session from the contract that its graph was loaded under:
the inputs that it takes, the regions that it derives, and the landmarks that it
locates.
-/

namespace FaceAuth

open Foundation

/-- The loop over the inputs accepts valid ones only. -/
theorem mem_of_validateInputs {names : List (List UInt8)} {inputs : List InputContract}
    (valid : validateInputs names inputs = .ok ()) :
    ∀ input ∈ inputs, validateInputContract input = .ok () := by
  induction inputs generalizing names with
  | nil => simp
  | cons input inputs ih =>
      simp only [validateInputs, check_bind_eq_ok_iff] at valid
      obtain ⟨first, -, rest⟩ := valid
      rw [List.forall_mem_cons]
      exact ⟨first, ih rest⟩

namespace Inference

namespace OnnxSession

variable {session : OnnxSession}

/-- A loaded session has an admitted manifest and a digest. -/
theorem Loaded.spec {spdx : List UInt8 → Bool} {sha256 : List UInt8 → Vector UInt8 32}
    {serialize : ModelManifest → Except ModelError (List UInt8)}
    (loaded : session.Loaded spdx sha256 serialize) :
    session.manifest.Admitted ∧ ValidDigest session.compatibilitySha256 := by
  obtain ⟨valid, digest⟩ := ModelManifest.compatibilitySha256_spec loaded
  exact ⟨ModelManifest.admitted valid, digest⟩

/-! ## Inputs -/

/-- Every input of an admitted manifest is well formed. -/
theorem wellformed_input (admitted : session.manifest.Admitted) {contract : InputContract}
    (member : contract ∈ session.manifest.input :: session.manifest.additionalInputs) :
    Wellformed contract :=
  wellformed_of_valid (mem_of_validateInputs admitted.inputs contract member)

/-- Every model but the fusion takes one image. -/
theorem additionalInputs_eq_nil (admitted : session.manifest.Admitted)
    (single : session.manifest.role ≠ .passiveLivenessFusion) :
    session.manifest.additionalInputs = [] := by
  have names := admitted.inputNames
  unfold ModelManifest.validateInputNames at names
  split at names
  · next role _ => exact absurd role single
  · cases names
  · assumption
  · cases names

/-- The inputs of the fusion, which are known by their names. -/
structure Fuses (session : OnnxSession) (visible : InputContract) : Prop where
  only : session.manifest.additionalInputs = [visible]
  infrared : session.manifest.input.name = ModelManifest.INFRARED
  visible : visible.name = ModelManifest.VISIBLE

/-- A fusion has two inputs, one for each camera. -/
theorem fuses (admitted : session.manifest.Admitted)
    (fusion : session.manifest.role = .passiveLivenessFusion) :
    ∃ visible, session.Fuses visible := by
  have names := admitted.inputNames
  unfold ModelManifest.validateInputNames at names
  split at names
  · next visible _ only =>
      rw [require_eq_ok_iff] at names
      exact ⟨visible, only, names.1, names.2⟩
  · cases names
  · contradiction
  · cases names

/-- The first input of a fusion is found under its name. -/
theorem manifestInput_infrared {visible : InputContract} (fuses : session.Fuses visible) :
    session.manifestInput ModelManifest.INFRARED = .ok session.manifest.input := by
  unfold manifestInput
  rw [List.find?_cons_of_pos (by simpa using fuses.infrared)]

/-- So is the second. -/
theorem manifestInput_visible {visible : InputContract} (fuses : session.Fuses visible) :
    session.manifestInput ModelManifest.VISIBLE = .ok visible := by
  have other : ¬ session.manifest.input.name = ModelManifest.VISIBLE := by
    rw [fuses.infrared]
    decide
  unfold manifestInput
  rw [fuses.only, List.find?_cons_of_neg (by simpa using other),
    List.find?_cons_of_pos (by simpa using fuses.visible)]

/-- A run of one image binds its tensor. -/
theorem validateNamedInputs_single (admitted : session.manifest.Admitted)
    (single : session.manifest.role ≠ .passiveLivenessFusion) {tensor : InputTensor}
    (fits : tensor.Fits session.manifest.input) :
    session.validateNamedInputs [(session.manifest.input.name, tensor)] = .ok [tensor] := by
  unfold validateNamedInputs
  rw [additionalInputs_eq_nil admitted single]
  simp [namedInput, require, fits.1, fits.2, bind, Except.bind, pure, Except.pure]

/-- A run of the fusion binds its two tensors. -/
theorem validateNamedInputs_fusion {visible : InputContract} (fuses : session.Fuses visible)
    {first second : InputTensor} (fits : first.Fits session.manifest.input)
    (fits' : second.Fits visible) :
    session.validateNamedInputs
      [(ModelManifest.INFRARED, first), (ModelManifest.VISIBLE, second)] =
        .ok [first, second] := by
  have other : ModelManifest.INFRARED ≠ ModelManifest.VISIBLE := by decide
  unfold validateNamedInputs
  rw [fuses.only]
  simp [namedInput, fuses.infrared, fuses.visible, other, other.symm, require, fits.1, fits.2,
    fits'.1, fits'.2, bind, Except.bind, pure, Except.pure]

/-! ## Regions -/

/-- A landmark model fails to derive a region only where the region leaves the image. -/
theorem deriveFaceRegion_total (admitted : session.manifest.Admitted)
    (role : session.manifest.role = .faceLandmarks) {detection : NormalizedFaceBox}
    (proper : ProperBox detection) :
    (∃ region, session.deriveFaceRegion detection = .ok region) ∨
      session.deriveFaceRegion detection = .error .faceRegionOutsideImage := by
  have crop := admitted.crop
  rw [role] at crop
  obtain ⟨contract, carried, -⟩ := validateRoleContract_owner crop
  simp only [deriveFaceRegion, Inference.deriveFaceRegion, role, carried, proper, require,
    if_true, bind, Except.bind]
  split_ifs
  · exact .inl ⟨_, rfl⟩
  · exact .inr rfl

/-! ## Landmarks -/

/-- The number of points that a landmark model locates. -/
def landmarkCount (session : OnnxSession) : Nat :=
  match semanticOutput session.manifest .faceLandmarks with
  | .ok ⟨_, [1, count, 2], _⟩ => count
  | _ => 0

/-- Landmarks of the full image that a run of the model may lead to. -/
def Locates (session : OnnxSession) (imageLandmarks : ImageFacialLandmarks) : Prop :=
  ∃ outputs region landmarks, Conforms session.manifest outputs ∧
    extractFaceLandmarkOutput session.manifest session.compatibilitySha256 region outputs =
      .ok landmarks ∧
    landmarks.mapToImage = .ok imageLandmarks

/-- The landmarks that an alignment asks for are those of the model. -/
structure Provides (session : OnnxSession) (alignment : FaceAlignmentContract) : Prop where
  digest : alignment.landmarksCompatibilitySha256 = session.compatibilitySha256
  indices : ∀ index ∈ alignment.landmarkIndices.toList, index < session.landmarkCount

/-- Mapping to the image keeps the digest and the number of points. -/
theorem mapToImage_spec {landmarks : FacialLandmarks} {imageLandmarks : ImageFacialLandmarks}
    (mapped : landmarks.mapToImage = .ok imageLandmarks) :
    imageLandmarks.compatibilitySha256 = landmarks.compatibilitySha256 ∧
      imageLandmarks.points.length = landmarks.points.length := by
  obtain ⟨points, each, done⟩ := bind_eq_ok_iff.mp mapped
  cases done
  have related := mapM_forall₂ (fun _ _ _ => trivial) each
  exact ⟨rfl, (List.Forall₂.length_eq related).symm⟩

/-- A tensor that is found is one of those given. -/
theorem mem_of_exactOutput {outputs : List OutputTensor} {name : List UInt8}
    {dimensions : List Nat} {tensor : OutputTensor}
    (found : exactOutput outputs name dimensions = .ok tensor) : tensor ∈ outputs := by
  unfold exactOutput at found
  split at found
  · next output only =>
      split at found
      · cases found
        have member : tensor ∈ outputs.filter fun output => decide (output.name = name) := by
          rw [only]
          exact List.mem_cons_self
        exact (List.mem_filter.mp member).1
      · cases found
  · cases found

/-- The landmarks of a run are those of its model, and all of them. -/
theorem extractFaceLandmarkOutput_spec {region : FaceRegion} {outputs : List OutputTensor}
    {landmarks : FacialLandmarks}
    (extracted : extractFaceLandmarkOutput session.manifest session.compatibilitySha256 region
      outputs = .ok landmarks) :
    landmarks.compatibilitySha256 = session.compatibilitySha256 ∧ landmarks.region = region ∧
      landmarks.points.length = session.landmarkCount ∧
      ∃ tensor ∈ outputs, landmarks.points = landmarkPoints tensor.values := by
  simp only [extractFaceLandmarkOutput, check_bind_eq_ok_iff, relabel] at extracted
  obtain ⟨-, -, rest⟩ := extracted
  obtain ⟨contract, contracted, rest⟩ := bind_eq_ok_iff.mp rest
  rw [mapError_eq_ok_iff] at contracted
  split at rest
  · next count dimensions =>
      simp only [check_bind_eq_ok_iff, require_eq_ok_iff] at rest
      obtain ⟨-, rest⟩ := rest
      obtain ⟨output, found, rest⟩ := bind_eq_ok_iff.mp rest
      rw [mapError_eq_ok_iff] at found
      simp only [check_bind_eq_ok_iff, require_eq_ok_iff] at rest
      obtain ⟨length, rest⟩ := rest
      obtain ⟨points, admitted, rest⟩ := bind_eq_ok_iff.mp rest
      obtain ⟨measurements, -, done⟩ := bind_eq_ok_iff.mp rest
      simp only [admitPoints, check_bind_eq_ok_iff] at admitted
      obtain ⟨-, same⟩ := admitted
      cases same
      cases done
      refine ⟨rfl, rfl, (landmarkPoints_spec length).1.trans ?_, output,
        mem_of_exactOutput found, rfl⟩
      obtain ⟨name, shape, semantic⟩ := contract
      dsimp only at dimensions
      subst dimensions
      rw [landmarkCount, contracted]
      rfl
  · cases rest

/-- Landmarks of a model have its identity, and all of its points. -/
theorem Locates.spec {imageLandmarks : ImageFacialLandmarks}
    (located : session.Locates imageLandmarks) :
    imageLandmarks.compatibilitySha256 = session.compatibilitySha256 ∧
      imageLandmarks.points.length = session.landmarkCount := by
  obtain ⟨outputs, region, landmarks, -, extracted, mapped⟩ := located
  obtain ⟨identity, -, counted, -⟩ := extractFaceLandmarkOutput_spec extracted
  obtain ⟨kept, length⟩ := mapToImage_spec mapped
  exact ⟨kept.trans identity, length.trans counted⟩

/-! ## A face at the origin -/

/-- The outputs of a run that yields zeros. -/
def zeroOutputs (manifest : ModelManifest) : List OutputTensor :=
  manifest.outputs.map fun contract =>
    ⟨contract.name, contract.dimensions, List.replicate contract.dimensions.prod 0.0⟩

/-- Tensors of zeros conform to their manifest. -/
theorem zeroOutputs_conforms {manifest : ModelManifest} (admitted : manifest.Admitted) :
    Conforms manifest (zeroOutputs manifest) := by
  refine ⟨_, .refl _, ?_⟩
  rw [zeroOutputs, List.forall₂_map_right_iff, List.forall₂_same]
  intro contract member
  refine ⟨rfl, rfl, ?_, ?_⟩
  · rw [List.length_replicate, tensorElementCount_eq_ok_iff]
    exact (admitted.outputs.countable contract member).counted
  · rw [List.all_eq_true]
    intro value listed
    rw [List.eq_of_mem_replicate listed]
    decide +kernel

/-- Their values are zeros. -/
theorem eq_zero_of_mem_zeroOutputs {manifest : ModelManifest} {tensor : OutputTensor}
    (member : tensor ∈ zeroOutputs manifest) : ∀ value ∈ tensor.values, value = 0.0 := by
  obtain ⟨contract, -, rfl⟩ := List.mem_map.mp member
  exact fun value listed => List.eq_of_mem_replicate listed

/-- Zeros make points at the origin. -/
theorem eq_zero_of_mem_landmarkPoints : ∀ {values : List Float32},
    (∀ value ∈ values, value = 0.0) → ∀ point ∈ landmarkPoints values, point = ⟨0.0, 0.0⟩
  | [], _, _, member => by cases member
  | [_], _, _, member => by cases member
  | x :: y :: rest, zeros, point, member => by
      rw [List.forall_mem_cons, List.forall_mem_cons] at zeros
      rcases List.mem_cons.mp member with rfl | later
      · rw [zeros.1, zeros.2.1]
      · exact eq_zero_of_mem_landmarkPoints zeros.2.2 point later

/-- No angle is within every bound. -/
theorem withinAngle_zero {maximum : Float32} {high : Float32} (between : Between 1.0 high maximum) :
    WithinAngle maximum 0.0 := by
  have straight : (0.0 : Float32).abs = 0.0 := by decide +kernel
  refine ⟨by decide +kernel, ?_⟩
  rw [straight]
  exact float_not_lt_of_le (float_zero_le_of_one_le between.2.1)

/-- Every landmark model may locate a face. -/
theorem exists_locates (admitted : session.manifest.Admitted)
    (role : session.manifest.role = .faceLandmarks)
    (digest : ValidDigest session.compatibilitySha256) :
    ∃ imageLandmarks, session.Locates imageLandmarks := by
  have measured := admitted.measurement
  rw [role] at measured
  obtain ⟨contract, carried, valid⟩ := validateRoleContract_owner measured
  rw [LandmarkMeasurementContract.validate, require_eq_ok_iff] at valid
  obtain ⟨-, yaw, pitch, roll⟩ := valid
  have conforms := zeroOutputs_conforms admitted
  have unit : UnitScore 0.0 := by decide +kernel
  have zeros : ∀ {tensor : OutputTensor}, tensor ∈ zeroOutputs session.manifest →
      ∀ value ∈ tensor.values, UnitScore value := by
    intro tensor member value listed
    rw [eq_zero_of_mem_zeroOutputs member value listed]
    exact unit
  obtain ⟨contract', _, points, confidence, pose, eyes, carried', -, -, pointsRead,
    confidenceRead, poseRead, eyesRead, -, exactly⟩ := landmarksSafe admitted role digest conforms
  rw [carried] at carried'
  cases carried'
  have still : ∀ yaw' pitch' roll', pose.values = [yaw', pitch', roll'] →
      yaw' = 0.0 ∧ pitch' = 0.0 ∧ roll' = 0.0 := by
    intro yaw' pitch' roll' same
    have each := eq_zero_of_mem_zeroOutputs poseRead.member
    rw [same] at each
    exact ⟨each _ (by simp), each _ (by simp), each _ (by simp)⟩
  obtain ⟨landmarks, extracted⟩ := (exactly ⟨[], ⟨0.0, 0.0, 1.0, 1.0⟩⟩).success
    { coordinates := zeros pointsRead.member
      confidence := zeros confidenceRead.member
      pose := by
        intro yaw' pitch' roll' same
        obtain ⟨rfl, rfl, rfl⟩ := still yaw' pitch' roll' same
        exact ⟨withinAngle_zero yaw, withinAngle_zero pitch, withinAngle_zero roll⟩
      eyes := zeros eyesRead.member }
  obtain ⟨-, region, -, tensor, member, same⟩ := extractFaceLandmarkOutput_spec extracted
  obtain ⟨mapped, each⟩ : ∃ mapped,
      landmarks.points.mapM (mapPoint landmarks.region.bounds) = .ok mapped := by
    apply mapM_eq_ok
    intro point listed
    rw [same] at listed
    rw [region, eq_zero_of_mem_landmarkPoints (eq_zero_of_mem_zeroOutputs member) point listed]
    exact ⟨⟨0.0, 0.0⟩, by decide +kernel⟩
  exact ⟨⟨landmarks.compatibilitySha256, mapped⟩, _, _, landmarks, conforms, extracted,
    bind_eq_ok_iff.mpr ⟨mapped, each, rfl⟩⟩

end OnnxSession

end Inference

end FaceAuth
