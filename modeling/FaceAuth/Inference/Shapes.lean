import FaceAuth.Inference.Admission

/-!
# Accepted manifests make their adapters safe

Whatever finite values a graph yields under an accepted manifest, the adapter of
its role finds the tensors that it reads, in the shape that it reads them, and
rejects them for their values only.
-/

namespace FaceAuth

open Foundation

namespace Inference

/-- A step that succeeds under a condition and else fails with one error. -/
structure SucceedsExactly {Answer : Type} (condition : Prop) (error : InferenceError)
    (step : Except InferenceError Answer) : Prop where
  success : condition → ∃ answer, step = .ok answer
  failure : ¬ condition → step = .error error

/-- What is made of the answer does not matter. -/
theorem SucceedsExactly.map {Answer Result : Type} {condition : Prop} {error : InferenceError}
    {step : Except InferenceError Answer} {next : Answer → Result}
    (exactly : SucceedsExactly condition error step) :
    SucceedsExactly condition error (step.map next) where
  success holds := by
    obtain ⟨answer, same⟩ := exactly.success holds
    exact ⟨next answer, by rw [same]; rfl⟩
  failure fails := by
    rw [exactly.failure fails]
    rfl

/-! ## Detections -/

/-- A candidate of normalized values, with a proper box where it is retained. -/
def AdmittedFace (minimumConfidence : Float32) (candidate : NormalizedFaceBox × Float32) : Prop :=
  UnitScore candidate.2 ∧
    (UnitScore candidate.1.left ∧ UnitScore candidate.1.top ∧ UnitScore candidate.1.right ∧
      UnitScore candidate.1.bottom) ∧
    (minimumConfidence ≤ candidate.2 →
      ¬ candidate.1.right ≤ candidate.1.left ∧ ¬ candidate.1.bottom ≤ candidate.1.top)

theorem admitFaces_cons (minimumConfidence : Float32) (candidate : NormalizedFaceBox × Float32)
    (candidates : List (NormalizedFaceBox × Float32)) :
    (AdmittedFace minimumConfidence candidate →
      admitFaces minimumConfidence (candidate :: candidates) =
        (admitFaces minimumConfidence candidates).map fun faces =>
          if minimumConfidence ≤ candidate.2 then ⟨candidate.1, candidate.2⟩ :: faces else faces) ∧
    (¬ AdmittedFace minimumConfidence candidate →
      admitFaces minimumConfidence (candidate :: candidates) =
        .error .faceDetectionOutputInvalid) := by
  obtain ⟨bounds, confidence⟩ := candidate
  unfold AdmittedFace
  rw [admitFaces]
  by_cases score : UnitScore confidence
  · by_cases box : UnitScore bounds.left ∧ UnitScore bounds.top ∧ UnitScore bounds.right ∧
        UnitScore bounds.bottom
    · by_cases retained : minimumConfidence ≤ confidence
      · by_cases proper : ¬ bounds.right ≤ bounds.left ∧ ¬ bounds.bottom ≤ bounds.top
        · refine ⟨fun _ => ?_, fun refused => (refused ⟨score, box, fun _ => proper⟩).elim⟩
          simp only [require, score, box, retained, proper, if_true]
          cases admitFaces minimumConfidence candidates <;> rfl
        · refine ⟨fun admitted => (proper (admitted.2.2 retained)).elim, fun _ => ?_⟩
          simp only [require, score, box, retained, proper, if_true, if_false]
          rfl
      · refine ⟨fun _ => ?_, fun refused =>
          (refused ⟨score, box, fun above => (retained above).elim⟩).elim⟩
        simp only [require, score, box, retained, if_true, if_false]
        cases admitFaces minimumConfidence candidates <;> rfl
    · refine ⟨fun admitted => (box admitted.2.1).elim, fun _ => ?_⟩
      simp only [require, score, box, if_true, if_false]
      rfl
  · refine ⟨fun admitted => (score admitted.1).elim, fun _ => ?_⟩
    simp only [require, score, if_false]
    rfl

theorem admitFaces_exactly (minimumConfidence : Float32)
    (candidates : List (NormalizedFaceBox × Float32)) :
    SucceedsExactly (∀ candidate ∈ candidates, AdmittedFace minimumConfidence candidate)
      .faceDetectionOutputInvalid (admitFaces minimumConfidence candidates) := by
  induction candidates with
  | nil => exact ⟨fun _ => ⟨[], rfl⟩, fun refused => (refused (by simp)).elim⟩
  | cons candidate candidates ih =>
      obtain ⟨admits, refuses⟩ := admitFaces_cons minimumConfidence candidate candidates
      refine ⟨?_, ?_⟩
      · intro every
        rw [List.forall_mem_cons] at every
        obtain ⟨faces, rest⟩ := ih.success every.2
        rw [admits every.1, rest]
        exact ⟨_, rfl⟩
      · intro some
        by_cases first : AdmittedFace minimumConfidence candidate
        · rw [admits first, ih.failure]
          · rfl
          · intro every
            exact some (List.forall_mem_cons.mpr ⟨first, every⟩)
        · exact refuses first

theorem length_faceBoxes : ∀ {values : List Float32} {count : Nat},
    values.length = count * 4 → (faceBoxes values).length = count
  | [], count, length => by
      rw [faceBoxes]
      · simp only [List.length_nil] at length ⊢
        omega
      · simp
  | [_], count, length => by simp at length; omega
  | [_, _], count, length => by simp at length; omega
  | [_, _, _], count, length => by simp at length; omega
  | _ :: _ :: _ :: _ :: rest, 0, length => by simp at length
  | _ :: _ :: _ :: _ :: rest, count + 1, length => by
      rw [faceBoxes, List.length_cons, length_faceBoxes]
      simp only [List.length_cons] at length
      omega

/-- What the adapter of a detector makes of conforming tensors. -/
def DetectionsSafe (manifest : ModelManifest) (compatibilitySha256 : List UInt8)
    (outputs : List OutputTensor) : Prop :=
  ∃ count boxes scores,
    1 ≤ count ∧ count ≤ MAX_FACE_DETECTION_CANDIDATES ∧
    Reads manifest outputs .faceDetectionBoxes [1, count, 4] boxes ∧
    Reads manifest outputs .faceDetectionScores [1, count] scores ∧
    (faceBoxes boxes.values).length = count ∧ scores.values.length = count ∧
    ∀ minimumConfidence,
      (¬ UnitScore minimumConfidence →
        extractFaceDetectionOutputs manifest compatibilitySha256 outputs minimumConfidence =
          .error .invalidDetectionThreshold) ∧
      (UnitScore minimumConfidence →
        SucceedsExactly (∀ candidate ∈ (faceBoxes boxes.values).zip scores.values,
            AdmittedFace minimumConfidence candidate) .faceDetectionOutputInvalid
          (extractFaceDetectionOutputs manifest compatibilitySha256 outputs minimumConfidence))

theorem faceDetectorOutputs_of_valid {outputs : List OutputContract}
    (valid : validateFaceDetectorOutputs outputs = .ok ()) :
    outputs.length = 2 ∧ ∃ count boxes scores, 1 ≤ count ∧
      count ≤ MAX_FACE_DETECTION_CANDIDATES ∧
      uniqueSemanticOutput outputs .faceDetectionBoxes = .ok boxes ∧
      boxes.dimensions = [1, count, 4] ∧
      uniqueSemanticOutput outputs .faceDetectionScores = .ok scores ∧
      scores.dimensions = [1, count] := by
  simp only [validateFaceDetectorOutputs, check_bind_eq_ok_iff, require_eq_ok_iff] at valid
  obtain ⟨two, rest⟩ := valid
  obtain ⟨boxes, first, rest⟩ := bind_eq_ok_iff.mp rest
  obtain ⟨scores, second, rest⟩ := bind_eq_ok_iff.mp rest
  split at rest
  case h_1 candidateCount scoreCount shape shape' =>
    obtain ⟨rfl, low, high⟩ := require_eq_ok_iff.mp rest
    exact ⟨two, candidateCount, boxes, scores, low, high, first, shape, second, shape'⟩
  case h_2 => cases rest

theorem detectionsSafe {manifest : ModelManifest} (admitted : manifest.Admitted)
    (role : manifest.role = .faceDetector) {compatibilitySha256 : List UInt8}
    (digest : ValidDigest compatibilitySha256) {outputs : List OutputTensor}
    (conforms : Conforms manifest outputs) :
    DetectionsSafe manifest compatibilitySha256 outputs := by
  have semantics := admitted.role
  rw [role] at semantics
  obtain ⟨two, count, boxesContract, scoresContract, low, high, first, shape, second, shape'⟩ :=
    faceDetectorOutputs_of_valid semantics
  obtain ⟨boxes, boxesRead⟩ := reads_of_unique admitted conforms first
  obtain ⟨scores, scoresRead⟩ := reads_of_unique admitted conforms second
  rw [shape] at boxesRead
  rw [shape'] at scoresRead
  have length : boxes.values.length = count * 4 := by simpa using boxesRead.length
  have length' : scores.values.length = count := by simpa using scoresRead.length
  refine ⟨count, boxes, scores, low, high, boxesRead, scoresRead, length_faceBoxes length, length',
    ?_⟩
  intro minimumConfidence
  have outputsTwo : outputs.length = 2 := (length_of_conforms conforms).trans two
  obtain ⟨contract, contracted, dimensions, found⟩ := boxesRead.contracted
  obtain ⟨contract', contracted', dimensions', found'⟩ := scoresRead.contracted
  refine ⟨?_, ?_⟩
  · intro outside
    simp only [extractFaceDetectionOutputs, require, role, outside, if_true, if_false]
    rfl
  · intro unit
    have body : extractFaceDetectionOutputs manifest compatibilitySha256 outputs
        minimumConfidence =
        (admitFaces minimumConfidence ((faceBoxes boxes.values).zip scores.values)).map
          fun faces => ⟨compatibilitySha256, faces⟩ := by
      rw [dimensions] at found
      rw [dimensions'] at found'
      simp only [extractFaceDetectionOutputs, require, role, unit, digest, outputsTwo, relabel,
        contracted, contracted', dimensions, dimensions', found, found', low, high, length, length',
        mapError_ok, if_true, and_self, bind, Except.bind]
      cases admitFaces minimumConfidence ((faceBoxes boxes.values).zip scores.values) <;> rfl
    rw [body]
    exact (admitFaces_exactly minimumConfidence _).map

/-! ## Landmarks -/

/-- Values that every measurement of a face admits. -/
structure LandmarkValues (contract : LandmarkMeasurementContract)
    (coordinates confidence pose eyes : List Float32) : Prop where
  coordinates : ∀ value ∈ coordinates, UnitScore value
  confidence : ∀ value ∈ confidence, UnitScore value
  pose : ∀ yaw pitch roll, pose = [yaw, pitch, roll] →
    WithinAngle contract.maximumAbsoluteYawDegrees yaw ∧
    WithinAngle contract.maximumAbsolutePitchDegrees pitch ∧
    WithinAngle contract.maximumAbsoluteRollDegrees roll
  eyes : ∀ value ∈ eyes, UnitScore value

theorem landmarkPoints_spec : ∀ {values : List Float32} {count : Nat},
    values.length = count * 2 → (landmarkPoints values).length = count ∧
      ((landmarkPoints values).all (fun point =>
        decide (UnitScore point.x ∧ UnitScore point.y)) = true ↔
        ∀ value ∈ values, UnitScore value)
  | [], count, length => by
      have none : count = 0 := by
        simp only [List.length_nil] at length
        omega
      rw [none]
      refine ⟨rfl, ?_⟩
      simp [landmarkPoints]
  | [_], count, length => by simp at length; omega
  | _ :: _ :: rest, 0, length => by simp at length
  | x :: y :: rest, count + 1, length => by
      have fewer : rest.length = count * 2 := by
        simp only [List.length_cons] at length
        omega
      obtain ⟨counted, every⟩ := landmarkPoints_spec fewer
      refine ⟨by rw [landmarkPoints, List.length_cons, counted], ?_⟩
      rw [landmarkPoints, List.all_cons, Bool.and_eq_true, every, decide_eq_true_iff,
        List.forall_mem_cons, List.forall_mem_cons, and_assoc]

/-- The parts of a small count. -/
theorem countUnpacked_count : ∀ count < 513, 2 ≤ count →
    CountUnpacked (UInt16.ofNat count).toFloat32.toModel.unpack = true := by
  decide +kernel

/-- A small count is a finite single. -/
theorem isFinite_count : ∀ count < 513, (UInt16.ofNat count).toFloat32.isFinite = true := by
  decide +kernel

/-- A number of landmarks has its single. -/
theorem singleOfCount_ok {count : Nat} (few : count ≤ MAX_FACE_LANDMARKS) :
    singleOfCount count = .ok (UInt16.ofNat count).toFloat32 := by
  have fits : count ≤ U16_LIMIT := Nat.le_trans few (by decide)
  simp only [singleOfCount, require, fits, if_true]
  rfl

/-- The means over normalized confidences are finite, so that only the angles and the eyes
decide over a measurement. -/
theorem measure_exactly (contract : LandmarkMeasurementContract)
    {confidence pose eyes : List Float32} {count : Nat}
    (unit : ∀ value ∈ confidence, UnitScore value) (length : confidence.length = count)
    (some : MIN_FACE_LANDMARKS ≤ count) (few : count ≤ MAX_FACE_LANDMARKS)
    (angles : pose.length = 3) (pair : eyes.length = 2) :
    SucceedsExactly ((∀ yaw pitch roll, pose = [yaw, pitch, roll] →
        WithinAngle contract.maximumAbsoluteYawDegrees yaw ∧
        WithinAngle contract.maximumAbsolutePitchDegrees pitch ∧
        WithinAngle contract.maximumAbsoluteRollDegrees roll) ∧
        ∀ value ∈ eyes, UnitScore value) .faceLandmarkOutputInvalid
      (measure contract confidence pose eyes count) := by
  obtain ⟨yaw, pitch, roll, rfl⟩ := List.length_eq_three.mp angles
  obtain ⟨leftEye, rightEye, rfl⟩ := List.length_eq_two.mp pair
  have visible : confidence.countP (fun value =>
      decide (contract.minimumVisibleConfidence ≤ value)) ≤ MAX_FACE_LANDMARKS :=
    Nat.le_trans List.countP_le_length (length.trans_le few)
  have divisor : CountUnpacked (UInt16.ofNat count).toFloat32.toModel.unpack = true :=
    countUnpacked_count count (Nat.lt_succ_of_le few) (Nat.le_trans (by decide) some)
  have mean : (floatSum confidence / (UInt16.ofNat count).toFloat32).isFinite = true :=
    isFinite_div_count (isFinite_floatSum unit) divisor
  have fraction : ((UInt16.ofNat (confidence.countP fun value =>
      decide (contract.minimumVisibleConfidence ≤ value))).toFloat32 /
        (UInt16.ofNat count).toFloat32).isFinite = true :=
    isFinite_div_count (isFinite_count _ (Nat.lt_succ_of_le visible)) divisor
  unfold measure
  dsimp only
  rw [singleOfCount_ok few, singleOfCount_ok visible]
  by_cases turned : WithinAngle contract.maximumAbsoluteYawDegrees yaw ∧
      WithinAngle contract.maximumAbsolutePitchDegrees pitch ∧
      WithinAngle contract.maximumAbsoluteRollDegrees roll
  · by_cases open' : UnitScore leftEye ∧ UnitScore rightEye
    · refine ⟨fun _ => ?_, fun refused => (refused ⟨?_, ?_⟩).elim⟩
      · simp only [require, turned, open', mean, fraction, and_self, if_true, bind, Except.bind]
        exact ⟨_, rfl⟩
      · intro yaw' pitch' roll' same
        cases same
        exact turned
      · simpa using open'
    · refine ⟨fun admitted => (open' (by simpa using admitted.2)).elim, fun _ => ?_⟩
      simp only [require, turned, open', and_self, if_true, if_false]
      rfl
  · refine ⟨fun admitted => (turned (admitted.1 yaw pitch roll rfl)).elim, fun _ => ?_⟩
    simp only [require, turned, if_false]
    rfl

/-- The tensor of a meaning is found. -/
theorem Reads.semanticTensor {manifest : ModelManifest} {outputs : List OutputTensor}
    {semantic : OutputSemantic} {dimensions : List Nat} {tensor : OutputTensor}
    (reads : Reads manifest outputs semantic dimensions tensor) :
    semanticTensor manifest outputs semantic = .ok tensor := by
  obtain ⟨contract, contracted, -, found⟩ := reads.contracted
  simp only [Inference.semanticTensor, relabel, contracted, found, mapError_ok, bind, Except.bind]

/-- The outputs of a valid landmark model. -/
theorem faceLandmarkOutputs_of_valid {outputs : List OutputContract}
    (valid : validateFaceLandmarkOutputs outputs = .ok ()) :
    outputs.length = 4 ∧ ∃ count landmarks confidence pose eyes,
      MIN_FACE_LANDMARKS ≤ count ∧ count ≤ MAX_FACE_LANDMARKS ∧
      (uniqueSemanticOutput outputs .faceLandmarks = .ok landmarks ∧
        landmarks.dimensions = [1, count, 2]) ∧
      (uniqueSemanticOutput outputs .faceLandmarkConfidence = .ok confidence ∧
        confidence.dimensions = [1, count]) ∧
      (uniqueSemanticOutput outputs .facePoseDegrees = .ok pose ∧ pose.dimensions = [1, 3]) ∧
      uniqueSemanticOutput outputs .eyeOpenness = .ok eyes ∧ eyes.dimensions = [1, 2] := by
  simp only [validateFaceLandmarkOutputs, check_bind_eq_ok_iff, require_eq_ok_iff] at valid
  obtain ⟨four, rest⟩ := valid
  obtain ⟨landmarks, first, rest⟩ := bind_eq_ok_iff.mp rest
  obtain ⟨confidence, second, rest⟩ := bind_eq_ok_iff.mp rest
  obtain ⟨pose, third, rest⟩ := bind_eq_ok_iff.mp rest
  obtain ⟨eyes, fourth, rest⟩ := bind_eq_ok_iff.mp rest
  split at rest
  case h_1 count pointsShape =>
    simp only [check_bind_eq_ok_iff, require_eq_ok_iff] at rest
    obtain ⟨⟨low, high⟩, confidenceShape, poseShape, eyesShape⟩ := rest
    exact ⟨four, count, landmarks, confidence, pose, eyes, low, high, ⟨first, pointsShape⟩,
      ⟨second, confidenceShape⟩, ⟨third, poseShape⟩, fourth, eyesShape⟩
  case h_2 => cases rest

/-- What the adapter of a landmark model makes of conforming tensors. -/
def LandmarksSafe (manifest : ModelManifest) (compatibilitySha256 : List UInt8)
    (outputs : List OutputTensor) : Prop :=
  ∃ contract count points confidence pose eyes,
    manifest.landmarkMeasurement = some contract ∧
    MIN_FACE_LANDMARKS ≤ count ∧ count ≤ MAX_FACE_LANDMARKS ∧
    Reads manifest outputs .faceLandmarks [1, count, 2] points ∧
    Reads manifest outputs .faceLandmarkConfidence [1, count] confidence ∧
    Reads manifest outputs .facePoseDegrees [1, 3] pose ∧
    Reads manifest outputs .eyeOpenness [1, 2] eyes ∧
    (landmarkPoints points.values).length = count ∧
    ∀ region, SucceedsExactly
      (LandmarkValues contract points.values confidence.values pose.values eyes.values)
      .faceLandmarkOutputInvalid
      (extractFaceLandmarkOutput manifest compatibilitySha256 region outputs)

/-- Landmarks are extracted from every conforming output, or refused with a reason. -/
theorem landmarksSafe {manifest : ModelManifest} (admitted : manifest.Admitted)
    (role : manifest.role = .faceLandmarks) {compatibilitySha256 : List UInt8}
    (digest : ValidDigest compatibilitySha256) {outputs : List OutputTensor}
    (conforms : Conforms manifest outputs) :
    LandmarksSafe manifest compatibilitySha256 outputs := by
  have semantics := admitted.role
  have measured := admitted.measurement
  rw [role] at semantics measured
  obtain ⟨contract, carried, -⟩ := validateRoleContract_owner measured
  obtain ⟨four, count, _, _, _, _, low, high, ⟨first, pointsShape⟩, ⟨second, confidenceShape⟩,
    ⟨third, poseShape⟩, fourth, eyesShape⟩ := faceLandmarkOutputs_of_valid semantics
  obtain ⟨points, pointsRead⟩ := reads_of_unique admitted conforms first
  obtain ⟨confidence, confidenceRead⟩ := reads_of_unique admitted conforms second
  obtain ⟨pose, poseRead⟩ := reads_of_unique admitted conforms third
  obtain ⟨eyes, eyesRead⟩ := reads_of_unique admitted conforms fourth
  rw [pointsShape] at pointsRead
  rw [confidenceShape] at confidenceRead
  rw [poseShape] at poseRead
  rw [eyesShape] at eyesRead
  have length : points.values.length = count * 2 := by simpa using pointsRead.length
  have length' : confidence.values.length = count := by simpa using confidenceRead.length
  have angles : pose.values.length = 3 := poseRead.length
  have pair : eyes.values.length = 2 := eyesRead.length
  have outputsFour : outputs.length = 4 := (length_of_conforms conforms).trans four
  obtain ⟨counted, every⟩ := landmarkPoints_spec length
  obtain ⟨pointsContract, contracted, dimensions, found⟩ := pointsRead.contracted
  rw [dimensions] at found
  refine ⟨contract, count, points, confidence, pose, eyes, carried, low, high, pointsRead,
    confidenceRead, poseRead, eyesRead, counted, fun region => ?_⟩
  have body : extractFaceLandmarkOutput manifest compatibilitySha256 region outputs =
      (admitPoints (landmarkPoints points.values) >>= fun points => do
        let measurements ← extractLandmarkMeasurements manifest outputs count
        return ⟨compatibilitySha256, region, points, measurements⟩) := by
    simp only [extractFaceLandmarkOutput, require, role, digest, outputsFour, relabel, contracted,
      dimensions, found, low, high, length, mapError_ok, if_true, and_self, bind, Except.bind]
  have means : extractLandmarkMeasurements manifest outputs count =
      if ∀ value ∈ confidence.values, UnitScore value then
        measure contract confidence.values pose.values eyes.values count
      else .error .faceLandmarkOutputInvalid := by
    simp only [extractLandmarkMeasurements, confidenceRead.semanticTensor,
      poseRead.semanticTensor, eyesRead.semanticTensor, carried, require, length', bind,
      Except.bind, true_and, List.all_eq_true, decide_eq_true_iff]
    split_ifs <;> rfl
  rw [body, means]
  by_cases normal : ∀ value ∈ points.values, UnitScore value
  · by_cases certain : ∀ value ∈ confidence.values, UnitScore value
    · have decides := measure_exactly contract certain length' low high angles pair
      rw [if_pos certain]
      refine ⟨?_, ?_⟩
      · intro admitted
        obtain ⟨measurements, same⟩ := decides.success ⟨admitted.pose, admitted.eyes⟩
        simp only [admitPoints, require, every.mpr normal, same, if_true, bind, Except.bind]
        exact ⟨_, rfl⟩
      · intro refused
        have failed := decides.failure fun rest =>
          refused ⟨normal, certain, rest.1, rest.2⟩
        simp only [admitPoints, require, every.mpr normal, failed, if_true, bind, Except.bind]
        rfl
    · rw [if_neg certain]
      refine ⟨fun admitted => (certain admitted.confidence).elim, fun _ => ?_⟩
      simp only [admitPoints, require, every.mpr normal, if_true, bind, Except.bind]
      rfl
  · refine ⟨fun admitted => (normal admitted.coordinates).elim, fun _ => ?_⟩
    simp only [admitPoints, require, mt every.mp normal, Bool.false_eq_true, if_false, bind,
      Except.bind]

/-! ## Embeddings -/

/-- A vector whose quotients by its norm are finite, and whose norm is not negligible. -/
def Normalizable (values : List Float32) : Prop :=
  ∃ squaredNorm, finiteDot values values = some squaredNorm ∧
    squaredNorm.sqrt.isFinite = true ∧ ¬ squaredNorm.sqrt ≤ F32_EPSILON ∧
    ∀ value ∈ values, (value / squaredNorm.sqrt).isFinite = true

/-- Normalizing succeeds exactly for what can be normalized. -/
theorem normalize_exactly (values : List Float32) :
    SucceedsExactly (Normalizable values) .embeddingInvalid (normalize values) := by
  unfold normalize
  split
  · next none =>
      refine ⟨?_, fun _ => rfl⟩
      intro normalizable
      obtain ⟨squaredNorm, some, -⟩ := normalizable
      rw [none] at some
      cases some
  · next squaredNorm some =>
      by_cases proper : squaredNorm.sqrt.isFinite = true ∧ ¬ squaredNorm.sqrt ≤ F32_EPSILON
      · by_cases quotients : (values.map (· / squaredNorm.sqrt)).all Float32.isFinite = true
        · refine ⟨fun _ => ?_, fun refused => (refused ?_).elim⟩
          · simp only [require, proper, quotients, if_true, bind, Except.bind]
            exact ⟨_, rfl⟩
          · rw [List.all_map, List.all_eq_true] at quotients
            exact ⟨squaredNorm, some, proper.1, proper.2, quotients⟩
        · refine ⟨?_, fun _ => ?_⟩
          · intro normalizable
            obtain ⟨other, same, -, -, finite⟩ := normalizable
            rw [some] at same
            cases same
            rw [List.all_map, List.all_eq_true] at quotients
            exact (quotients finite).elim
          · simp only [require, proper, quotients, Bool.false_eq_true, not_false_eq_true, and_self,
              if_true, if_false, bind, Except.bind]
      · refine ⟨?_, fun _ => ?_⟩
        · intro normalizable
          obtain ⟨other, same, finite, above, -⟩ := normalizable
          rw [some] at same
          cases same
          exact (proper ⟨finite, above⟩).elim
        · simp only [require, proper, if_false, bind, Except.bind]

/-- What the adapter of an embedding model makes of conforming tensors. -/
def EmbeddingSafe (manifest : ModelManifest) (compatibilitySha256 : List UInt8)
    (outputs : List OutputTensor) : Prop :=
  ∃ dimensions tensor, Reads manifest outputs .embedding dimensions tensor ∧
    32 ≤ tensor.values.length ∧ tensor.values.length ≤ 4096 ∧
    SucceedsExactly (Normalizable tensor.values) .embeddingInvalid
      (extractEmbeddingOutput manifest compatibilitySha256 outputs)

/-- An embedding is extracted from every conforming output, or refused with a reason. -/
theorem embeddingSafe {manifest : ModelManifest} (admitted : manifest.Admitted)
    (role : manifest.role = .faceEmbedding) (compatibilitySha256 : List UInt8)
    {outputs : List OutputTensor} (conforms : Conforms manifest outputs) :
    EmbeddingSafe manifest compatibilitySha256 outputs := by
  have semantics := admitted.role
  rw [role, validateRoleSemantics, require_eq_ok_iff] at semantics
  obtain ⟨contract, unique⟩ := unique_of_semanticCount semantics.1
  obtain ⟨-, member, meaning⟩ := semanticOutput_of_unique unique
  have shape := forM_ok_mem admitted.shapes contract member
  simp only [validateOutputShape, meaning, bind_eq_ok_iff, require_eq_ok_iff,
    dimensionProduct_eq_ok_iff] at shape
  obtain ⟨elements, counted, -, low, high⟩ := shape
  obtain ⟨tensor, read⟩ := reads_of_unique admitted conforms unique
  rw [checkedProduct_eq counted, ← read.length] at low high
  refine ⟨_, tensor, read, low, high, ?_⟩
  obtain ⟨contract', contracted, -, found⟩ := read.contracted
  have body : extractEmbeddingOutput manifest compatibilitySha256 outputs =
      (normalize tensor.values).map fun values => ⟨compatibilitySha256, values⟩ := by
    simp only [extractEmbeddingOutput, require, role, contracted, found, low, high, if_true,
      and_self, bind, Except.bind]
    cases normalize tensor.values <;> rfl
  rw [body]
  exact (normalize_exactly tensor.values).map

/-! ## Live probabilities -/

/-- What the adapter of a presentation-attack model makes of conforming tensors. -/
def PassiveLivenessSafe (manifest : ModelManifest) (compatibilitySha256 : List UInt8)
    (outputs : List OutputTensor) : Prop :=
  ∃ dimensions tensor probability, Reads manifest outputs .liveProbability dimensions tensor ∧
    tensor.values = [probability] ∧
    SucceedsExactly (UnitScore probability) .passiveLivenessOutputInvalid
      (extractPassiveLivenessOutput manifest compatibilitySha256 outputs)

/-- A probability is extracted from every conforming output, or refused with a reason. -/
theorem passiveLivenessSafe {manifest : ModelManifest} (admitted : manifest.Admitted)
    (role : manifest.role = .passiveLivenessInfrared ∨ manifest.role = .passiveLivenessVisible ∨
      manifest.role = .passiveLivenessFusion) {compatibilitySha256 : List UInt8}
    (digest : ValidDigest compatibilitySha256) {outputs : List OutputTensor}
    (conforms : Conforms manifest outputs) :
    PassiveLivenessSafe manifest compatibilitySha256 outputs := by
  have semantics : semanticCount manifest.outputs .liveProbability = 1 := by
    have valid := admitted.role
    rcases role with same | same | same <;>
      · rw [same, validateRoleSemantics, require_eq_ok_iff] at valid
        exact valid.1
  obtain ⟨contract, unique⟩ := unique_of_semanticCount semantics
  obtain ⟨-, member, meaning⟩ := semanticOutput_of_unique unique
  have shape := forM_ok_mem admitted.shapes contract member
  simp only [validateOutputShape, meaning, bind_eq_ok_iff, require_eq_ok_iff,
    dimensionProduct_eq_ok_iff] at shape
  obtain ⟨elements, counted, one⟩ := shape
  obtain ⟨tensor, read⟩ := reads_of_unique admitted conforms unique
  rw [checkedProduct_eq counted, ← read.length] at one
  obtain ⟨probability, single⟩ := List.length_eq_one_iff.mp one
  refine ⟨_, tensor, probability, read, single, ?_⟩
  obtain ⟨contract', contracted, -, found⟩ := read.contracted
  by_cases unit : UnitScore probability
  · have passes : PassiveLivenessScore.check manifest.role compatibilitySha256 probability =
        .ok () := by
      simp only [PassiveLivenessScore.check, require, role, digest, unit, if_true, and_self]
      rfl
    refine ⟨fun _ => ⟨⟨manifest.role, compatibilitySha256, probability, passes⟩, ?_⟩,
      fun refused => (refused unit).elim⟩
    simp only [extractPassiveLivenessOutput, require, role, contracted, found, single, unit,
      if_true, bind, Except.bind]
    unfold PassiveLivenessScore.fromValidatedOutput
    split
    · next failed =>
        rw [passes] at failed
        cases failed
    · rfl
  · refine ⟨fun admitted => (unit admitted).elim, fun _ => ?_⟩
    simp only [extractPassiveLivenessOutput, require, role, contracted, found, single, unit,
      if_true, if_false, bind, Except.bind]

/-! ## Every role -/

/-- The shapes of a manifest are counted, and its adapter reads them safely. -/
structure ShapeSafe (manifest : ModelManifest) (compatibilitySha256 : List UInt8) : Prop where
  counted : ∀ output ∈ manifest.outputs,
    dimensionProduct output.dimensions = .ok output.dimensions.prod ∧
    tensorElementCount output.dimensions = .ok output.dimensions.prod
  bounded : (manifest.outputs.map fun output => output.dimensions.prod).sum ≤
    MAX_TOTAL_OUTPUT_ELEMENTS
  detections : manifest.role = .faceDetector → ∀ outputs, Conforms manifest outputs →
    DetectionsSafe manifest compatibilitySha256 outputs
  landmarks : manifest.role = .faceLandmarks → ∀ outputs, Conforms manifest outputs →
    LandmarksSafe manifest compatibilitySha256 outputs
  embedding : manifest.role = .faceEmbedding → ∀ outputs, Conforms manifest outputs →
    EmbeddingSafe manifest compatibilitySha256 outputs
  passiveLiveness : manifest.role = .passiveLivenessInfrared ∨
      manifest.role = .passiveLivenessVisible ∨ manifest.role = .passiveLivenessFusion →
    ∀ outputs, Conforms manifest outputs →
    PassiveLivenessSafe manifest compatibilitySha256 outputs

/-- All extractors are safe for an admitted manifest. -/
theorem shapeSafe_of_admitted {manifest : ModelManifest} (admitted : manifest.Admitted)
    {compatibilitySha256 : List UInt8} (digest : ValidDigest compatibilitySha256) :
    ShapeSafe manifest compatibilitySha256 := by
  refine ⟨?_, ?_, ?_, ?_, ?_, ?_⟩
  · intro output member
    have counted := (admitted.outputs.countable output member).counted
    exact ⟨dimensionProduct_eq_ok_iff.mpr counted, tensorElementCount_eq_ok_iff.mpr counted⟩
  · simpa using admitted.outputs.bounded (Nat.zero_le _)
  · exact fun role _ conforms => detectionsSafe admitted role digest conforms
  · exact fun role _ conforms => landmarksSafe admitted role digest conforms
  · exact fun role _ conforms => embeddingSafe admitted role _ conforms
  · exact fun role _ conforms => passiveLivenessSafe admitted role digest conforms

/-- A session that loads its manifest has safe adapters. -/
theorem shapeSafe_of_loaded {spdx : List UInt8 → Bool} {sha256 : List UInt8 → Vector UInt8 32}
    {serialize : ModelManifest → Except ModelError (List UInt8)} {manifest : ModelManifest}
    {compatibilitySha256 : List UInt8}
    (loaded : manifest.compatibilitySha256 spdx sha256 serialize = .ok compatibilitySha256) :
    ShapeSafe manifest compatibilitySha256 := by
  obtain ⟨valid, digest⟩ := ModelManifest.compatibilitySha256_spec loaded
  exact shapeSafe_of_admitted (ModelManifest.admitted valid) digest

/-- The adapters of an accepted manifest fail for values only. -/
theorem shapeSafe_of_valid {spdx : List UInt8 → Bool} {manifest : ModelManifest}
    (valid : manifest.validate spdx = .ok ()) (hash : Vector UInt8 32) :
    ShapeSafe manifest (hexLower hash.toList) :=
  shapeSafe_of_admitted (ModelManifest.admitted valid) (validDigest_hexLower hash)

/-- The bytes of a name of ASCII characters. -/
def asciiName (name : String) : List UInt8 := name.toList.map Char.toUInt8

/-- A detector of a hundred candidates. -/
def exampleDetector : ModelManifest where
  schemaVersion := MODEL_MANIFEST_SCHEMA_VERSION
  name := asciiName "example-detector"
  version := asciiName "1.0.0"
  role := .faceDetector
  sourceUrl := asciiName "https://example.invalid/models/example-detector.onnx"
  licenseSpdx := asciiName "Apache-2.0"
  sha256 := asciiName "ba7816bf8f01cfea414140de5dae2223b00361a396177a9cb410ff61f20015ad"
  input := ⟨asciiName "input", 640, 360, 3, .nchw, .rgb, ⟨List.replicate 3 (1.0 / 255.0),
    List.replicate 3 0.0⟩⟩
  additionalInputs := []
  faceCrop := none
  landmarkMeasurement := none
  faceAlignment := none
  outputs := [⟨asciiName "boxes", [1, 100, 4], .faceDetectionBoxes⟩,
    ⟨asciiName "scores", [1, 100], .faceDetectionScores⟩]

/-- The one license of the example. -/
def apacheOnly (license : List UInt8) : Bool := license == asciiName "Apache-2.0"

/-- The tensors of a detector that finds nothing. -/
def emptyDetections : List OutputTensor :=
  [⟨asciiName "boxes", [1, 100, 4], List.replicate 400 0.0⟩,
    ⟨asciiName "scores", [1, 100], List.replicate 100 0.0⟩]

/-- The detector of the example extracts no face from empty tensors, safely. -/
theorem shapeSafe_exampleDetector :
    exampleDetector.validate apacheOnly = .ok () ∧ Conforms exampleDetector emptyDetections ∧
    ShapeSafe exampleDetector (hexLower (Vector.replicate 32 0).toList) := by
  have valid : exampleDetector.validate apacheOnly = .ok () := by decide +kernel
  refine ⟨valid, ⟨_, .refl _, .cons ?_ (.cons ?_ .nil)⟩, shapeSafe_of_valid valid _⟩
  · exact ⟨rfl, rfl, by decide +kernel, by decide +kernel⟩
  · exact ⟨rfl, rfl, by decide +kernel, by decide +kernel⟩

end Inference

end FaceAuth
