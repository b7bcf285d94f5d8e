import FaceAuth.Daemon.FrameSteps
import FaceAuth.Daemon.Production
import FaceAuth.Inference.Loaded
import FaceAuth.Model.Serialize

/-!
# Admitted configurations and the work on a pair

The models that a configuration loads, and the pairs that its cameras return. The
configuration, the manifests and the calibration are checked one by one; what the
work on a pair needs of them together is `Compatible`.
-/

namespace FaceAuth

open Foundation

open Inference (OnnxSession FrameAccepts AssessesQuality)

/-- The six models of the pipeline. -/
structure LoadedModels where
  detector : OnnxSession
  landmarks : OnnxSession
  embedding : OnnxSession
  passiveInfrared : OnnxSession
  passiveVisible : OnnxSession
  passiveFusion : OnnxSession

namespace LoadedModels

/-- The models with the roles that the pipeline has for them. -/
def inRoles (models : LoadedModels) : List (OnnxSession × ModelRole) :=
  [(models.detector, .faceDetector), (models.landmarks, .faceLandmarks),
    (models.embedding, .faceEmbedding), (models.passiveInfrared, .passiveLivenessInfrared),
    (models.passiveVisible, .passiveLivenessVisible),
    (models.passiveFusion, .passiveLivenessFusion)]

end LoadedModels

/-- Construction failure before cameras are streamed. -/
inductive ProductionObservationPipelineError where
  | invalidPolicy
  | modelRoleMismatch (expected actual : ModelRole)
deriving DecidableEq, Repr

/-- Every session has the role that it is taken for. -/
def requireRoles : List (OnnxSession × ModelRole) →
    Except ProductionObservationPipelineError Unit
  | [] => .ok ()
  | (session, expected) :: rest => do
      require (session.manifest.role = expected)
        (.modelRoleMismatch expected session.manifest.role)
      requireRoles rest

/-- Assemble the owner of the cameras and the models. -/
def ProductionObservationPipeline.new (warmupFrames : CaptureModality → Nat)
    (models : LoadedModels) (pairing : PairingPolicy) (detection : DetectionPolicy)
    (quality : QualityConfig) :
    Except ProductionObservationPipelineError ProductionObservationPipeline := do
  pairing.validate.mapError fun _ => .invalidPolicy
  detection.validate.mapError fun _ => .invalidPolicy
  quality.validate.mapError fun _ => .invalidPolicy
  requireRoles models.inRoles
  return ⟨warmupFrames, pairing, detection, quality⟩

/-- The loaded models are those that the policy was calibrated for. -/
def validateLoadedCalibration (config : ProductionConfig) (models : LoadedModels) :
    Except ProductionConfigError Unit :=
  let calibration := config.calibration
  require
    (models.detector.compatibilitySha256 = calibration.quality.detectorCompatibilitySha256 ∧
      models.landmarks.compatibilitySha256 = calibration.quality.landmarksCompatibilitySha256 ∧
      models.landmarks.compatibilitySha256 =
        calibration.activeLiveness.landmarksCompatibilitySha256 ∧
      models.embedding.compatibilitySha256 =
        calibration.recognition.embeddingCompatibilitySha256 ∧
      models.passiveInfrared.compatibilitySha256 =
        calibration.passivePad.infraredCompatibilitySha256 ∧
      models.passiveVisible.compatibilitySha256 =
        calibration.passivePad.visibleCompatibilitySha256 ∧
      models.passiveFusion.compatibilitySha256 =
        calibration.passivePad.fusionCompatibilitySha256)
    (.invalid "loaded model compatibility identities differ from calibration")

/-- The models were loaded, calibrated and assembled for a configuration. -/
structure LoadedModels.Admitted (models : LoadedModels) (config : ProductionConfig)
    (spdx : List UInt8 → Bool) (sha256 : List UInt8 → Vector UInt8 32)
    (serialize : ModelManifest → Except ModelError (List UInt8)) : Prop where
  loaded : ∀ entry ∈ models.inRoles, entry.1.Loaded spdx sha256 serialize
  assembled : requireRoles models.inRoles = .ok ()
  calibrated : validateLoadedCalibration config models = .ok ()

/-- Sessions that pass the check on roles have them. -/
theorem role_of_requireRoles {entries : List (OnnxSession × ModelRole)}
    (required : requireRoles entries = .ok ()) :
    ∀ entry ∈ entries, entry.1.manifest.role = entry.2 := by
  induction entries with
  | nil => simp
  | cons entry entries ih =>
      rw [requireRoles, check_bind_eq_ok_iff, require_eq_ok_iff] at required
      rw [List.forall_mem_cons]
      exact ⟨required.1, ih required.2⟩

/-! ## The work on a pair -/

/-- The landmarks that the embedding model aligns a face by are those of the landmark model. -/
def Aligned (models : LoadedModels) : Prop :=
  ∃ alignment, models.embedding.manifest.faceAlignment = some alignment ∧
    models.landmarks.Provides alignment

/-- The named input of the fusion reads a frame. -/
def FusionAccepts (session : OnnxSession) (name : List UInt8) (frame : CapturedFrame) : Prop :=
  ∃ contract, session.manifestInput name = .ok contract ∧
    FrameAccepts contract frame fun resize =>
      Inference.preprocessNamedFrame session resize name frame

/-- A run of one image takes every tensor that fits. -/
def RunBinds (session : OnnxSession) : Prop :=
  ∀ tensor : Inference.InputTensor, tensor.Fits session.manifest.input →
    ∃ ordered, session.validateNamedInputs [(session.manifest.input.name, tensor)] = .ok ordered

/-- A run of the fusion takes every two tensors that fit. -/
def FusionBinds (session : OnnxSession) : Prop :=
  ∀ infrared visible : InputContract,
    session.manifestInput ModelManifest.INFRARED = .ok infrared →
    session.manifestInput ModelManifest.VISIBLE = .ok visible →
    ∀ first second : Inference.InputTensor, first.Fits infrared → second.Fits visible →
      ∃ ordered, session.validateNamedInputs
        [(ModelManifest.INFRARED, first), (ModelManifest.VISIBLE, second)] = .ok ordered

/-- No step on a pair fails for a reason that lies in the configuration or the models: what
may still fail is what comes out of the pixels, the models and the clock. -/
structure Workable (config : ProductionConfig) (models : LoadedModels) (pair : PairedFrames) :
    Prop where
  detector : FrameAccepts models.detector.manifest.input pair.visible fun resize =>
    Inference.preprocessFrame models.detector resize pair.visible
  region : ∀ detection, Inference.ProperBox detection →
    (∃ region, models.landmarks.deriveFaceRegion detection = .ok region) ∨
      models.landmarks.deriveFaceRegion detection = .error .faceRegionOutsideImage
  landmarks : ∀ region : Inference.FaceRegion,
    region.compatibilitySha256 = models.landmarks.compatibilitySha256 →
    FrameAccepts models.landmarks.manifest.input pair.visible fun sample =>
      Inference.landmarkInput models.landmarks (fun _ => sample) pair.visible region
  quality : AssessesQuality config.calibration.quality.policy pair.visible
  alignment : Aligned models
  embedding : ∀ imageLandmarks, models.landmarks.Locates imageLandmarks →
    FrameAccepts models.embedding.manifest.input pair.visible fun align =>
      Inference.embeddingInput models.embedding (fun _ => align) pair.visible imageLandmarks
  passiveInfrared : FrameAccepts models.passiveInfrared.manifest.input pair.infrared fun resize =>
    Inference.preprocessFrame models.passiveInfrared resize pair.infrared
  passiveVisible : FrameAccepts models.passiveVisible.manifest.input pair.visible fun resize =>
    Inference.preprocessFrame models.passiveVisible resize pair.visible
  fusionInfrared : FusionAccepts models.passiveFusion ModelManifest.INFRARED pair.infrared
  fusionVisible : FusionAccepts models.passiveFusion ModelManifest.VISIBLE pair.visible
  runs : ∀ session ∈ [models.detector, models.landmarks, models.embedding,
    models.passiveInfrared, models.passiveVisible], RunBinds session
  fusionRuns : FusionBinds models.passiveFusion
  challenge : CapturePolicy.accepts
    ⟨true, true, config.calibration.activeLiveness.challenge.maxPairSkewMicros⟩ pair.timing =
      .ok ()
  capture : config.calibration.recognition.policy.capture.accepts pair.timing = .ok ()

/-- A stream that the fusion reads under a name. -/
def FusionReads (session : OnnxSession) (name : List UInt8) (spec : CaptureSpec) : Prop :=
  ∃ contract, session.manifestInput name = .ok contract ∧ spec.ReadableBy contract

/-- The models and the quality policy can read what the cameras yield. -/
structure FramesReadable (config : ProductionConfig) (models : LoadedModels) : Prop where
  detector : config.cameras.visible.capture.ReadableBy models.detector.manifest.input
  landmarks : config.cameras.visible.capture.ReadableBy models.landmarks.manifest.input
  quality : config.cameras.visible.capture.AssessableUnder config.calibration.quality.policy
  alignment : Aligned models
  embedding : config.cameras.visible.capture.ReadableBy models.embedding.manifest.input
  passiveInfrared :
    config.cameras.infrared.capture.ReadableBy models.passiveInfrared.manifest.input
  passiveVisible : config.cameras.visible.capture.ReadableBy models.passiveVisible.manifest.input
  fusionInfrared :
    FusionReads models.passiveFusion ModelManifest.INFRARED config.cameras.infrared.capture
  fusionVisible :
    FusionReads models.passiveFusion ModelManifest.VISIBLE config.cameras.visible.capture

/-- The cameras, the models and the policies fit together. -/
structure Compatible (config : ProductionConfig) (models : LoadedModels) : Prop extends
    FramesReadable config models where
  challenge : config.cameras.pairing.maxSkewMicros ≤
    config.calibration.activeLiveness.challenge.maxPairSkewMicros
  capture : config.cameras.pairing.maxSkewMicros ≤
    config.calibration.recognition.policy.capture.maxPairSkewMicros

/-! ## What the checks leave known -/

/-- A loaded session of a role. -/
structure KnownAs (session : OnnxSession) (role : ModelRole) : Prop where
  role : session.manifest.role = role
  admitted : session.manifest.Admitted
  digest : ValidDigest session.compatibilitySha256

/-- Every session of admitted models is known for its role. -/
theorem LoadedModels.Admitted.known {models : LoadedModels} {config : ProductionConfig}
    {spdx : List UInt8 → Bool} {sha256 : List UInt8 → Vector UInt8 32}
    {serialize : ModelManifest → Except ModelError (List UInt8)}
    (admitted : models.Admitted config spdx sha256 serialize) :
    ∀ entry ∈ models.inRoles, KnownAs entry.1 entry.2 := by
  intro entry member
  obtain ⟨contract, digest⟩ := (admitted.loaded entry member).spec
  exact ⟨role_of_requireRoles admitted.assembled entry member, contract, digest⟩

/-- A timed pair is accepted when it is close enough. -/
theorem accepts_timing_iff {policy : CapturePolicy} (valid : policy.validate = .ok ())
    (pair : PairedFrames) : policy.accepts pair.timing = .ok () ↔
      absDiff pair.infrared.summary.timestampMicros pair.visible.summary.timestampMicros ≤
        policy.maxPairSkewMicros := by
  rw [CapturePolicy.accepts_eq_ok_iff]
  exact and_iff_right valid

section Steps

variable {session : OnnxSession} {role : ModelRole} {frame : CapturedFrame} {spec : CaptureSpec}
  {modality : CaptureModality}

/-- Only the embedding has an alignment. -/
theorem KnownAs.plain (known : KnownAs session role) (other : role ≠ .faceEmbedding) :
    session.manifest.faceAlignment = none :=
  validateRoleContract_other (known.role ▸ other) known.admitted.alignment

/-- Every run of a single session binds its tensors. -/
theorem KnownAs.runBinds (known : KnownAs session role)
    (single : role ≠ .passiveLivenessFusion) : RunBinds session :=
  fun _ fits => ⟨_, OnnxSession.validateNamedInputs_single known.admitted
    (known.role ▸ single) fits⟩

/-- A frame becomes a tensor exactly when its specification can be read by the contract. -/
theorem KnownAs.preprocess_iff (known : KnownAs session role) (other : role ≠ .faceEmbedding)
    (valid : spec.validate modality = .ok ()) (conforms : frame.Conforms spec modality) :
    (FrameAccepts session.manifest.input frame fun resize =>
        Inference.preprocessFrame session resize frame) ↔
      spec.ReadableBy session.manifest.input :=
  Inference.frameAccepts_iff valid conforms
    (OnnxSession.wellformed_input known.admitted List.mem_cons_self)
    (Inference.preprocessFrame_framed (known.plain other))

/-- A landmark model reads every region of its own, or none. -/
theorem KnownAs.landmarkInput_iff (known : KnownAs session .faceLandmarks)
    (valid : spec.validate modality = .ok ()) (conforms : frame.Conforms spec modality) :
    (∀ region : Inference.FaceRegion, region.compatibilitySha256 = session.compatibilitySha256 →
        FrameAccepts session.manifest.input frame fun sample =>
          Inference.landmarkInput session (fun _ => sample) frame region) ↔
      spec.ReadableBy session.manifest.input := by
  have each : ∀ region : Inference.FaceRegion,
      region.compatibilitySha256 = session.compatibilitySha256 →
      ((FrameAccepts session.manifest.input frame fun sample =>
          Inference.landmarkInput session (fun _ => sample) frame region) ↔
        spec.ReadableBy session.manifest.input) := fun region own =>
    Inference.frameAccepts_iff valid conforms
      (OnnxSession.wellformed_input known.admitted List.mem_cons_self)
      (Inference.landmarkInput_framed known.role own)
  constructor
  · intro accepts
    have own := accepts ⟨session.compatibilitySha256, ⟨0.0, 0.0, 1.0, 1.0⟩⟩ rfl
    exact (each _ rfl).mp own
  · intro readable region own
    exact (each region own).mpr readable

/-- A named input of the fusion reads the frames of a stream that it can read. -/
theorem KnownAs.fusion_iff (known : KnownAs session .passiveLivenessFusion) {name : List UInt8}
    {contract : InputContract} (named : session.manifestInput name = .ok contract)
    (wellformed : Inference.Wellformed contract)
    (valid : spec.validate modality = .ok ()) (conforms : frame.Conforms spec modality) :
    FusionAccepts session name frame ↔ FusionReads session name spec := by
  have step := Inference.frameAccepts_iff valid conforms wellformed
    (Inference.preprocessNamedFrame_framed known.role named)
  unfold FusionAccepts FusionReads
  rw [named]
  simpa using step

/-- Every run of the fusion binds both of its tensors. -/
theorem KnownAs.fusionBinds (known : KnownAs session .passiveLivenessFusion) :
    FusionBinds session := by
  obtain ⟨contract, fuses⟩ := OnnxSession.fuses known.admitted known.role
  intro infrared visible first second tensor tensor' fits fits'
  rw [OnnxSession.manifestInput_infrared fuses] at first
  rw [OnnxSession.manifestInput_visible fuses] at second
  cases first
  cases second
  exact ⟨_, OnnxSession.validateNamedInputs_fusion fuses fits fits'⟩

end Steps

/-! ## Pairs -/

/-- A specification with a conforming frame fits one. -/
theorem CapturedFrame.Conforms.fits {frame : CapturedFrame} {spec : CaptureSpec}
    {modality : CaptureModality} (conforms : frame.Conforms spec modality) : spec.Fits := by
  intro size found
  rw [← conforms.exact size found]
  exact conforms.bounded

/-- What the checks of a configuration leave known of its cameras and policies. -/
structure ProductionConfig.Checked (config : ProductionConfig) : Prop where
  infrared : config.cameras.infrared.capture.validate .infrared = .ok ()
  visible : config.cameras.visible.capture.validate .visible = .ok ()
  pairing : config.cameras.pairing.validate = .ok ()
  quality : config.calibration.quality.policy.validate = .ok ()
  challenge : config.calibration.activeLiveness.challenge.validate = .ok ()
  capture : config.calibration.recognition.policy.capture.validate = .ok ()

/-- A valid configuration has passed the checks that matter for a pair. -/
theorem ProductionConfig.checked {config : ProductionConfig} (valid : config.validate = .ok ()) :
    config.Checked := by
  simp only [ProductionConfig.validate, check_bind_eq_ok_iff, ProductionCameraConfig.validate,
    validateCalibration, RecognitionCalibration.validate, QualityCalibration.validate,
    ActiveLivenessCalibration.validate, AuthPolicy.validate, mapError_eq_ok_iff] at valid
  obtain ⟨-, ⟨-, -, -, infrared, visible, pairing⟩, -, -, -,
    ⟨⟨-, ⟨capture, -⟩, -⟩, ⟨-, -, quality, -⟩, -, ⟨-, challenge, -⟩, -⟩, -⟩ := valid
  exact ⟨infrared, visible, pairing, quality, challenge, capture⟩

section Pairs

variable {config : ProductionConfig} {models : LoadedModels} {pair : PairedFrames}

/-- With the right landmarks, an embedding model reads every face that they locate, or none. -/
theorem embeddingInput_iff (known : KnownAs models.landmarks .faceLandmarks)
    (known' : KnownAs models.embedding .faceEmbedding) (aligned : Aligned models)
    {frame : CapturedFrame} {spec : CaptureSpec} {modality : CaptureModality}
    (valid : spec.validate modality = .ok ()) (conforms : frame.Conforms spec modality) :
    (∀ imageLandmarks, models.landmarks.Locates imageLandmarks →
        FrameAccepts models.embedding.manifest.input frame fun align =>
          Inference.embeddingInput models.embedding (fun _ => align) frame imageLandmarks) ↔
      spec.ReadableBy models.embedding.manifest.input := by
  obtain ⟨alignment, carried, provides⟩ := aligned
  have each : ∀ imageLandmarks, models.landmarks.Locates imageLandmarks →
      ((FrameAccepts models.embedding.manifest.input frame fun align =>
          Inference.embeddingInput models.embedding (fun _ => align) frame imageLandmarks) ↔
        spec.ReadableBy models.embedding.manifest.input) := by
    intro imageLandmarks located
    obtain ⟨identity, counted⟩ := located.spec
    refine Inference.frameAccepts_iff valid conforms
      (OnnxSession.wellformed_input known'.admitted List.mem_cons_self)
      (Inference.embeddingInput_framed carried (identity.trans provides.digest.symm) ?_)
    intro index member
    rw [counted]
    exact provides.indices index member
  constructor
  · intro accepts
    obtain ⟨imageLandmarks, located⟩ :=
      OnnxSession.exists_locates known.admitted known.role known.digest
    exact (each _ located).mp (accepts _ located)
  · intro readable imageLandmarks located
    exact (each _ located).mpr readable

/-- A conforming pair is workable when the cameras can be read and the pair is close enough. -/
theorem workable_iff (checked : config.Checked)
    (known : ∀ entry ∈ models.inRoles, KnownAs entry.1 entry.2)
    (infrared : pair.infrared.Conforms config.cameras.infrared.capture .infrared)
    (visible : pair.visible.Conforms config.cameras.visible.capture .visible) :
    Workable config models pair ↔ FramesReadable config models ∧
      absDiff pair.infrared.summary.timestampMicros pair.visible.summary.timestampMicros ≤
        config.calibration.activeLiveness.challenge.maxPairSkewMicros ∧
      absDiff pair.infrared.summary.timestampMicros pair.visible.summary.timestampMicros ≤
        config.calibration.recognition.policy.capture.maxPairSkewMicros := by
  simp only [LoadedModels.inRoles, List.forall_mem_cons, List.not_mem_nil, false_implies,
    implies_true, and_true] at known
  obtain ⟨detector, landmarks, embedding, passiveInfrared, passiveVisible, fusion⟩ := known
  obtain ⟨contract, fuses⟩ := OnnxSession.fuses fusion.admitted fusion.role
  have detectorReads := detector.preprocess_iff (by decide) checked.visible visible
  have landmarksRead := landmarks.landmarkInput_iff checked.visible visible
  have infraredReads := passiveInfrared.preprocess_iff (by decide) checked.infrared infrared
  have visibleReads := passiveVisible.preprocess_iff (by decide) checked.visible visible
  have fusionInfrared := fusion.fusion_iff (OnnxSession.manifestInput_infrared fuses)
    (OnnxSession.wellformed_input fusion.admitted List.mem_cons_self) checked.infrared infrared
  have fusionVisible := fusion.fusion_iff (OnnxSession.manifestInput_visible fuses)
    (OnnxSession.wellformed_input fusion.admitted (by rw [fuses.only]; simp))
    checked.visible visible
  have assessed := Inference.assessesQuality_iff checked.visible visible checked.quality
  have challenged : CapturePolicy.validate
      ⟨true, true, config.calibration.activeLiveness.challenge.maxPairSkewMicros⟩ = .ok () := by
    have valid := checked.challenge
    rw [ChallengeConfig.validate, require_eq_ok_iff] at valid
    exact CapturePolicy.validate_eq_ok_iff.mpr ⟨rfl, valid.1⟩
  constructor
  · intro workable
    refine ⟨?_, (accepts_timing_iff challenged pair).mp workable.challenge,
      (accepts_timing_iff checked.capture pair).mp workable.capture⟩
    exact {
      detector := detectorReads.mp workable.detector
      landmarks := landmarksRead.mp workable.landmarks
      quality := assessed.mp workable.quality
      alignment := workable.alignment
      embedding := (embeddingInput_iff landmarks embedding workable.alignment checked.visible
        visible).mp workable.embedding
      passiveInfrared := infraredReads.mp workable.passiveInfrared
      passiveVisible := visibleReads.mp workable.passiveVisible
      fusionInfrared := fusionInfrared.mp workable.fusionInfrared
      fusionVisible := fusionVisible.mp workable.fusionVisible }
  · intro suited
    obtain ⟨readable, challenge, capture⟩ := suited
    exact {
      detector := detectorReads.mpr readable.detector
      region := fun _ proper =>
        OnnxSession.deriveFaceRegion_total landmarks.admitted landmarks.role proper
      landmarks := landmarksRead.mpr readable.landmarks
      quality := assessed.mpr readable.quality
      alignment := readable.alignment
      embedding := (embeddingInput_iff landmarks embedding readable.alignment checked.visible
        visible).mpr readable.embedding
      passiveInfrared := infraredReads.mpr readable.passiveInfrared
      passiveVisible := visibleReads.mpr readable.passiveVisible
      fusionInfrared := fusionInfrared.mpr readable.fusionInfrared
      fusionVisible := fusionVisible.mpr readable.fusionVisible
      runs := by
        simp only [List.forall_mem_cons, List.not_mem_nil, false_implies, implies_true, and_true]
        exact ⟨detector.runBinds (by decide), landmarks.runBinds (by decide),
          embedding.runBinds (by decide), passiveInfrared.runBinds (by decide),
          passiveVisible.runBinds (by decide)⟩
      fusionRuns := fusion.fusionBinds
      challenge := (accepts_timing_iff challenged pair).mpr challenge
      capture := (accepts_timing_iff checked.capture pair).mpr capture }

variable {spdx : List UInt8 → Bool} {sha256 : List UInt8 → Vector UInt8 32}
  {serialize : ModelManifest → Except ModelError (List UInt8)}

/-- Every pair that the cameras of an admitted configuration return is workable exactly when
the cameras, the models and the policies fit together, or no frame of the exact size is
within the limit of its stream. -/
theorem returnedPairs_workable_iff (valid : config.validate = .ok ())
    (admitted : models.Admitted config spdx sha256 serialize) :
    (∀ pair : PairedFrames,
        pair.infrared.Conforms config.cameras.infrared.capture .infrared →
        pair.visible.Conforms config.cameras.visible.capture .visible →
        pair.ReturnedUnder config.cameras.pairing → Workable config models pair) ↔
      (config.cameras.infrared.capture.Fits → config.cameras.visible.capture.Fits →
        Compatible config models) := by
  have checked := ProductionConfig.checked valid
  have known := admitted.known
  constructor
  · intro workable infraredFits visibleFits
    have infrared := CaptureSpec.blank_conforms checked.infrared infraredFits 0
    have visible := CaptureSpec.blank_conforms checked.visible visibleFits
      config.cameras.pairing.maxSkewMicros
    have skew : absDiff 0 config.cameras.pairing.maxSkewMicros =
        config.cameras.pairing.maxSkewMicros := by
      simp [absDiff]
    have returned : PairedFrames.ReturnedUnder ⟨_, _⟩ config.cameras.pairing :=
      PairedFrames.returnedUnder_of_close checked.pairing infrared.modality visible.modality
        (le_of_eq skew)
    obtain ⟨readable, challenge, capture⟩ := (workable_iff checked known infrared visible).mp
      (workable _ infrared visible returned)
    exact ⟨readable, skew.symm.trans_le challenge, skew.symm.trans_le capture⟩
  · intro compatible pair infrared visible returned
    have fitting := compatible infrared.fits visible.fits
    exact (workable_iff checked known infrared visible).mpr
      ⟨fitting.toFramesReadable, returned.skew.trans fitting.challenge,
        returned.skew.trans fitting.capture⟩

end Pairs

/-! ## A compressed camera -/

section Compressed

variable {Value : Type} {environment : ObservationEnvironment Value}

/-- No model reads the frames of a compressed camera. -/
theorem processPair_compressed {pair : PairedFrames}
    (compressed : pair.visible.summary.format.pixelFormat = .mjpeg)
    (history : ObservationHistory) :
    ∃ failure, (environment.processPair pair history).result = .error (.fatal failure) := by
  have unread : inferenceFrameView pair.visible = .error .sourceImageInvalid := by
    rw [inferenceFrameView, compressed]
  obtain ⟨failure, failed⟩ : ∃ failure, (environment.orFatal
      (environment.preprocessFrame (.preprocess .faceDetector) pair.visible) history).result =
        .error (.fatal failure) := by
    unfold ObservationEnvironment.preprocessFrame
    rw [unread]
    exact ⟨_, rfl⟩
  refine ⟨failure, ?_⟩
  unfold ObservationEnvironment.processPair
  rw [Stepwise.bind_of_error failed]

/-- A compressed visible camera. -/
def Compressed (environment : ObservationEnvironment Value) : Prop :=
  ∀ history frame, environment.frame .visible history = .ok frame →
    frame.summary.format.pixelFormat = .mjpeg

/-- Pairs of a compressed camera are compressed. -/
theorem capturePair_compressed (compressed : Compressed environment) {policy : PairingPolicy}
    {history : ObservationHistory} {pair : PairedFrames}
    (captured : (capturePairCancellable environment.sources policy history).result = .ok pair) :
    pair.visible.summary.format.pixelFormat = .mjpeg := by
  have sourced : ∀ camera history frame,
      (environment.sources.nextFrame camera history).1 = .ok frame →
        camera = .visible → frame.summary.format.pixelFormat = .mjpeg := by
    rintro camera history frame read rfl
    exact compressed history frame read
  exact (capturePair_yields sourced captured).2.2 rfl

/-- Every round of a compressed camera fails. -/
theorem nextPair_compressed (compressed : Compressed environment) {pairing : PairingPolicy}
    {config : ChallengeConfig} {locals : ObservationEnvironment.Locals}
    {history : ObservationHistory} :
    ∃ failure, (environment.nextPair pairing config locals history).result = .error failure := by
  cases stepped : (environment.nextPair pairing config locals history).result with
  | error failure => exact ⟨failure, rfl⟩
  | ok outcome =>
      exfalso
      unfold ObservationEnvironment.nextPair at stepped
      obtain ⟨-, -, stepped⟩ := Stepwise.result_bind_eq_ok stepped
      obtain ⟨pair, captured, stepped⟩ := Stepwise.result_bind_eq_ok stepped
      have unreadable := capturePair_compressed compressed
        (Stepwise.ok_of_rescue (by rintro error state answer ⟨⟩) captured)
      obtain ⟨-, -, stepped⟩ := Stepwise.result_bind_eq_ok stepped
      dsimp only at stepped
      split at stepped
      · cases stepped
      · obtain ⟨-, -, stepped⟩ := Stepwise.result_bind_eq_ok stepped
        obtain ⟨processed, tried, stepped⟩ := Stepwise.result_bind_eq_ok stepped
        have same : (environment.processPair pair _).result = processed := Except.ok.inj tried
        obtain ⟨failure, failed⟩ := @processPair_compressed _ environment _ unreadable _
        rw [failed] at same
        cases same
        obtain ⟨-, -, stepped⟩ := Stepwise.result_bind_eq_ok stepped
        cases stepped

/-- A session of a compressed visible camera observes nothing, and fails. -/
theorem runSession_compressed (compressed : Compressed environment)
    (pipeline : ProductionObservationPipeline) (config : ChallengeConfig)
    (history : ObservationHistory) :
    ∃ failure, (pipeline.runSession environment config history).result = .error failure := by
  cases ran : (pipeline.runSession environment config history).result with
  | error failure => exact ⟨failure, rfl⟩
  | ok value =>
      exfalso
      unfold ProductionObservationPipeline.runSession at ran
      obtain ⟨-, -, ran⟩ := Stepwise.result_bind_eq_ok ran
      obtain ⟨-, -, ran⟩ := Stepwise.result_bind_eq_ok ran
      obtain ⟨-, -, ran⟩ := Stepwise.result_bind_eq_ok ran
      obtain ⟨-, -, ran⟩ := Stepwise.result_bind_eq_ok ran
      obtain ⟨-, -, ran⟩ := Stepwise.result_bind_eq_ok ran
      obtain ⟨-, -, ran⟩ := Stepwise.result_bind_eq_ok ran
      obtain ⟨-, -, ran⟩ := Stepwise.result_bind_eq_ok ran
      obtain ⟨-, -, ran⟩ := Stepwise.result_bind_eq_ok ran
      cases rounds : config.maxObservations * 2 + MAX_DERIVED_OBSERVATION_ATTEMPTS with
      | zero =>
          have positive : 0 < MAX_DERIVED_OBSERVATION_ATTEMPTS := by decide
          omega
      | succ remaining =>
          rw [rounds] at ran
          unfold ObservationEnvironment.runPairs at ran
          obtain ⟨outcome, stepped, -⟩ := Stepwise.result_bind_eq_ok ran
          obtain ⟨failure, failed⟩ := nextPair_compressed compressed
          rw [failed] at stepped
          cases stepped

end Compressed

/-! ## An installation -/

section Example

/-- The hashes of the manifests in the example. -/
def exampleHash : ModelRole → List UInt8
  | .faceDetector =>
      [0x55, 0x9c, 0x17, 0x9a, 0x0c, 0x33, 0x6b, 0xeb, 0x1b, 0x78, 0xff, 0x78, 0xfa, 0xd4,
        0x29, 0xa7, 0xae, 0x9c, 0xd7, 0x7a, 0xb8, 0x2b, 0x4d, 0xc3, 0x32, 0x53, 0x42, 0x6a,
        0x06, 0xf7, 0x40, 0xae]
  | .faceLandmarks =>
      [0x44, 0xa0, 0x1d, 0x1b, 0x0c, 0xde, 0xe2, 0xfa, 0x83, 0x9c, 0x03, 0xdc, 0xa5, 0xec,
        0x66, 0x82, 0x83, 0x8d, 0x48, 0x6e, 0x1a, 0x43, 0x3f, 0x41, 0xdf, 0x0d, 0x07, 0xbb,
        0x5e, 0xdc, 0x78, 0x57]
  | .faceEmbedding =>
      [0xdb, 0x76, 0xa9, 0x5e, 0xf6, 0x72, 0x59, 0x7c, 0x01, 0x6c, 0xdf, 0x90, 0x89, 0x46,
        0x9c, 0xdd, 0x8c, 0xc6, 0x1d, 0xaf, 0xa3, 0x87, 0x60, 0x29, 0x65, 0x32, 0x43, 0xd7,
        0xb0, 0x08, 0x63, 0xb9]
  | .passiveLivenessInfrared =>
      [0x1c, 0xd4, 0xcc, 0xba, 0x80, 0xd3, 0x38, 0x1d, 0x66, 0x8c, 0x6f, 0x42, 0x73, 0xa2,
        0x5a, 0x10, 0x5b, 0x53, 0x7a, 0x53, 0x4c, 0x78, 0x26, 0xe4, 0xcb, 0x42, 0xe3, 0x3c,
        0x0a, 0xbf, 0x55, 0x30]
  | .passiveLivenessVisible =>
      [0x75, 0xde, 0xc8, 0x69, 0x8d, 0xd3, 0x51, 0x36, 0xb4, 0xdc, 0x42, 0x20, 0xd6, 0x1d,
        0x33, 0xf6, 0xab, 0x83, 0xab, 0xf0, 0x37, 0xac, 0x7a, 0xc5, 0x59, 0xf1, 0x37, 0x9f,
        0x30, 0x20, 0xac, 0x41]
  | .passiveLivenessFusion =>
      [0x37, 0xeb, 0x7b, 0x58, 0x60, 0xea, 0xe1, 0x0d, 0xb8, 0xa9, 0x27, 0xb5, 0x50, 0xce,
        0x25, 0x34, 0x1a, 0x44, 0x8b, 0xd4, 0x20, 0x74, 0x69, 0xcc, 0xaf, 0x0d, 0xe6, 0x3f,
        0xb0, 0x56, 0xbc, 0x40]

/-- A manifest of the example, with one artifact for all of them. -/
def exampleManifest (name : String) (role : ModelRole) (input : InputContract)
    (outputs : List OutputContract) : ModelManifest where
  schemaVersion := MODEL_MANIFEST_SCHEMA_VERSION
  name := ascii name
  version := ascii "1.0.0"
  role := role
  sourceUrl := ascii "https://example.invalid/models/" ++ ascii name ++ ascii ".onnx"
  licenseSpdx := ascii "Apache-2.0"
  sha256 := List.replicate 64 97
  input := input
  additionalInputs := []
  faceCrop := none
  landmarkMeasurement := none
  faceAlignment := none
  outputs := outputs

/-- A tensor of the example. -/
def exampleInput (name : String) (width height : Nat) (space : ColorSpace) : InputContract where
  name := ascii name
  width := width
  height := height
  channels := space.channels
  layout := .nchw
  colorSpace := space
  normalization := ⟨List.replicate space.channels 1.0, List.replicate space.channels 0.0⟩

/-- The output of a passive model. -/
def exampleLive : List OutputContract := [⟨ascii "live", [1, 1], .liveProbability⟩]

/-- The alignment of the example. -/
def exampleAlignment : FaceAlignmentContract where
  landmarksCompatibilitySha256 := hexLower (exampleHash .faceLandmarks)
  landmarkIndices := ⟨#[0, 1, 2, 3, 4], rfl⟩
  referencePoints := ⟨#[⟨0.25, 0.25⟩, ⟨0.75, 0.25⟩, ⟨0.5, 0.5⟩, ⟨0.25, 0.75⟩, ⟨0.75, 0.75⟩], rfl⟩
  maximumNormalizedResidual := 0.125

/-- Six models, one for each role. -/
def exampleModels : LoadedModels where
  detector :=
    { manifest := exampleManifest "detector" .faceDetector (exampleInput "input" 640 360 .rgb)
        [⟨ascii "boxes", [1, 100, 4], .faceDetectionBoxes⟩,
          ⟨ascii "scores", [1, 100], .faceDetectionScores⟩]
      compatibilitySha256 := hexLower (exampleHash .faceDetector) }
  landmarks :=
    { manifest :=
        { exampleManifest "landmarks" .faceLandmarks (exampleInput "input" 192 192 .rgb)
            [⟨ascii "points", [1, 5, 2], .faceLandmarks⟩,
              ⟨ascii "confidence", [1, 5], .faceLandmarkConfidence⟩,
              ⟨ascii "pose", [1, 3], .facePoseDegrees⟩,
              ⟨ascii "eyes", [1, 2], .eyeOpenness⟩] with
          faceCrop := some ⟨1.5, 0.0, 0.0⟩
          landmarkMeasurement := some ⟨0.5, 60.0, 45.0, 45.0⟩ }
      compatibilitySha256 := hexLower (exampleHash .faceLandmarks) }
  embedding :=
    { manifest :=
        { exampleManifest "embedding" .faceEmbedding (exampleInput "input" 112 112 .bgr)
            [⟨ascii "embedding", [1, 512], .embedding⟩] with
          faceAlignment := some exampleAlignment }
      compatibilitySha256 := hexLower (exampleHash .faceEmbedding) }
  passiveInfrared :=
    { manifest := exampleManifest "passive-infrared" .passiveLivenessInfrared
        (exampleInput "input" 128 128 .grayscale) exampleLive
      compatibilitySha256 := hexLower (exampleHash .passiveLivenessInfrared) }
  passiveVisible :=
    { manifest := exampleManifest "passive-visible" .passiveLivenessVisible
        (exampleInput "input" 128 128 .rgb) exampleLive
      compatibilitySha256 := hexLower (exampleHash .passiveLivenessVisible) }
  passiveFusion :=
    { manifest :=
        { exampleManifest "passive-fusion" .passiveLivenessFusion
            (exampleInput "infrared" 128 128 .grayscale) exampleLive with
          additionalInputs := [exampleInput "visible" 128 128 .rgb] }
      compatibilitySha256 := hexLower (exampleHash .passiveLivenessFusion) }

/-- The text of the numbers in the example. -/
def exampleSingle (value : Float32) : List UInt8 :=
  match [((0.0 : Float32), "0.0"), (1.0, "1.0"), (1.5, "1.5"), (0.5, "0.5"), (60.0, "60.0"),
      (45.0, "45.0"), (0.25, "0.25"), (0.75, "0.75"), (0.125, "0.125")].find? fun entry =>
        entry.1 == value with
  | some entry => ascii entry.2
  | none => []

/-- The texts of the manifests in the example. -/
def exampleSerialize (manifest : ModelManifest) : Except ModelError (List UInt8) :=
  .ok (manifest.text exampleSingle)

/-- The hashes of the texts in the example, which differ in their lengths. -/
def exampleSha256 (bytes : List UInt8) : Vector UInt8 32 :=
  let role : ModelRole :=
    match bytes.length with
    | 798 => .faceDetector
    | 1170 => .faceLandmarks
    | 976 => .faceEmbedding
    | 708 => .passiveLivenessInfrared
    | 715 => .passiveLivenessVisible
    | _ => .passiveLivenessFusion
  Vector.ofFn fun index => (exampleHash role).getD index.val 0

/-- The one license of the example. -/
def exampleSpdx (license : List UInt8) : Bool := license == ascii "Apache-2.0"

/-- The models of the example are loaded ones. -/
theorem exampleModels_loaded :
    ∀ entry ∈ exampleModels.inRoles, entry.1.Loaded exampleSpdx exampleSha256 exampleSerialize := by
  simp only [LoadedModels.inRoles, List.forall_mem_cons, List.not_mem_nil, false_implies,
    implies_true, and_true]
  unfold OnnxSession.Loaded
  refine ⟨?_, ?_, ?_, ?_, ?_, ?_⟩
  all_goals decide +kernel

/-- A review of the example. -/
def exampleEvidence (name : String) : ReviewedEvidence where
  path := ascii "/var/lib/faceauth/reviews/" ++ ascii name
  sha256 := List.replicate 64 97

/-- A camera of the example. -/
def exampleSelector (productId physicalPath : String) : CameraSelector where
  vendorId := ascii "04f2"
  productId := ascii productId
  serial := none
  physicalPath := some (ascii physicalPath)

/-- What a camera of the example delivers. -/
def exampleCapture (format : PixelFormat) (maxFrameBytes : Nat) : CaptureSpec where
  width := 640
  height := 480
  pixelFormat := format
  framesPerSecond := 30
  bufferCount := 4
  warmupFrames := 3
  frameTimeoutMillis := 250
  maxFrameBytes := maxFrameBytes

/-- Where the model of a role is installed. -/
def exampleInstallation (role : ModelRole) : ModelInstallation where
  role := role
  manifestPath := ascii "/usr/share/faceauth/models/" ++ role.text ++ ascii ".json"
  artifactPath := ascii "/usr/share/faceauth/models/" ++ role.text ++ ascii ".onnx"
  reviewEvidence := exampleEvidence "model.json"

/-- A rule for root alone. -/
def exampleRule (service : ServiceName) (purpose : AuthenticationPurpose) :
    AuthorizationRule where
  service := service
  purpose := purpose
  caller := .rootOnly
  executables := [⟨1, 2⟩]

/-- Policies that were calibrated for the models of the example. -/
def exampleCalibration : CalibrationConfig where
  recognition :=
    { embeddingCompatibilitySha256 := hexLower (exampleHash .faceEmbedding)
      policy := ⟨⟨true, true, 100_000⟩, .passiveAndActive, 0.7, 0.7, true⟩
      evidence := exampleEvidence "recognition.json" }
  quality :=
    { detectorCompatibilitySha256 := hexLower (exampleHash .faceDetector)
      landmarksCompatibilitySha256 := hexLower (exampleHash .faceLandmarks)
      minimumDetectionConfidence := 0.8
      maximumDetectionIou := 0.4
      maximumDetectedFaces := 4
      policy := .engineeringBaseline
      evidence := exampleEvidence "quality.json" }
  passivePad :=
    { infraredCompatibilitySha256 := hexLower (exampleHash .passiveLivenessInfrared)
      minimumInfraredProbability := 0.8
      visibleCompatibilitySha256 := hexLower (exampleHash .passiveLivenessVisible)
      minimumVisibleProbability := 0.8
      fusionCompatibilitySha256 := hexLower (exampleHash .passiveLivenessFusion)
      minimumFusionProbability := 0.8
      evidence := exampleEvidence "pad.json" }
  activeLiveness :=
    { landmarksCompatibilitySha256 := hexLower (exampleHash .faceLandmarks)
      challenge := ⟨100_000, 10_000_000, 60, 0.7, 0.3, 8.0, 20.0, 3, 100_000, 3⟩
      evidence := exampleEvidence "active.json" }
  enrollment :=
    { policy := ⟨30_000_000, 5, 8, 0.7, 0.75, 250_000, 15.0⟩
      evidence := exampleEvidence "enrollment.json" }

/-- A configuration with a visible camera of an encoding. -/
def exampleConfig (format : PixelFormat) : ProductionConfig where
  schemaVersion := PRODUCTION_CONFIG_SCHEMA_VERSION
  cameras :=
    { infrared := ⟨exampleSelector "b769" "pci-ir", exampleCapture .gray8 (640 * 480)⟩
      visible := ⟨exampleSelector "b768" "pci-rgb", exampleCapture format (640 * 480 * 2)⟩
      pairing := ⟨100_000, 4⟩ }
  runtime := ⟨ascii "/usr/lib/libonnxruntime.so", 2, 1, 512 * 1024 * 1024, 1_000⟩
  models := REQUIRED_MODEL_ROLES.map exampleInstallation
  calibration := exampleCalibration
  storage :=
    { templateDirectory := ascii "/var/lib/faceauth/templates"
      key := .tpm (ascii "/var/lib/faceauth/machine-key.tpm")
      recoveryEvidence := exampleEvidence "storage-recovery.json" }
  authorization :=
    { rules := [exampleRule ServiceName.test .screenUnlock, exampleRule ServiceName.test .login,
        exampleRule ServiceName.enrollment .polkit]
      reviewEvidence := exampleEvidence "authorization.json" }
  management := ⟨true, 120_000_000, exampleEvidence "management-policy.json"⟩
  supervision := ⟨25, 5_000, 4⟩
  authenticationBoundary :=
    { socketPath := ascii "/run/faceauth/auth.sock"
      socketMode := 432
      maxMessageBytes := 16 * 1024
      ioTimeoutMillis := 2_000
      transactionDurationMicros := 15_000_000
      passwordFallbackMandatory := true
      recoveryTestEvidence := exampleEvidence "password-recovery.json" }

/-- The configuration is valid whatever the visible camera delivers in colour. -/
theorem exampleConfig_valid {format : PixelFormat} (visible : format ≠ .gray8) :
    (exampleConfig format).validate = .ok () := by
  cases format with
  | gray8 => exact absurd rfl visible
  | yuyv => decide +kernel
  | mjpeg => decide +kernel

/-- The models of the example are admitted by its configuration. -/
theorem exampleModels_admitted (format : PixelFormat) :
    exampleModels.Admitted (exampleConfig format) exampleSpdx exampleSha256 exampleSerialize where
  loaded := exampleModels_loaded
  assembled := rfl
  calibrated := rfl

/-- The uncompressed configuration is compatible with its models. -/
theorem exampleConfig_compatible : Compatible (exampleConfig .yuyv) exampleModels where
  detector := ⟨rfl, by decide, by decide, by decide⟩
  landmarks := ⟨rfl, by decide, by decide, by decide⟩
  quality := ⟨rfl, by decide, by decide, by decide, by decide, by decide⟩
  alignment := ⟨exampleAlignment, rfl, rfl, by decide +kernel⟩
  embedding := ⟨rfl, by decide, by decide, by decide⟩
  passiveInfrared := ⟨trivial, by decide, by decide, by decide⟩
  passiveVisible := ⟨rfl, by decide, by decide, by decide⟩
  fusionInfrared := ⟨exampleInput "infrared" 128 128 .grayscale, by decide +kernel,
    trivial, by decide, by decide, by decide⟩
  fusionVisible := ⟨exampleInput "visible" 128 128 .rgb, by decide +kernel,
    rfl, by decide, by decide, by decide⟩
  challenge := Nat.le_refl _
  capture := Nat.le_refl _

/-- Pairs of uncompressed cameras can be worked on. -/
theorem returnedPairs_workable_yuyv :
    ((∀ pair : PairedFrames,
        pair.infrared.Conforms (exampleConfig .yuyv).cameras.infrared.capture .infrared →
        pair.visible.Conforms (exampleConfig .yuyv).cameras.visible.capture .visible →
        pair.ReturnedUnder (exampleConfig .yuyv).cameras.pairing →
        Workable (exampleConfig .yuyv) exampleModels pair) ↔
      ((exampleConfig .yuyv).cameras.infrared.capture.Fits →
        (exampleConfig .yuyv).cameras.visible.capture.Fits →
        Compatible (exampleConfig .yuyv) exampleModels)) ∧
    Compatible (exampleConfig .yuyv) exampleModels :=
  ⟨returnedPairs_workable_iff (exampleConfig_valid (by decide)) (exampleModels_admitted _),
    exampleConfig_compatible⟩

/-- A pair of a compressed camera. -/
def compressedPair : PairedFrames where
  infrared := (exampleCapture .gray8 (640 * 480)).blank .infrared 0
  visible := (exampleCapture .mjpeg (640 * 480 * 2)).blank .visible 0

/-- A compressed camera is admitted, and none of its pairs can be used. -/
theorem compressedPair_unworkable :
    (exampleConfig .mjpeg).validate = .ok () ∧
      exampleModels.Admitted (exampleConfig .mjpeg) exampleSpdx exampleSha256 exampleSerialize ∧
      compressedPair.infrared.Conforms (exampleConfig .mjpeg).cameras.infrared.capture .infrared ∧
      compressedPair.visible.Conforms (exampleConfig .mjpeg).cameras.visible.capture .visible ∧
      compressedPair.ReturnedUnder (exampleConfig .mjpeg).cameras.pairing ∧
      ¬ Workable (exampleConfig .mjpeg) exampleModels compressedPair := by
  have valid : (exampleConfig .mjpeg).validate = .ok () := exampleConfig_valid (by decide)
  have checked := ProductionConfig.checked valid
  have admitted := exampleModels_admitted .mjpeg
  have infrared := CaptureSpec.blank_conforms checked.infrared
    (by rintro size ⟨⟩; exact Nat.le_refl _) 0
  have visible := CaptureSpec.blank_conforms checked.visible (by rintro size ⟨⟩) 0
  refine ⟨valid, admitted, infrared, visible, ?_, ?_⟩
  · exact PairedFrames.returnedUnder_of_close checked.pairing rfl rfl (Nat.zero_le _)
  · intro workable
    have readable := ((workable_iff checked admitted.known infrared visible).mp workable).1
    exact readable.detector.uncompressed

end Example

end FaceAuth
