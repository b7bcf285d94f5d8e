import FaceAuth.Daemon.Evidence
import FaceAuth.Daemon.Workability
import FaceAuth.Inference.Installation

/-!
# Assembling the engines

The daemon verifies the models that its configuration names and their reviews, compares them
with the calibration, and loads them. Whatever was verified is read again when it is loaded.
-/

namespace FaceAuth

open Foundation TrustedPath Installation

/-- Maximum accepted manifest size. -/
def MAX_MANIFEST_BYTES : Nat := 1024 * 1024

/-- Maximum accepted size of one review. -/
def MAX_REVIEW_EVIDENCE_BYTES : Nat := 16 * 1024 * 1024

/-- Why the engines cannot be assembled. -/
inductive AssemblyError where
  | config (error : ProductionConfigError)
  | unsafePath (path : List String)
  | invalidFileLength (path : List String) (actual maximum : Nat)
  | io (error : IoError)
  | json
  | manifest (error : ModelError)
  | installation (error : InstallationError)
  | evidenceDigestMismatch (path : UnixPath)
  | roleMismatch (manifest configured : ModelRole)
  | uncalibrated
  | cameras (message : String)
  | missingIdentity (role : ModelRole)
  | missingSession (role : ModelRole)
  | pipeline (error : ProductionObservationPipelineError)
  | authenticationEngine
  | enrollmentEngine
deriving DecidableEq

/-- The sessions of the six roles. -/
structure ProductionSessions where
  detector : LoadedSession
  landmarks : LoadedSession
  embedding : LoadedSession
  passiveInfrared : LoadedSession
  passiveVisible : LoadedSession
  passiveFusion : LoadedSession

/-- The models behind the sessions. -/
def ProductionSessions.models (sessions : ProductionSessions) : LoadedModels where
  detector := sessions.detector.session
  landmarks := sessions.landmarks.session
  embedding := sessions.embedding.session
  passiveInfrared := sessions.passiveInfrared.session
  passiveVisible := sessions.passiveVisible.session
  passiveFusion := sessions.passiveFusion.session

/-- The sessions with the roles that they are taken for. -/
def ProductionSessions.inRoles (sessions : ProductionSessions) : List (ModelRole × LoadedSession) :=
  [(.faceDetector, sessions.detector), (.faceLandmarks, sessions.landmarks),
    (.faceEmbedding, sessions.embedding), (.passiveLivenessInfrared, sessions.passiveInfrared),
    (.passiveLivenessVisible, sessions.passiveVisible),
    (.passiveLivenessFusion, sessions.passiveFusion)]

/-- One pipeline that both engines share. -/
structure ProductionBiometricEngines where
  pipeline : ProductionObservationPipeline
  sessions : ProductionSessions

namespace Assembly

section Inspection

variable {Inode : Type} [DecidableEq Inode] {owner : UInt32}
  (others : Others Inode String IoError owner) (kernel : Kernel) (libraries : Libraries)

/-- Resolve a path to a file of bounded length that only the owner may change, under ancestors that
only he may change. -/
def trustedRegularFile (path : UnixPath) (maximum : Nat) :
    FileComputation Inode AssemblyError (List String) := do
  let canonical ← (canonicalize others kernel path).relabel .io
  let (metadata, length) ← (fsMetadata others canonical).relabel .io
  Stepwise.ofExcept (require (TrustedFile owner metadata) (.unsafePath canonical))
  Stepwise.ofExcept (require (¬ (length = 0 ∨ maximum < length))
    (.invalidFileLength canonical length maximum))
  verifyAncestors others .io (fun ancestor _ => .unsafePath ancestor) canonical
  pure canonical

/-- A review has the digest that the configuration states. -/
def checkEvidence (evidence : ReviewedEvidence) (content : List UInt8) :
    Except AssemblyError Unit :=
  require (hexLower (libraries.sha256 content).toList = evidence.sha256)
    (.evidenceDigestMismatch evidence.path)

/-- Read a review and compare its digest. -/
def verifyReviewedEvidence (evidence : ReviewedEvidence) :
    FileComputation Inode AssemblyError Unit := do
  let path ← trustedRegularFile others kernel evidence.path MAX_REVIEW_EVIDENCE_BYTES
  let content ← (readFile others kernel path).relabel .io
  Stepwise.ofExcept (checkEvidence libraries evidence content)

/-- Read a manifest from a trusted file. -/
def readManifest (path : UnixPath) : FileComputation Inode AssemblyError ModelManifest := do
  let manifestPath ← trustedRegularFile others kernel path MAX_MANIFEST_BYTES
  let bytes ← (readFile others kernel manifestPath).relabel .io
  Stepwise.ofExcept ((libraries.parse bytes).elim (.error .json) .ok)

/-- Verify the review, the manifest and the file of one model, and compute its identity. -/
def inspectModel (runtime : RuntimePolicyConfig) (model : ModelInstallation) :
    FileComputation Inode AssemblyError (ModelRole × List UInt8) := do
  verifyReviewedEvidence others kernel libraries model.reviewEvidence
  let manifest ← readManifest others kernel libraries model.manifestPath
  Stepwise.ofExcept ((manifest.validate libraries.spdx).mapError .manifest)
  Stepwise.ofExcept (require (manifest.role = model.role) (.roleMismatch manifest.role model.role))
  (verifyModelInstallation others kernel libraries runtime manifest
    model.artifactPath).relabel .installation
  let compatibility ← Stepwise.ofExcept ((manifest.compatibilitySha256 libraries.spdx
    libraries.sha256 libraries.serialize).mapError .manifest)
  pure (model.role, compatibility)

/-- Inspect the models one after the other. -/
def inspectModels (runtime : RuntimePolicyConfig) :
    List ModelInstallation → FileComputation Inode AssemblyError (List (ModelRole × List UInt8))
  | [] => pure []
  | model :: models => do
      let identity ← inspectModel others kernel libraries runtime model
      let identities ← inspectModels runtime models
      pure (identity :: identities)

/-- The identity that was found for a role. -/
def expected (identities : List (ModelRole × List UInt8)) (role : ModelRole) :
    Except AssemblyError (List UInt8) :=
  match identities.find? fun entry => entry.1 = role with
  | some (_, digest) => .ok digest
  | none => .error (.missingIdentity role)

/-- The role has the identity that a policy was calibrated for. -/
def requireIdentity (identities : List (ModelRole × List UInt8)) (role : ModelRole)
    (calibrated : List UInt8) : Except AssemblyError Unit := do
  let digest ← expected identities role
  require (digest = calibrated) .uncalibrated

/-- Every policy was calibrated for the models that are installed. -/
def compareCalibration (calibration : CalibrationConfig)
    (identities : List (ModelRole × List UInt8)) : Except AssemblyError Unit := do
  requireIdentity identities .faceEmbedding calibration.recognition.embeddingCompatibilitySha256
  requireIdentity identities .faceDetector calibration.quality.detectorCompatibilitySha256
  requireIdentity identities .faceLandmarks calibration.quality.landmarksCompatibilitySha256
  requireIdentity identities .faceLandmarks
    calibration.activeLiveness.landmarksCompatibilitySha256
  requireIdentity identities .passiveLivenessInfrared
    calibration.passivePad.infraredCompatibilitySha256
  requireIdentity identities .passiveLivenessVisible
    calibration.passivePad.visibleCompatibilitySha256
  requireIdentity identities .passiveLivenessFusion
    calibration.passivePad.fusionCompatibilitySha256

/-- Verify several reviews in their order. -/
def verifyEvidences : List ReviewedEvidence → FileComputation Inode AssemblyError Unit
  | [] => pure ()
  | evidence :: rest => do
      verifyReviewedEvidence others kernel libraries evidence
      verifyEvidences rest

/-- Compare the calibration with the models, then verify the reviews behind it. -/
def inspectCalibration (calibration : CalibrationConfig)
    (identities : List (ModelRole × List UInt8)) : FileComputation Inode AssemblyError Unit := do
  Stepwise.ofExcept (compareCalibration calibration identities)
  verifyEvidences others kernel libraries [calibration.recognition.evidence,
    calibration.quality.evidence, calibration.passivePad.evidence,
    calibration.activeLiveness.evidence, calibration.enrollment.evidence]

/-- Load the configured models one after the other, with what is known of the runtime. -/
def loadSessions (config : RuntimePolicyConfig) :
    RuntimeLibrary → List ModelInstallation →
      FileComputation Inode AssemblyError (List (ModelRole × LoadedSession) × RuntimeLibrary)
  | runtime, [] => pure ([], runtime)
  | runtime, installation :: rest => do
      let manifest ← readManifest others kernel libraries installation.manifestPath
      Stepwise.ofExcept (require (manifest.role = installation.role)
        (.config (.invalid "configured model role differs from its manifest role")))
      let (session, runtime) ← (Installation.load others kernel libraries config manifest
        installation.artifactPath runtime).relabel .installation
      let (sessions, runtime) ← loadSessions config runtime rest
      pure ((installation.role, session) :: sessions, runtime)

end Inspection

/-- Take the session of a role out of those that were loaded. -/
def takeSession (sessions : List (ModelRole × LoadedSession)) (role : ModelRole) :
    Except AssemblyError (LoadedSession × List (ModelRole × LoadedSession)) :=
  match takeFirst (fun entry => entry.1 = role) sessions with
  | some ((_, session), rest) => .ok (session, rest)
  | none => .error (.missingSession role)

/-- Take out one session for each role. -/
def takeSessions (sessions : List (ModelRole × LoadedSession)) :
    Except AssemblyError ProductionSessions := do
  let (detector, sessions) ← takeSession sessions .faceDetector
  let (landmarks, sessions) ← takeSession sessions .faceLandmarks
  let (embedding, sessions) ← takeSession sessions .faceEmbedding
  let (passiveInfrared, sessions) ← takeSession sessions .passiveLivenessInfrared
  let (passiveVisible, sessions) ← takeSession sessions .passiveLivenessVisible
  let (passiveFusion, _) ← takeSession sessions .passiveLivenessFusion
  pure ⟨detector, landmarks, embedding, passiveInfrared, passiveVisible, passiveFusion⟩

/-- The policy on attacks that a calibration gives. -/
def passivePadPolicy (calibration : PassivePadCalibration) : PassivePadPolicy where
  infraredCompatibilitySha256 := calibration.infraredCompatibilitySha256
  minimumInfraredProbability := calibration.minimumInfraredProbability
  visibleCompatibilitySha256 := calibration.visibleCompatibilitySha256
  minimumVisibleProbability := calibration.minimumVisibleProbability
  fusion := some (calibration.fusionCompatibilitySha256, calibration.minimumFusionProbability)

/-- Both engines from the sessions that were loaded. -/
def assemble (config : ProductionConfig) (warmupFrames : CaptureModality → Nat)
    (loaded : List (ModelRole × LoadedSession)) :
    Except AssemblyError ProductionBiometricEngines := do
  let sessions ← takeSessions loaded
  (validateLoadedCalibration config sessions.models).mapError .config
  let pipeline ← (ProductionObservationPipeline.new warmupFrames sessions.models
    config.cameras.pairing config.calibration.quality.detectionPolicy
    config.calibration.quality.policy).mapError .pipeline
  config.calibration.activeLiveness.challenge.validate.mapError fun _ => .authenticationEngine
  config.calibration.activeLiveness.challenge.validate.mapError fun _ => .enrollmentEngine
  (passivePadPolicy config.calibration.passivePad).validate.mapError fun _ => .enrollmentEngine
  pure ⟨pipeline, sessions⟩

section Build

variable {Inode : Type} [DecidableEq Inode] {owner : UInt32}
  (others : Others Inode String IoError owner) (kernel : Kernel) (libraries : Libraries)

/-- The cameras are discovered and opened once the models are known to be the calibrated ones. -/
def buildProductionBiometricEngines (config : ProductionConfig)
    (cameras : Except String (CaptureModality → Nat)) (runtime : RuntimeLibrary) :
    FileComputation Inode AssemblyError (ProductionBiometricEngines × RuntimeLibrary) := do
  Stepwise.ofExcept (config.validate.mapError .config)
  let identities ← inspectModels others kernel libraries config.runtime config.models
  inspectCalibration others kernel libraries config.calibration identities
  let warmupFrames ← Stepwise.ofExcept (cameras.mapError .cameras)
  let (loaded, runtime) ← loadSessions others kernel libraries config.runtime runtime config.models
  let engines ← Stepwise.ofExcept (assemble config warmupFrames loaded)
  pure (engines, runtime)

end Build

/-! ## The six roles -/

/-- A session whose role is among those that are left can be taken, and the others stay. -/
theorem takeSession_of_roles {sessions : List (ModelRole × LoadedSession)} {role : ModelRole}
    {roles : List ModelRole} (has : (sessions.map Prod.fst).Perm (role :: roles)) :
    ∃ session rest, takeSession sessions role = .ok (session, rest) ∧
      ((role, session) :: rest).Perm sessions ∧ (rest.map Prod.fst).Perm roles := by
  obtain ⟨entry, member, known⟩ := List.mem_map.mp (has.symm.subset List.mem_cons_self)
  have found : (takeFirst (fun entry => decide (entry.1 = role)) sessions).isSome :=
    takeFirst_isSome member (decide_eq_true known)
  obtain ⟨⟨⟨other, session⟩, rest⟩, taken⟩ := Option.isSome_iff_exists.mp found
  obtain ⟨same, whole⟩ := takeFirst_perm taken
  cases of_decide_eq_true same
  refine ⟨session, rest, by rw [takeSession, taken], whole, ?_⟩
  exact ((whole.map Prod.fst).trans has).cons_inv

/-- Of sessions in all six roles, each is taken for its own. -/
theorem takeSessions_of_roles {loaded : List (ModelRole × LoadedSession)}
    (roles : (loaded.map Prod.fst).Perm REQUIRED_MODEL_ROLES) :
    ∃ sessions, takeSessions loaded = .ok sessions ∧ sessions.inRoles.Perm loaded := by
  obtain ⟨detector, second, first, whole₁, roles⟩ := takeSession_of_roles roles
  obtain ⟨landmarks, third, next₂, whole₂, roles⟩ := takeSession_of_roles roles
  obtain ⟨embedding, fourth, next₃, whole₃, roles⟩ := takeSession_of_roles roles
  obtain ⟨infrared, fifth, next₄, whole₄, roles⟩ := takeSession_of_roles roles
  obtain ⟨visible, sixth, next₅, whole₅, roles⟩ := takeSession_of_roles roles
  obtain ⟨fusion, none, next₆, whole₆, roles⟩ := takeSession_of_roles roles
  cases List.map_eq_nil_iff.mp (List.perm_nil.mp roles)
  refine ⟨⟨detector, landmarks, embedding, infrared, visible, fusion⟩, ?_, ?_⟩
  · simp only [takeSessions, first, next₂, next₃, next₄, next₅, next₆, bind, Except.bind, pure,
      Except.pure]
  · have rest₅ := (whole₆.cons _).trans whole₅
    have rest₄ := (rest₅.cons _).trans whole₄
    have rest₃ := (rest₄.cons _).trans whole₃
    exact (((rest₃.cons _).trans whole₂).cons _).trans whole₁

/-- The loop over the installations accepts roles that are required and named once. -/
theorem validateInstallations_eq_ok {models : List ModelInstallation}
    {before roles : List ModelRole}
    (valid : validateInstallations before models = .ok roles) (unique : before.Nodup) :
    roles = before ++ models.map ModelInstallation.role ∧ roles.Nodup ∧
      ∀ model ∈ models, model.role ∈ REQUIRED_MODEL_ROLES := by
  induction models generalizing before with
  | nil =>
      cases valid
      simpa using unique
  | cons model models ih =>
      simp only [validateInstallations, check_bind_eq_ok_iff, require_eq_ok_iff] at valid
      obtain ⟨⟨required, fresh⟩, -, -, -, rest⟩ := valid
      obtain ⟨rfl, nodup, others⟩ := ih rest (by
        rw [List.nodup_append]
        simpa using ⟨unique, fun other member same => fresh (same ▸ member)⟩)
      refine ⟨by simp, nodup, List.forall_mem_cons.mpr ⟨required, others⟩⟩

/-- A valid suite installs one model in each of the six roles. -/
theorem roles_of_validateModelSuite {models : List ModelInstallation}
    (valid : validateModelSuite models = .ok ()) :
    (models.map ModelInstallation.role).Perm REQUIRED_MODEL_ROLES := by
  rw [validateModelSuite, check_bind_eq_ok_iff, require_eq_ok_iff, bind_eq_ok_iff] at valid
  obtain ⟨count, roles, installed, -⟩ := valid
  obtain ⟨rfl, unique, required⟩ := validateInstallations_eq_ok installed List.nodup_nil
  rw [List.nil_append] at unique
  refine perm_of_mem unique (by rw [List.length_map, count]) ?_
  intro role member
  obtain ⟨model, inside, rfl⟩ := List.mem_map.mp member
  exact required model inside

section Assemble

variable {config : ProductionConfig} {warmupFrames : CaptureModality → Nat}
  {loaded : List (ModelRole × LoadedSession)}

/-- Sessions of the right roles pass the check on roles. -/
theorem requireRoles_of_mem {entries : List (Inference.OnnxSession × ModelRole)}
    (each : ∀ entry ∈ entries, entry.1.manifest.role = entry.2) :
    requireRoles entries = .ok () := by
  induction entries with
  | nil => rfl
  | cons entry entries ih =>
      rw [List.forall_mem_cons] at each
      rw [requireRoles, check_bind_eq_ok_iff, require_eq_ok_iff]
      exact ⟨each.1, ih each.2⟩

/-- Under a valid configuration the engines are assembled from all sessions that have their
roles, unless these are not the calibrated ones. -/
theorem assemble_eq (valid : config.validate = .ok ())
    (roles : (loaded.map Prod.fst).Perm REQUIRED_MODEL_ROLES)
    (own : ∀ entry ∈ loaded, entry.2.session.manifest.role = entry.1) :
    ∃ sessions, sessions.inRoles.Perm loaded ∧ requireRoles sessions.models.inRoles = .ok () ∧
      ((∃ pipeline, assemble config warmupFrames loaded = .ok ⟨pipeline, sessions⟩ ∧
          validateLoadedCalibration config sessions.models = .ok ()) ∨
        assemble config warmupFrames loaded = .error (.config
          (.invalid "loaded model compatibility identities differ from calibration"))) := by
  obtain ⟨sessions, taken, whole⟩ := takeSessions_of_roles roles
  have assembled : requireRoles sessions.models.inRoles = .ok () := by
    have same : sessions.models.inRoles =
        sessions.inRoles.map fun entry => (entry.2.session, entry.1) := rfl
    apply requireRoles_of_mem
    rw [same, List.forall_mem_map]
    exact fun entry member => own entry (whole.subset member)
  refine ⟨sessions, whole, assembled, ?_⟩
  simp only [ProductionConfig.validate, check_bind_eq_ok_iff, ProductionCameraConfig.validate,
    validateCalibration, QualityCalibration.validate, ActiveLivenessCalibration.validate,
    PassivePadCalibration.validate, mapError_eq_ok_iff, require_eq_ok_iff] at valid
  obtain ⟨-, ⟨-, -, -, -, -, pairing⟩, -, -, -, ⟨-, ⟨-, detection, quality, -⟩,
    ⟨⟨infrared, visible, fusion, one, other, third⟩, -⟩, ⟨-, challenge, -⟩, -⟩, -⟩ := valid
  have pad : (passivePadPolicy config.calibration.passivePad).validate = .ok () := by
    simp [PassivePadPolicy.validate, passivePadPolicy, infrared, visible, fusion, one, other, third]
  have pipeline : ProductionObservationPipeline.new warmupFrames sessions.models
      config.cameras.pairing config.calibration.quality.detectionPolicy
      config.calibration.quality.policy = .ok ⟨warmupFrames, config.cameras.pairing,
        config.calibration.quality.detectionPolicy, config.calibration.quality.policy⟩ := by
    simp only [ProductionObservationPipeline.new, check_bind_eq_ok_iff, mapError_eq_ok_iff]
    exact ⟨pairing, detection, quality, assembled, rfl⟩
  by_cases calibrated : validateLoadedCalibration config sessions.models = .ok ()
  · refine .inl ⟨⟨warmupFrames, config.cameras.pairing,
      config.calibration.quality.detectionPolicy, config.calibration.quality.policy⟩, ?_,
      calibrated⟩
    simp only [assemble, bind_eq_ok_iff, mapError_eq_ok_iff]
    exact ⟨sessions, taken, (), calibrated, _, pipeline, (), challenge, (), challenge, (), pad, rfl⟩
  · refine .inr ?_
    have failed : validateLoadedCalibration config sessions.models = .error
        (.invalid "loaded model compatibility identities differ from calibration") := by
      unfold validateLoadedCalibration at calibrated ⊢
      rw [require_eq_ok_iff] at calibrated
      exact require_of_not calibrated _
    rw [assemble, taken]
    change (validateLoadedCalibration config sessions.models).mapError AssemblyError.config >>=
      _ = _
    rw [failed]
    rfl

end Assemble

/-! ## What the files are known for -/

/-- What can really go wrong. Under a valid configuration no role is missing, and no policy is
refused that was accepted before. -/
def Expected : AssemblyError → Prop
  | .missingIdentity _ | .missingSession _ | .pipeline _ | .authenticationEngine
  | .enrollmentEngine => False
  | _ => True

/-- A check touches no file, and what it checks is known from then on. -/
theorem require_keeps {Inode : Type} {before : Filesystem Inode String → Prop} {condition : Prop}
    [Decidable condition] {error : AssemblyError} (expected : Expected error) :
    KeepsFiles before (Stepwise.ofExcept (require condition error)) (fun _ => True)
      (fun _ files => before files ∧ condition) fun failure _ => Expected failure := by
  apply KeepsFiles.ofExcept
  intro files held
  by_cases holds : condition
  · rw [require, if_pos holds]
    exact ⟨held, holds⟩
  · rw [require_of_not holds]
    exact expected

/-- A result under a label touches no file, and is known from then on. -/
theorem mapError_keeps {Inode Error Value : Type} {before : Filesystem Inode String → Prop}
    {result : Except Error Value} {label : Error → AssemblyError}
    (expected : ∀ error, Expected (label error)) :
    KeepsFiles before (Stepwise.ofExcept (result.mapError label)) (fun _ => True)
      (fun value files => before files ∧ result = .ok value) fun failure _ => Expected failure := by
  apply KeepsFiles.ofExcept
  intro files held
  cases result with
  | ok value => exact ⟨held, rfl⟩
  | error error => exact expected error

section Facts

variable {Inode : Type} (owner : UInt32) (kernel : Kernel) (libraries : Libraries)
  (contents : List String → List UInt8) (files : Filesystem Inode String)

/-- A review is what it is known to be by its digest. -/
def Reviewed (evidence : ReviewedEvidence) : Prop :=
  ∃ path, kernel.Resolves evidence.path path ∧
    hexLower (libraries.sha256 (contents path)).toList = evidence.sha256 ∧
    Kept owner path files contents

/-- A manifest was installed. -/
def Described (given : UnixPath) (manifest : ModelManifest) : Prop :=
  ∃ path, kernel.Resolves given path ∧ libraries.parse (contents path) = some manifest ∧
    Kept owner path files contents

/-- A session was made from the manifest and the model that are installed for its role. -/
def Sourced (config : RuntimePolicyConfig) (models : List ModelInstallation)
    (entry : ModelRole × LoadedSession) : Prop :=
  ∃ installation ∈ models, installation.role = entry.1 ∧
    ∃ manifest, Described owner kernel libraries contents files installation.manifestPath manifest ∧
      manifest.role = entry.1 ∧ LoadedFrom owner kernel libraries contents config manifest
        installation.artifactPath entry.2 files

variable {owner kernel libraries contents files}

/-- A session has the role that it was loaded for. -/
theorem Sourced.role {config : RuntimePolicyConfig} {models : List ModelInstallation}
    {entry : ModelRole × LoadedSession}
    (sourced : Sourced owner kernel libraries contents files config models entry) :
    entry.2.session.manifest.role = entry.1 := by
  obtain ⟨_, _, _, manifest, _, role, path, _, made, _⟩ := sourced
  rw [made.described, role]

/-- More installations do not change where a session comes from. -/
theorem Sourced.mono {config : RuntimePolicyConfig} {models more : List ModelInstallation}
    {entry : ModelRole × LoadedSession} (within : models ⊆ more)
    (sourced : Sourced owner kernel libraries contents files config models entry) :
    Sourced owner kernel libraries contents files config more entry := by
  obtain ⟨installation, member, rest⟩ := sourced
  exact ⟨installation, within member, rest⟩

variable [DecidableEq Inode]

/-- Other users cannot change a verified review. -/
theorem reviewed_stable {evidence : ReviewedEvidence} : StableFiles owner
    fun files : Filesystem Inode String =>
      Reviewed owner kernel libraries contents files evidence := by
  rintro files after acted ⟨path, resolved, digest, kept⟩
  exact ⟨path, resolved, digest, kept_stable files after acted kept⟩

/-- Other users cannot change a manifest that was read. -/
theorem described_stable {given : UnixPath} {manifest : ModelManifest} : StableFiles owner
    fun files : Filesystem Inode String =>
      Described owner kernel libraries contents files given manifest := by
  rintro files after acted ⟨path, resolved, parsed, kept⟩
  exact ⟨path, resolved, parsed, kept_stable files after acted kept⟩

/-- Other users cannot change where a session comes from. -/
theorem sourced_stable {config : RuntimePolicyConfig} {models : List ModelInstallation}
    {entry : ModelRole × LoadedSession} : StableFiles owner
    fun files : Filesystem Inode String =>
      Sourced owner kernel libraries contents files config models entry := by
  rintro files after acted ⟨installation, member, role, manifest, described, known, made⟩
  exact ⟨installation, member, role, manifest, described_stable files after acted described, known,
    loadedFrom_stable files after acted made⟩

end Facts

section Specs

variable {Inode : Type} [DecidableEq Inode] {owner : UInt32}
  {others : Others Inode String IoError owner} {kernel : Kernel} {libraries : Libraries}
  {holds : Filesystem Inode String → Prop} {contents : List String → List UInt8}
  (stable : StableFiles owner holds)
  (installed : ∀ files, holds files → Installed owner files contents)

include stable installed

/-- A trusted file keeps its path for good. -/
theorem trustedRegularFile_keeps (given : UnixPath) (maximum : Nat) :
    KeepsFiles holds (trustedRegularFile others kernel given maximum) (fun _ => True)
      (fun path files => (holds files ∧ Kept owner path files contents) ∧
        kernel.Resolves given path) fun failure _ => Expected failure := by
  unfold trustedRegularFile
  refine ((canonicalize_keeps stable kernel given).part (fun _ _ => trivial)
    fun _ _ _ => trivial).bind fun path => .fact fun resolved => ?_
  have plain : StableFiles owner fun files : Filesystem Inode String =>
      holds files ∧ Plain owner path files := stable.and plain_stable
  refine ((fsMetadata_keeps plain (fun _ held => held.2)
    fun files held => installed files held.1).part (fun _ _ => trivial)
    fun _ _ _ => trivial).bind fun ⟨metadata, length⟩ => ?_
  refine (require_keeps (by trivial)).bind fun _ => .fact fun trusted => ?_
  refine (require_keeps (by trivial)).bind fun _ => .fact fun _ => ?_
  have seen : StableFiles owner fun files : Filesystem Inode String =>
      (holds files ∧ Plain owner path files) ∧ FileSeen owner path files length (contents path) :=
    plain.and fileSeen_stable
  refine KeepsFiles.bind ((verifyAncestors_keeps seen (fun files held => held.1.2)
    (fun _ _ _ => trivial) fun _ _ _ _ => trivial).mono
    (fun _ held => ⟨held.1, held.2 trusted⟩) (fun _ _ => trivial) (fun _ _ held => held)
    fun _ _ failed => failed) fun _ => .pure ?_
  rintro files ⟨⟨⟨held, -⟩, seen⟩, above⟩
  exact ⟨⟨held, (seen.verified above (installed files held)).1⟩, resolved⟩

/-- What is read after a path is trusted is what was installed there. -/
theorem trusted_bind {given : UnixPath} {maximum : Nat} {Value : Type}
    {next : List UInt8 → FileComputation Inode AssemblyError Value}
    {returns : Value → Filesystem Inode String → Prop}
    (rest : ∀ path, kernel.Resolves given path →
      KeepsFiles (fun files => holds files ∧ Kept owner path files contents)
        (next (contents path)) (fun _ => True) returns fun failure _ => Expected failure) :
    KeepsFiles holds (do
        let path ← trustedRegularFile others kernel given maximum
        let content ← (readFile others kernel path).relabel .io
        next content) (fun _ => True) returns fun failure _ => Expected failure := by
  refine (trustedRegularFile_keeps stable installed given maximum).bind
    fun path => .fact fun resolved => ?_
  rintro start ⟨held, inode, verified⟩
  have both : StableFiles owner fun files : Filesystem Inode String =>
      holds files ∧ Verified owner path files (contents path) inode := stable.and verified_stable
  have reads : KeepsFiles (fun files => holds files ∧
      Verified owner path files (contents path) inode) (do
        let content ← (readFile others kernel path).relabel AssemblyError.io
        next content) (fun _ => True) returns fun failure _ => Expected failure := by
    refine ((readFile_keeps both (fun _ held => held.2) kernel).part (fun _ _ => trivial)
      fun _ _ _ => trivial).bind fun content => .fact fun same => ?_
    subst same
    exact (rest path resolved).mono (fun _ held => ⟨held.1, inode, held.2⟩) (fun _ held => held)
      (fun _ _ held => held) fun _ _ failed => failed
  exact reads start ⟨held, verified⟩

/-- A review that passes is the one that the configuration names. -/
theorem verifyReviewedEvidence_keeps (evidence : ReviewedEvidence) :
    KeepsFiles holds (verifyReviewedEvidence others kernel libraries evidence) (fun _ => True)
      (fun _ files => holds files ∧ Reviewed owner kernel libraries contents files evidence)
      fun failure _ => Expected failure := by
  refine trusted_bind stable installed fun path resolved => ?_
  apply (require_keeps (by trivial)).mono
  · exact fun _ held => held
  · exact fun _ held => held
  · rintro _ files ⟨⟨held, kept⟩, digest⟩
    exact ⟨held, path, resolved, digest, kept⟩
  · exact fun _ _ failed => failed

/-- A manifest that is read is the one that is installed. -/
theorem readManifest_keeps (given : UnixPath) :
    KeepsFiles holds (readManifest others kernel libraries given) (fun _ => True)
      (fun manifest files => holds files ∧
        Described owner kernel libraries contents files given manifest)
      fun failure _ => Expected failure := by
  refine trusted_bind stable installed fun path resolved => ?_
  apply KeepsFiles.ofExcept
  rintro files ⟨held, kept⟩
  cases parsed : libraries.parse (contents path) with
  | none => trivial
  | some manifest => exact ⟨held, path, resolved, parsed, kept⟩

/-- The review of a model is verified before its identity is known. -/
theorem inspectModel_keeps (runtime : RuntimePolicyConfig) (model : ModelInstallation) :
    KeepsFiles holds (inspectModel others kernel libraries runtime model) (fun _ => True)
      (fun identity files => (holds files ∧
        Reviewed owner kernel libraries contents files model.reviewEvidence) ∧
          identity.1 = model.role) fun failure _ => Expected failure := by
  unfold inspectModel
  refine (verifyReviewedEvidence_keeps stable installed model.reviewEvidence).bind fun _ => ?_
  have both : StableFiles owner fun files : Filesystem Inode String =>
      holds files ∧ Reviewed owner kernel libraries contents files model.reviewEvidence :=
    stable.and reviewed_stable
  have there : ∀ files : Filesystem Inode String,
      holds files ∧ Reviewed owner kernel libraries contents files model.reviewEvidence →
        Installed owner files contents := fun files held => installed files held.1
  refine ((readManifest_keeps both there model.manifestPath).mono (fun _ held => held)
    (fun _ held => held) (fun _ _ held => held.1) fun _ _ failed => failed).bind fun manifest => ?_
  refine (mapError_keeps fun _ => by trivial).bind fun _ => .fact fun _ => ?_
  refine (require_keeps (by trivial)).bind fun _ => .fact fun _ => ?_
  refine ((verifyModelInstallation_keeps both there model.artifactPath).part
    (fun _ _ => trivial) fun _ _ _ => trivial).bind fun _ => ?_
  exact (mapError_keeps fun _ => by trivial).bind fun _ => .pure fun _ held => ⟨held.1, rfl⟩

/-- After the inspection all reviews are known, and there is one identity for each model. -/
theorem inspectModels_keeps (runtime : RuntimePolicyConfig) (models : List ModelInstallation) :
    KeepsFiles holds (inspectModels others kernel libraries runtime models) (fun _ => True)
      (fun identities files => (holds files ∧ ∀ model ∈ models,
        Reviewed owner kernel libraries contents files model.reviewEvidence) ∧
          identities.map Prod.fst = models.map ModelInstallation.role)
      fun failure _ => Expected failure := by
  induction models generalizing holds with
  | nil => exact .pure fun files held => ⟨⟨held, List.forall_mem_nil _⟩, rfl⟩
  | cons model models ih =>
      have both : StableFiles owner fun files : Filesystem Inode String =>
          holds files ∧ Reviewed owner kernel libraries contents files model.reviewEvidence :=
        stable.and reviewed_stable
      unfold inspectModels
      refine (inspectModel_keeps stable installed runtime model).bind
        fun identity => .fact fun same => ?_
      refine (ih both fun files held => installed files held.1).bind fun identities => .pure ?_
      rintro files ⟨⟨⟨held, reviewed⟩, others⟩, roles⟩
      exact ⟨⟨held, List.forall_mem_cons.mpr ⟨reviewed, others⟩⟩, by
        rw [List.map_cons, List.map_cons, same, roles]⟩

/-- After the loop all reviews are known. -/
theorem verifyEvidences_keeps (evidences : List ReviewedEvidence) :
    KeepsFiles holds (verifyEvidences others kernel libraries evidences) (fun _ => True)
      (fun _ files => holds files ∧ ∀ evidence ∈ evidences,
        Reviewed owner kernel libraries contents files evidence)
      fun failure _ => Expected failure := by
  induction evidences generalizing holds with
  | nil => exact .pure fun files held => ⟨held, List.forall_mem_nil _⟩
  | cons evidence evidences ih =>
      have both : StableFiles owner fun files : Filesystem Inode String =>
          holds files ∧ Reviewed owner kernel libraries contents files evidence :=
        stable.and reviewed_stable
      unfold verifyEvidences
      refine (verifyReviewedEvidence_keeps stable installed evidence).bind fun _ => ?_
      apply (ih both fun files held => installed files held.1).mono
      · exact fun _ held => held
      · exact fun _ held => held
      · exact fun _ _ held => ⟨held.1.1, List.forall_mem_cons.mpr ⟨held.1.2, held.2⟩⟩
      · exact fun _ _ failed => failed

/-- Each session that is loaded comes from the files that are installed for its role. -/
theorem loadSessions_keeps (config : RuntimePolicyConfig) {runtime : RuntimeLibrary}
    (genuine : Genuine contents runtime) (models : List ModelInstallation) :
    KeepsFiles holds (loadSessions others kernel libraries config runtime models)
      (fun _ => True)
      (fun (sessions, runtime) files => (holds files ∧ ∀ entry ∈ sessions,
          Sourced owner kernel libraries contents files config models entry) ∧
        sessions.map Prod.fst = models.map ModelInstallation.role ∧ Genuine contents runtime)
      fun failure _ => Expected failure := by
  induction models generalizing holds runtime with
  | nil => exact .pure fun files held => ⟨⟨held, List.forall_mem_nil _⟩, rfl, genuine⟩
  | cons installation models ih =>
      unfold loadSessions
      refine (readManifest_keeps stable installed installation.manifestPath).bind fun manifest => ?_
      have described : StableFiles owner fun files : Filesystem Inode String => holds files ∧
          Described owner kernel libraries contents files installation.manifestPath manifest :=
        stable.and described_stable
      refine (require_keeps (by trivial)).bind fun _ => .fact fun role => ?_
      refine ((load_keeps described (fun files held => installed files held.1) genuine
        installation.artifactPath).part (fun _ _ => trivial) fun _ _ _ => trivial).bind ?_
      rintro ⟨session, after⟩
      refine .fact fun ⟨code, _⟩ => ?_
      have sourced : StableFiles owner fun files : Filesystem Inode String => holds files ∧
          Sourced owner kernel libraries contents files config (installation :: models)
            (installation.role, session) := stable.and sourced_stable
      have rest : KeepsFiles (fun files : Filesystem Inode String => holds files ∧
          Sourced owner kernel libraries contents files config (installation :: models)
            (installation.role, session)) (do
            let (sessions, runtime) ← loadSessions others kernel libraries config after models
            pure ((installation.role, session) :: sessions, runtime)) (fun _ => True)
          (fun (sessions, runtime) files => (holds files ∧ ∀ entry ∈ sessions,
            Sourced owner kernel libraries contents files config (installation :: models) entry) ∧
              sessions.map Prod.fst = (installation :: models).map ModelInstallation.role ∧
                Genuine contents runtime) fun failure _ => Expected failure := by
        refine (ih sourced (fun files held => installed files held.1) code).bind ?_
        rintro ⟨sessions, final⟩
        refine .pure ?_
        rintro files ⟨⟨⟨held, first⟩, others⟩, roles, last⟩
        refine ⟨⟨held, List.forall_mem_cons.mpr ⟨first, fun entry member => ?_⟩⟩, ?_, last⟩
        · exact (others entry member).mono (List.subset_cons_self _ _)
        · rw [List.map_cons, List.map_cons, roles]
      apply rest.mono
      · rintro files ⟨⟨held, described⟩, made⟩
        exact ⟨held, installation, List.mem_cons_self, rfl, manifest, described, role, made⟩
      · exact fun _ held => held
      · exact fun _ _ held => held
      · exact fun _ _ failed => failed

end Specs

/-! ## The whole assembly -/

/-- For a role that is installed only the calibration can be wrong. -/
theorem requireIdentity_expected {identities : List (ModelRole × List UInt8)} {role : ModelRole}
    (known : role ∈ identities.map Prod.fst) {calibrated : List UInt8} {failure : AssemblyError}
    (failed : requireIdentity identities role calibrated = .error failure) : Expected failure := by
  obtain ⟨entry, member, same⟩ := List.mem_map.mp known
  have found : (identities.find? fun entry => entry.1 = role).isSome := by
    rw [List.find?_isSome]
    exact ⟨entry, member, decide_eq_true same⟩
  obtain ⟨⟨other, digest⟩, found⟩ := Option.isSome_iff_exists.mp found
  have answer : expected identities role = .ok digest := by rw [expected, found]
  rw [requireIdentity, answer] at failed
  exact (require_eq_error_iff.mp failed).2 ▸ trivial

/-- Two checks that fail in expected ways do so together. -/
theorem bind_expected {first : Except AssemblyError Unit}
    {next : Unit → Except AssemblyError Unit}
    (one : ∀ failure, first = .error failure → Expected failure)
    (other : ∀ failure, next () = .error failure → Expected failure) :
    ∀ failure, first >>= next = .error failure → Expected failure := by
  intro failure failed
  cases result : first with
  | ok => exact other failure (by rw [result] at failed; exact failed)
  | error error =>
      rw [result] at failed
      cases failed
      exact one _ result

/-- A comparison with all six identities finds them. -/
theorem compareCalibration_expected {calibration : CalibrationConfig}
    {identities : List (ModelRole × List UInt8)}
    (roles : (identities.map Prod.fst).Perm REQUIRED_MODEL_ROLES) :
    ∀ failure, compareCalibration calibration identities = .error failure → Expected failure := by
  have known : ∀ role ∈ REQUIRED_MODEL_ROLES, ∀ calibrated failure,
      requireIdentity identities role calibrated = .error failure → Expected failure :=
    fun role required _ _ => requireIdentity_expected (roles.symm.subset required)
  unfold compareCalibration
  refine bind_expected (known _ (by decide) _) (bind_expected (known _ (by decide) _)
    (bind_expected (known _ (by decide) _) (bind_expected (known _ (by decide) _)
      (bind_expected (known _ (by decide) _) (bind_expected (known _ (by decide) _)
        (known _ (by decide) _))))))

section Whole

variable {Inode : Type} {owner : UInt32} {kernel : Kernel} {libraries : Libraries}
  {contents : List String → List UInt8} {config : ProductionConfig}

/-- The reviews behind the thresholds. -/
def calibrationEvidence (calibration : CalibrationConfig) : List ReviewedEvidence :=
  [calibration.recognition.evidence, calibration.quality.evidence, calibration.passivePad.evidence,
    calibration.activeLiveness.evidence, calibration.enrollment.evidence]

/-- What the engines of a daemon were made from. -/
structure Accredited (owner : UInt32) (kernel : Kernel) (libraries : Libraries)
    (contents : List String → List UInt8) (config : ProductionConfig)
    (sessions : ProductionSessions) (files : Filesystem Inode String) : Prop where
  sourced : ∀ entry ∈ sessions.inRoles,
    Sourced owner kernel libraries contents files config.runtime config.models entry
  reviewed : ∀ model ∈ config.models,
    Reviewed owner kernel libraries contents files model.reviewEvidence
  calibrated : ∀ evidence ∈ calibrationEvidence config.calibration,
    Reviewed owner kernel libraries contents files evidence

/-- The sessions in their roles are loaded ones. -/
theorem loaded_of_inRoles {sessions : ProductionSessions} {files : Filesystem Inode String}
    (known : Accredited owner kernel libraries contents config sessions files) :
    ∀ entry ∈ sessions.models.inRoles,
      entry.1.Loaded libraries.spdx libraries.sha256 libraries.serialize := by
  have same : sessions.models.inRoles =
      sessions.inRoles.map fun entry => (entry.2.session, entry.1) := rfl
  rw [same, List.forall_mem_map]
  intro entry member
  obtain ⟨_, _, _, manifest, _, _, path, _, made, _⟩ := known.sourced entry member
  exact made.identity

variable [DecidableEq Inode] {others : Others Inode String IoError owner}

/-- Other users cannot change what the engines were made from. -/
theorem accredited_stable {sessions : ProductionSessions} : StableFiles owner
    (Accredited owner kernel libraries contents config sessions :
      Filesystem Inode String → Prop) := by
  intro files after acted known
  exact ⟨fun entry member => sourced_stable files after acted (known.sourced entry member),
    fun model member => reviewed_stable files after acted (known.reviewed model member),
    fun evidence member => reviewed_stable files after acted (known.calibrated evidence member)⟩

/-- What building finds out, step by step, about the engines and the files. -/
theorem build_keeps {cameras : Except String (CaptureModality → Nat)} {runtime : RuntimeLibrary}
    (genuine : Genuine contents runtime) :
    KeepsFiles (fun files => Installed owner files contents)
      (buildProductionBiometricEngines others kernel libraries config cameras runtime)
      (fun _ => True)
      (fun (engines, runtime) files =>
        Accredited owner kernel libraries contents config engines.sessions files ∧
          engines.sessions.models.Admitted config libraries.spdx libraries.sha256
            libraries.serialize ∧ Genuine contents runtime)
      fun failure _ => Expected failure := by
  have installed : StableFiles owner fun files : Filesystem Inode String =>
      Installed owner files contents := installed_stable
  unfold buildProductionBiometricEngines
  refine (mapError_keeps fun _ => by trivial).bind fun _ => .fact fun valid => ?_
  have suite : validateModelSuite config.models = .ok () := by
    simp only [ProductionConfig.validate, check_bind_eq_ok_iff] at valid
    exact valid.2.2.2.2.1
  have required := roles_of_validateModelSuite suite
  refine (inspectModels_keeps installed (fun _ held => held) config.runtime config.models).bind
    fun identities => .fact fun roles => ?_
  have reviewed : StableFiles owner fun files : Filesystem Inode String =>
      Installed owner files contents ∧ ∀ model ∈ config.models,
        Reviewed owner kernel libraries contents files model.reviewEvidence :=
    installed.and (.all (fun _ => reviewed_stable) config.models)
  unfold inspectCalibration
  refine KeepsFiles.bind (KeepsFiles.bind (KeepsFiles.given fun failure _ _ failed =>
    compareCalibration_expected (roles ▸ required) failure failed) fun _ => .fact fun _ =>
      verifyEvidences_keeps reviewed (fun _ held => held.1)
        (calibrationEvidence config.calibration)) fun _ => ?_
  refine (mapError_keeps fun _ => by trivial).bind fun warmupFrames => .fact fun _ => ?_
  have calibrated : StableFiles owner fun files : Filesystem Inode String =>
      (Installed owner files contents ∧ ∀ model ∈ config.models,
        Reviewed owner kernel libraries contents files model.reviewEvidence) ∧
        ∀ evidence ∈ calibrationEvidence config.calibration,
          Reviewed owner kernel libraries contents files evidence :=
    reviewed.and (.all (fun _ => reviewed_stable) (calibrationEvidence config.calibration))
  refine (loadSessions_keeps calibrated (fun _ held => held.1.1) config.runtime genuine
    config.models).bind ?_
  rintro ⟨loaded, after⟩
  refine .fact fun ⟨named, code⟩ => KeepsFiles.bind (KeepsFiles.ofExcept ?_) fun engines =>
    .pure fun files (known : Accredited owner kernel libraries contents config engines.sessions
      files ∧ engines.sessions.models.Admitted config libraries.spdx libraries.sha256
        libraries.serialize) => ⟨known.1, known.2, code⟩
  rintro files ⟨⟨⟨-, models⟩, evidence⟩, sourced⟩
  obtain ⟨sessions, whole, assembled, outcome⟩ := @assemble_eq config warmupFrames loaded valid
    (named ▸ required) fun entry member => (sourced entry member).role
  have known : Accredited owner kernel libraries contents config sessions files :=
    ⟨fun entry member => sourced entry (whole.subset member), models, evidence⟩
  rcases outcome with ⟨pipeline, done, same⟩ | failed
  · rw [done]
    exact ⟨known, loaded_of_inRoles known, assembled, same⟩
  · rw [failed]
    trivial

/-- With other users acting between all calls, the engines that are assembled are made from the
manifests and models that are installed for their roles, have the identities that the policy was
calibrated for, and rest on the reviews that the configuration names, all of which keep their
paths for good. Under a valid configuration no role is missing, and none of its policies is
refused. -/
theorem engines_accredited {cameras : Except String (CaptureModality → Nat)}
    {runtime : RuntimeLibrary} (genuine : Genuine contents runtime)
    {start : FileWorld Inode String} (installed : Installed owner start.files contents) :
    (∀ engines after, (buildProductionBiometricEngines others kernel libraries config cameras
        runtime start).result = .ok (engines, after) →
      engines.sessions.models.Admitted config libraries.spdx libraries.sha256
          libraries.serialize ∧ Genuine contents after ∧
        ∀ later, (buildProductionBiometricEngines others kernel libraries config cameras
            runtime start).state.files.Untrusted owner later →
          Accredited owner kernel libraries contents config engines.sessions later) ∧
    ∀ failure, (buildProductionBiometricEngines others kernel libraries config cameras
      runtime start).result = .error failure → Expected failure := by
  have ends := (@build_keeps _ _ kernel libraries contents config _ others cameras _ genuine start
    installed).2
  constructor
  · intro engines after done
    rw [done] at ends
    obtain ⟨known, admitted, code⟩ := ends
    exact ⟨admitted, code, fun later acted => accredited_stable _ later acted known⟩
  · intro failure failed
    rw [failed] at ends
    exact ends

end Whole

/-- Where the manifests of the example are, then its models, and last the runtime. -/
def examplePaths : List UnixPath :=
  (exampleConfig .yuyv).models.map ModelInstallation.manifestPath ++
    (exampleConfig .yuyv).models.map ModelInstallation.artifactPath ++
    [(exampleConfig .yuyv).runtime.libraryPath]

/-- Each path leads to a file of its number, and those of the reviews lead to the last one. -/
def exampleKernel : Kernel where
  resolves _ path := [toString (examplePaths.idxOf path), "lib"]
  portions _ := [1]

/-- Files in one directory that hold their numbers. -/
def exampleFiles : Filesystem Nat String where
  root := 0
  metadata inode :=
    if inode ≤ 1 then some ⟨.directory, 0, 0o755⟩
    else if inode ≤ examplePaths.length + 2 then some ⟨.regular, 0, 0o644⟩ else none
  entry directory name :=
    if directory = 0 then (if name = "lib" then some 1 else none)
    else if directory = 1 then
      ((List.range (examplePaths.length + 1)).find? fun index => name = toString index).map (· + 2)
    else none
  content inode := [UInt8.ofNat (inode - 2)]
  reads _ _ := False
  writes _ _ := False

/-- The manifests of the example in the order of their roles. -/
def exampleManifests : List ModelManifest := exampleModels.inRoles.map fun entry => entry.1.manifest

/-- The digest of what is in a file, which all manifests and reviews state, and those of the
texts of the manifests. -/
def exampleLibraries : Libraries where
  spdx := exampleSpdx
  sha256 bytes := if bytes.length = 1 then Vector.replicate 32 0xaa else exampleSha256 bytes
  serialize := exampleSerialize
  parse bytes := bytes.head?.bind fun number => exampleManifests[number.toNat]?
  commit bytes := bytes.head?.bind fun number =>
    (exampleManifests[number.toNat - exampleManifests.length]?).map fun manifest =>
      ⟨(manifest.input :: manifest.additionalInputs).map Inference.inputOutlet,
        manifest.outputs.map Inference.outputOutlet⟩

/-- Both engines are made from six models that are installed with their manifests and reviews. -/
theorem engines_accredited_test : ∃ engines after,
    (buildProductionBiometricEngines testOthers exampleKernel exampleLibraries
      (exampleConfig .yuyv) (.ok fun _ => 3) ⟨none, false, false⟩ ⟨exampleFiles, 0⟩).result =
        .ok (engines, after) ∧
    engines.sessions.models.Admitted (exampleConfig .yuyv) exampleSpdx exampleLibraries.sha256
      exampleSerialize ∧
    Accredited 0 exampleKernel exampleLibraries (contentsOf exampleFiles) (exampleConfig .yuyv)
      engines.sessions (buildProductionBiometricEngines testOthers exampleKernel exampleLibraries
        (exampleConfig .yuyv) (.ok fun _ => 3) ⟨none, false, false⟩
        ⟨exampleFiles, 0⟩).state.files := by
  have genuine : Genuine (contentsOf exampleFiles) ⟨none, false, false⟩ := by
    intro path code found
    cases found
  have succeeds : (buildProductionBiometricEngines testOthers exampleKernel exampleLibraries
      (exampleConfig .yuyv) (.ok fun _ => 3) ⟨none, false, false⟩
      ⟨exampleFiles, 0⟩).result.isOk = true := by decide +kernel
  cases result : (buildProductionBiometricEngines testOthers exampleKernel exampleLibraries
      (exampleConfig .yuyv) (.ok fun _ => 3) ⟨none, false, false⟩ ⟨exampleFiles, 0⟩).result with
  | error failure =>
      rw [result] at succeeds
      cases succeeds
  | ok pair =>
      obtain ⟨engines, after⟩ := pair
      obtain ⟨admitted, -, accredited⟩ := (engines_accredited genuine
        (installed_contentsOf (by decide +kernel) fun _ _ => id)).1 engines after result
      exact ⟨engines, after, rfl, admitted, accredited _ .refl⟩

end Assembly

end FaceAuth
