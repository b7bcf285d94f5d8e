import FaceAuth.Authz.Policy
import FaceAuth.Capture.Spec
import FaceAuth.Daemon.Observation
import FaceAuth.Daemon.Supervision
import FaceAuth.Enrollment.Session
import FaceAuth.Management.Coordinator
import FaceAuth.Session.Manager
import FaceAuth.Transport.Frame

/-!
# Production configuration

The administrator's configuration of the daemon, and the checks that it passes
before any device or model is touched. A component's own error is kept behind the
text that introduces it. Text and paths are lists of bytes.
-/

namespace FaceAuth

open Foundation

/-- The version of the configuration that the daemon reads. -/
def PRODUCTION_CONFIG_SCHEMA_VERSION : Nat := 4

/-- The roles that an installation must fill. -/
def REQUIRED_MODEL_ROLES : List ModelRole :=
  [.faceDetector, .faceLandmarks, .faceEmbedding, .passiveLivenessInfrared,
    .passiveLivenessVisible, .passiveLivenessFusion]

/-- Upper bound on the size of a model. -/
def ABSOLUTE_MAX_MODEL_BYTES : Nat := 1024 * 1024 * 1024

/-- Upper bound on the time of one inference. -/
def ABSOLUTE_MAX_RUN_MILLIS : Nat := 5_000

/-- The one failure of a runtime configuration. -/
inductive RuntimeConfigError where
  | invalidConfig
deriving DecidableEq, Repr

/-- Invalid production configuration. -/
inductive ProductionConfigError where
  | unsupportedSchema (received supported : Nat)
  | invalid (message : String)
  | missingBoundary (purpose : AuthenticationPurpose)
  | capture (message : String) (error : CaptureError)
  | runtime (message : String) (error : RuntimeConfigError)
  | recognition (message : String) (error : PolicyError)
  | quality (message : String) (error : QualityError)
  | challenge (message : String) (error : ChallengeError)
  | enrollment (message : String) (error : EnrollmentError)
  | authorization (message : String) (error : AuthorizationPolicyError)
  | management (message : String) (error : ManagementError)
  | supervision (message : String) (error : SupervisorError)
  | transport (message : String) (error : TransportError)
  | session (message : String) (error : SessionError)
deriving DecidableEq

/-- A path of the file system. -/
abbrev UnixPath : Type := List UInt8

/-- The path begins with a slash. -/
def UnixPath.IsAbsolute (path : UnixPath) : Prop := path.head? = some 47

instance (path : UnixPath) : Decidable path.IsAbsolute :=
  inferInstanceAs (Decidable (_ = _))

/-- Paths in the configuration are absolute. -/
def requireAbsolute (path : UnixPath) (label : String) : Except ProductionConfigError Unit :=
  require path.IsAbsolute (.invalid (label ++ " path must be absolute"))

/-! ## Cameras -/

/-- Explicit selector of one camera. -/
structure CameraSelector where
  vendorId : List UInt8
  productId : List UInt8
  serial : Option (List UInt8)
  physicalPath : Option (List UInt8)
deriving DecidableEq

/-- Four lowercase hexadecimal digits. -/
def ValidUsbId (value : List UInt8) : Prop :=
  value.length = 4 ∧ value.all isAsciiHexdigit = true ∧ value.any isAsciiUppercase = false

instance : DecidablePred ValidUsbId := fun _ => inferInstanceAs (Decidable (_ ∧ _ ∧ _))

/-- A camera is named by its vendor, its product, and its serial number or its place. -/
def validateCameraSelector (selector : CameraSelector) (role : String) :
    Except ProductionConfigError Unit := do
  require (ValidUsbId selector.vendorId ∧ ValidUsbId selector.productId)
    (.invalid (role ++ " USB identifiers must be four lowercase hexadecimal bytes"))
  require (¬ (selector.serial.all List.isEmpty = true ∧
      selector.physicalPath.all List.isEmpty = true))
    (.invalid (role ++ " camera requires a non-empty serial or physical path"))

/-- One stable camera selector and exact negotiation contract. -/
structure CameraStreamConfig where
  selector : CameraSelector
  capture : CaptureSpec
deriving DecidableEq

/-- Exact production camera selection, negotiation, and pairing policy. -/
structure ProductionCameraConfig where
  infrared : CameraStreamConfig
  visible : CameraStreamConfig
  pairing : PairingPolicy
deriving DecidableEq

/-- Both cameras are named, differ, and deliver what their roles need. -/
def ProductionCameraConfig.validate (cameras : ProductionCameraConfig) :
    Except ProductionConfigError Unit := do
  validateCameraSelector cameras.infrared.selector "infrared"
  validateCameraSelector cameras.visible.selector "visible"
  require (cameras.infrared.selector ≠ cameras.visible.selector)
    (.invalid "infrared and visible camera selectors must differ")
  (cameras.infrared.capture.validate .infrared).mapError (.capture "invalid IR capture: ")
  (cameras.visible.capture.validate .visible).mapError (.capture "invalid visible capture: ")
  cameras.pairing.validate.mapError (.capture "invalid camera pairing: ")

/-! ## Runtime and models -/

/-- ONNX Runtime resource bounds. -/
structure RuntimePolicyConfig where
  libraryPath : UnixPath
  intraThreads : Nat
  interThreads : Nat
  maxModelBytes : Nat
  maxRunMillis : Nat
deriving DecidableEq

/-- Validate resource bounds before touching a runtime or model artifact. -/
def RuntimePolicyConfig.validate (runtime : RuntimePolicyConfig) :
    Except RuntimeConfigError Unit :=
  require (runtime.libraryPath ≠ [] ∧ (1 ≤ runtime.intraThreads ∧ runtime.intraThreads ≤ 16) ∧
    runtime.interThreads = 1 ∧
    (1 ≤ runtime.maxModelBytes ∧ runtime.maxModelBytes ≤ ABSOLUTE_MAX_MODEL_BYTES) ∧
    (1 ≤ runtime.maxRunMillis ∧ runtime.maxRunMillis ≤ ABSOLUTE_MAX_RUN_MILLIS)) .invalidConfig

/-- A root-controlled review artifact identified by its digest. -/
structure ReviewedEvidence where
  path : UnixPath
  sha256 : List UInt8
deriving DecidableEq

/-- A review has an absolute path and a digest. -/
def validateEvidenceConfig (evidence : ReviewedEvidence) : Except ProductionConfigError Unit := do
  requireAbsolute evidence.path "review evidence"
  require (ValidDigest evidence.sha256) (.invalid "review evidence SHA-256 is invalid")

/-- One exact manifest, model artifact, and security review record. -/
structure ModelInstallation where
  role : ModelRole
  manifestPath : UnixPath
  artifactPath : UnixPath
  reviewEvidence : ReviewedEvidence
deriving DecidableEq

/-- Installations one after the other, with the roles before them. -/
def validateInstallations : List ModelRole → List ModelInstallation →
    Except ProductionConfigError (List ModelRole)
  | roles, [] => .ok roles
  | roles, model :: models => do
      require (model.role ∈ REQUIRED_MODEL_ROLES ∧ model.role ∉ roles)
        (.invalid "model roles must be unique and exactly match the required suite")
      requireAbsolute model.manifestPath "model manifest"
      requireAbsolute model.artifactPath "model artifact"
      validateEvidenceConfig model.reviewEvidence
      validateInstallations (roles ++ [model.role]) models

/-- One model is installed for each required role, and no two share a file. -/
def validateModelSuite (models : List ModelInstallation) : Except ProductionConfigError Unit := do
  require (models.length = REQUIRED_MODEL_ROLES.length)
    (.invalid "the exact six-role production model suite is required")
  let roles ← validateInstallations [] models
  require (∀ role ∈ REQUIRED_MODEL_ROLES, role ∈ roles)
    (.invalid "the production model suite is incomplete")

/-! ## Calibration -/

/-- Recognition policy bound to one embedding model. -/
structure RecognitionCalibration where
  embeddingCompatibilitySha256 : List UInt8
  policy : AuthPolicy
  evidence : ReviewedEvidence

/-- Quality calibration bound to the detector and the landmark model. -/
structure QualityCalibration where
  detectorCompatibilitySha256 : List UInt8
  landmarksCompatibilitySha256 : List UInt8
  minimumDetectionConfidence : Float32
  maximumDetectionIou : Float32
  maximumDetectedFaces : Nat
  policy : QualityConfig
  evidence : ReviewedEvidence

/-- The policy on detections that a calibration gives. -/
def QualityCalibration.detectionPolicy (quality : QualityCalibration) : DetectionPolicy where
  minimumConfidence := quality.minimumDetectionConfidence
  maximumIou := quality.maximumDetectionIou
  maximumFaces := quality.maximumDetectedFaces

/-- Presentation-attack identities and hardware-calibrated thresholds. -/
structure PassivePadCalibration where
  infraredCompatibilitySha256 : List UInt8
  minimumInfraredProbability : Float32
  visibleCompatibilitySha256 : List UInt8
  minimumVisibleProbability : Float32
  fusionCompatibilitySha256 : List UInt8
  minimumFusionProbability : Float32
  evidence : ReviewedEvidence

/-- Active-liveness thresholds bound to the landmark model. -/
structure ActiveLivenessCalibration where
  landmarksCompatibilitySha256 : List UInt8
  challenge : ChallengeConfig
  evidence : ReviewedEvidence

/-- The reviewed policy on enrollments. -/
structure EnrollmentCalibration where
  policy : EnrollmentConfig
  evidence : ReviewedEvidence

/-- All calibrated biometric and enrollment policy. -/
structure CalibrationConfig where
  recognition : RecognitionCalibration
  quality : QualityCalibration
  passivePad : PassivePadCalibration
  activeLiveness : ActiveLivenessCalibration
  enrollment : EnrollmentCalibration

/-- The digest, the policy and the review are valid. -/
def RecognitionCalibration.validate (recognition : RecognitionCalibration) :
    Except ProductionConfigError Unit := do
  require (ValidDigest recognition.embeddingCompatibilitySha256)
    (.invalid "recognition embedding compatibility digest is invalid")
  recognition.policy.validate.mapError (.recognition "invalid recognition policy: ")
  require (recognition.policy.capture.requireVisible = true ∧
      recognition.policy.liveness = .passiveAndActive ∧
      recognition.policy.passwordFallback = true)
    (.invalid
      "production recognition requires IR, visible, active liveness, and password fallback")
  validateEvidenceConfig recognition.evidence

/-- The digests, both policies and the review are valid. -/
def QualityCalibration.validate (quality : QualityCalibration) :
    Except ProductionConfigError Unit := do
  require (ValidDigest quality.detectorCompatibilitySha256 ∧
      ValidDigest quality.landmarksCompatibilitySha256)
    (.invalid "quality calibration model compatibility digests are invalid")
  quality.detectionPolicy.validate.mapError fun _ => .invalid "invalid detector calibration"
  quality.policy.validate.mapError (.quality "invalid quality calibration: ")
  validateEvidenceConfig quality.evidence

/-- The digests, the thresholds and the review are valid. -/
def PassivePadCalibration.validate (pad : PassivePadCalibration) :
    Except ProductionConfigError Unit := do
  require (ValidDigest pad.infraredCompatibilitySha256 ∧
      ValidDigest pad.visibleCompatibilitySha256 ∧ ValidDigest pad.fusionCompatibilitySha256 ∧
      UnitScore pad.minimumInfraredProbability ∧ UnitScore pad.minimumVisibleProbability ∧
      UnitScore pad.minimumFusionProbability)
    (.invalid "passive PAD model identities or calibrated thresholds are invalid")
  validateEvidenceConfig pad.evidence

/-- The digest, the challenge and the review are valid. -/
def ActiveLivenessCalibration.validate (active : ActiveLivenessCalibration) :
    Except ProductionConfigError Unit := do
  require (ValidDigest active.landmarksCompatibilitySha256)
    (.invalid "active-liveness landmark compatibility digest is invalid")
  active.challenge.validate.mapError (.challenge "invalid active-liveness calibration: ")
  validateEvidenceConfig active.evidence

/-- The policy and the review are valid. -/
def EnrollmentCalibration.validate (enrollment : EnrollmentCalibration) :
    Except ProductionConfigError Unit := do
  enrollment.policy.validate.mapError (.enrollment "invalid enrollment calibration: ")
  validateEvidenceConfig enrollment.evidence

/-- All five calibrations are valid. -/
def validateCalibration (config : CalibrationConfig) : Except ProductionConfigError Unit := do
  config.recognition.validate
  config.quality.validate
  config.passivePad.validate
  config.activeLiveness.validate
  config.enrollment.validate

/-! ## Services -/

/-- Configurable key sources. -/
inductive StorageKeyConfig where
  | tpm (sealedKeyBlob : UnixPath)
  | rootOnlyFile (keyFile : UnixPath)
deriving DecidableEq

/-- Template directory and machine-key protection. -/
structure StorageConfig where
  templateDirectory : UnixPath
  key : StorageKeyConfig
  recoveryEvidence : ReviewedEvidence
deriving DecidableEq

/-- The directory and the key have absolute paths, and recovery was reviewed. -/
def StorageConfig.validate (storage : StorageConfig) : Except ProductionConfigError Unit := do
  requireAbsolute storage.templateDirectory "template directory"
  match storage.key with
  | .tpm sealedKeyBlob => requireAbsolute sealedKeyBlob "TPM sealed-key blob"
  | .rootOnlyFile keyFile => requireAbsolute keyFile "file-key path"
  validateEvidenceConfig storage.recoveryEvidence

/-- Exact executable-bound authorization rules. -/
structure AuthorizationConfig where
  rules : List AuthorizationRule
  reviewEvidence : ReviewedEvidence
deriving DecidableEq

/-- Every purpose of a list has a rule. -/
def requirePurposes (rules : List AuthorizationRule) :
    List AuthenticationPurpose → Except ProductionConfigError Unit
  | [] => .ok ()
  | purpose :: purposes => do
      require (∃ rule ∈ rules, rule.purpose = purpose) (.missingBoundary purpose)
      requirePurposes rules purposes

/-- The services that the daemon needs have their rules. -/
def validateRequiredAuthorizationRules (rules : List AuthorizationRule) :
    Except ProductionConfigError Unit := do
  requirePurposes rules [.screenUnlock, .login, .polkit]
  require (∃ rule ∈ rules, rule.service.value = ENROLLMENT_SERVICE ∧ rule.purpose = .polkit ∧
      rule.caller = .rootOnly)
    (.invalid "authorization policy lacks the exact root faceauth-enroll Polkit rule")

/-- The rules make a policy, have what is required, and were reviewed. -/
def AuthorizationConfig.validate (authorization : AuthorizationConfig) :
    Except ProductionConfigError Unit := do
  let _ ← (AuthorizationPolicy.new authorization.rules).mapError
    (.authorization "invalid authorization policy: ")
  validateRequiredAuthorizationRules authorization.rules
  validateEvidenceConfig authorization.reviewEvidence

/-- The management interface of the daemon. -/
structure ManagementServiceConfig where
  enabled : Bool
  operationDurationMicros : Nat
  policyReviewEvidence : ReviewedEvidence
deriving DecidableEq

/-- The interface is enabled with a bounded duration, and was reviewed. -/
def ManagementServiceConfig.validate (management : ManagementServiceConfig) :
    Except ProductionConfigError Unit := do
  require (management.enabled = true)
    (.invalid "Manager1 must be enabled in production configuration")
  (ManagementConfig.validate ⟨management.operationDurationMicros⟩).mapError
    (.management "invalid Manager1 policy: ")
  validateEvidenceConfig management.policyReviewEvidence

/-- The polling and the timeouts of the supervisor. -/
structure SupervisionPolicyConfig where
  pollIntervalMillis : Nat
  shutdownGraceMillis : Nat
  maxServices : Nat
deriving DecidableEq

/-- The supervisor that a configuration describes. -/
def SupervisionPolicyConfig.supervisor (supervision : SupervisionPolicyConfig) :
    SupervisorConfig where
  pollInterval := supervision.pollIntervalMillis * 1_000_000
  shutdownGrace := supervision.shutdownGraceMillis * 1_000_000
  maxServices := supervision.maxServices

/-- Authentication socket bounds and mandatory recovery behavior. -/
structure AuthenticationBoundaryConfig where
  socketPath : UnixPath
  socketMode : Nat
  maxMessageBytes : Nat
  ioTimeoutMillis : Nat
  transactionDurationMicros : Nat
  passwordFallbackMandatory : Bool
  recoveryTestEvidence : ReviewedEvidence
deriving DecidableEq

/-- The modes `0600` and `0660` are 384 and 432. -/
def validateAuthenticationBoundary (config : AuthenticationBoundaryConfig) :
    Except ProductionConfigError Unit := do
  requireAbsolute config.socketPath "authentication socket"
  require (config.socketMode = 384 ∨ config.socketMode = 432)
    (.invalid "authentication socket mode must be 0600 or 0660")
  (TransportConfig.validate ⟨config.maxMessageBytes, config.ioTimeoutMillis * 1_000⟩).mapError
    (.transport "invalid transport policy: ")
  (SessionConfig.validate ⟨config.transactionDurationMicros⟩).mapError
    (.session "invalid session policy: ")
  require (config.passwordFallbackMandatory = true)
    (.invalid "password fallback must be mandatory")
  validateEvidenceConfig config.recoveryTestEvidence

/-! ## The configuration -/

/-- Strict, administrator-controlled configuration of the production daemon. -/
structure ProductionConfig where
  schemaVersion : Nat
  cameras : ProductionCameraConfig
  runtime : RuntimePolicyConfig
  models : List ModelInstallation
  calibration : CalibrationConfig
  storage : StorageConfig
  authorization : AuthorizationConfig
  management : ManagementServiceConfig
  supervision : SupervisionPolicyConfig
  authenticationBoundary : AuthenticationBoundaryConfig

/-- Validate configuration without probing hardware or referenced files. -/
def ProductionConfig.validate (config : ProductionConfig) : Except ProductionConfigError Unit := do
  require (config.schemaVersion = PRODUCTION_CONFIG_SCHEMA_VERSION)
    (.unsupportedSchema config.schemaVersion PRODUCTION_CONFIG_SCHEMA_VERSION)
  config.cameras.validate
  require (config.runtime.libraryPath.IsAbsolute)
    (.invalid "runtime library path must be absolute")
  config.runtime.validate.mapError (.runtime "invalid runtime policy: ")
  validateModelSuite config.models
  validateCalibration config.calibration
  config.storage.validate
  config.authorization.validate
  config.management.validate
  config.supervision.supervisor.validate.mapError
    (.supervision "invalid service supervision policy: ")
  validateAuthenticationBoundary config.authenticationBoundary

end FaceAuth
