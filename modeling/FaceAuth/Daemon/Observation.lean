import FaceAuth.Capture.Pairing
import FaceAuth.Daemon.Engine
import FaceAuth.Foundation.History
import FaceAuth.Liveness.Challenge
import FaceAuth.Quality.Config

/-!
# The observation session

One session captures frame pairs, challenges the user with them and derives the
observations that its callback asks for. What it meets outside are the cameras,
the models, the cancellation signal and its callbacks, each of which answers by
what has happened before.
-/

namespace FaceAuth

open Foundation

/-- How many pairs beyond those of the challenge are captured at most. -/
def MAX_DERIVED_OBSERVATION_ATTEMPTS : Nat := 32

/-- Closed, desktop-independent progress of the shared vision pipeline. -/
inductive ObservationProgress where
  | positionFace | holdStill | blink | turnLeft | turnRight | returnToCenter | processing
deriving DecidableEq, Repr

/-- Sanitized runtime failure of the shared pipeline. -/
inductive ObservationFailure where
  | cancelled | capture | inference | liveness | invalidEvidence | attemptLimit | internal
deriving DecidableEq, Repr

/-- How working on a pair can fail: for good, or until the user has moved. -/
inductive AttemptFailure where
  | retryPosition
  | fatal (failure : ObservationFailure)
deriving DecidableEq, Repr

/-- The measurements of one face that the session reads itself. -/
structure FacialLandmarks where
  eyeOpenness : Float32
  yawDegrees : Float32
deriving DecidableEq

/-- One fully derived, model-bound observation. -/
structure DerivedBiometricObservation where
  timing : CapturePair
  quality : Float32
  yawDegrees : Float32
  embedding : FaceEmbedding
  passiveLiveness : List PassiveLivenessScore
  completedAtMicros : Nat
deriving DecidableEq

/-- Bounds of face detection. -/
structure DetectionPolicy where
  minimumConfidence : Float32
  maximumIou : Float32
  maximumFaces : Nat

/-- Thresholds are scores, and some face is allowed. -/
def DetectionPolicy.validate (policy : DetectionPolicy) : Except AuthenticationEngineFailure Unit :=
  require (UnitScore policy.minimumConfidence ∧ UnitScore policy.maximumIou ∧
    1 ≤ policy.maximumFaces ∧ policy.maximumFaces ≤ 64) .invalidEvidence

/-- The single owner of the cameras and the models, with its policies. -/
structure ProductionObservationPipeline where
  warmupFrames : CaptureModality → Nat
  pairing : PairingPolicy
  detection : DetectionPolicy
  quality : QualityConfig

/-- What the session remembers of the pair before. -/
structure FreshPairIdentity where
  infraredSequence : UInt32
  visibleSequence : UInt32
  timestampMicros : Nat
deriving DecidableEq, Repr

namespace FreshPairIdentity

/-- What identifies a pair. -/
def fromPair (pair : PairedFrames) : FreshPairIdentity where
  infraredSequence := pair.infrared.summary.sequence
  visibleSequence := pair.visible.summary.sequence
  timestampMicros := match pair.timing.visibleTimestampMicros with
    | none => pair.timing.infraredTimestampMicros
    | some visible => max pair.timing.infraredTimestampMicros visible

/-- Both sequences and both timestamps have gone on. -/
def IsFreshAfter (identity previous : FreshPairIdentity) : Prop :=
  identity.infraredSequence ≠ previous.infraredSequence ∧
    identity.visibleSequence ≠ previous.visibleSequence ∧
    previous.timestampMicros < identity.timestampMicros

instance (identity previous : FreshPairIdentity) : Decidable (identity.IsFreshAfter previous) :=
  inferInstanceAs (Decidable (_ ∧ _ ∧ _))

end FreshPairIdentity

/-- The model work on one pair. -/
inductive VisionStep where
  | preprocess (role : ModelRole)
  | preprocessNamed (camera : CaptureModality)
  | run (role : ModelRole)
  | detections | faceRegion | landmarks | quality | imageLandmarks | embedding
  | passiveLiveness (role : ModelRole)
deriving DecidableEq, Repr

/-- The steps that find out whether a pair shows one whole face, and where it is. -/
def VisionStep.Locates : VisionStep → Prop
  | .detections | .faceRegion | .preprocess .faceLandmarks | .landmarks => True
  | _ => False

/-- What a session does, as it is seen from outside. -/
inductive ObservationEvent where
  | polled (cancelled : Bool)
  | opened (camera : CaptureModality)
  | read (camera : CaptureModality)
  | captured (pair : PairedFrames)
  | admitted (pair : PairedFrames)
  | worked (step : VisionStep)
  | processed (pair : PairedFrames) (outcome : Except AttemptFailure FacialLandmarks)
  | drawn
  | challenged (pair : PairedFrames) (result : Except ChallengeError ChallengeProgress)
  | reported (progress : ObservationProgress)
  | observed (pair : PairedFrames) (observation : DerivedBiometricObservation)

/-- Everything that a session did so far, in order. -/
abbrev ObservationHistory : Type := List ObservationEvent

/-- A part of a session, which adds to its history. -/
abbrev Observing (Error Value : Type) : Type := Stepwise ObservationHistory Error Value

/-- The cameras, models, callbacks and signals of one session. Work on an image polls for
cancellation at each of a number of rows. -/
structure ObservationEnvironment (Value : Type) where
  cancelled : ObservationHistory → Bool
  stream : CaptureModality → ObservationHistory → Except CaptureError Unit
  frame : CaptureModality → ObservationHistory → Except CaptureError CapturedFrame
  rows : VisionStep → ObservationHistory → Nat
  work : VisionStep → ObservationHistory → Except InferenceError Unit
  faces : ObservationHistory → Except InferenceError Nat
  landmarks : ObservationHistory → Except InferenceError FacialLandmarks
  quality : ObservationHistory → Except QualityError Float32
  embedding : ObservationHistory → Except InferenceError FaceEmbedding
  passiveLiveness : ModelRole → ObservationHistory → Except InferenceError PassiveLivenessScore
  random : ObservationHistory → Except ChallengeError ChallengeAction
  progress : ObservationProgress → ObservationHistory → Except ObservationFailure Unit
  observe : DerivedBiometricObservation → ObservationHistory →
    Except ObservationFailure (Option Value)

/-- Ask outside, and note what was asked. -/
def answer {Error Value : Type} (event : ObservationEvent)
    (look : ObservationHistory → Except Error Value) : Observing Error Value :=
  .act fun history => (look history, history ++ [event])

/-- Record an event. -/
def note {Error : Type} (event : ObservationEvent) : Observing Error Unit :=
  .change fun history => history ++ [event]

/-- End with an error. -/
def fail {Error Value : Type} (error : Error) : Observing Error Value := .ofExcept (.error error)

/-- An image in a pixel encoding that a model reads directly. -/
structure ImageView where
  width : UInt32
  height : UInt32
  format : PixelFormat
  bytes : List UInt8

/-- The view of a frame that the models work on. -/
def inferenceFrameView (frame : CapturedFrame) : Except InferenceError ImageView :=
  match frame.summary.format.pixelFormat with
  | .mjpeg => .error .sourceImageInvalid
  | format => .ok ⟨frame.summary.format.width, frame.summary.format.height, format, frame.data⟩

/-- The view of a frame that the quality is measured on. -/
def qualityFrameView (frame : CapturedFrame) : Except QualityError ImageView :=
  match frame.summary.format.pixelFormat with
  | .mjpeg => .error .unsupportedImageFormat
  | format => .ok ⟨frame.summary.format.width, frame.summary.format.height, format, frame.data⟩

/-- One face, and no other. -/
def requireSingleFace (faces : Nat) : Except InferenceError Unit :=
  match faces with
  | 1 => .ok ()
  | 0 => .error .noFaceDetected
  | faces => .error (.multipleFacesDetected faces)

/-- The prompt for the state of a challenge. -/
def observationProgress : ChallengeProgress → ObservationProgress
  | .baselineRequired => .holdStill
  | .actionRequired .blink => .blink
  | .actionRequired .turnLeft => .turnLeft
  | .actionRequired .turnRight => .turnRight
  | .recoveryRequired => .returnToCenter
  | .passed => .processing

namespace ObservationEnvironment

variable {Value : Type} (environment : ObservationEnvironment Value)

/-! ## Cancellation -/

/-- Ask whether the caller has cancelled. -/
def poll {Error : Type} : Observing Error Bool :=
  .act fun history =>
    (.ok (environment.cancelled history), history ++ [.polled (environment.cancelled history)])

/-- Stop when the caller has cancelled. -/
def ensureActive : Observing ObservationFailure Unit := do
  if ← environment.poll then fail .cancelled else pure ()

/-- The failure to report, unless the session was cancelled. -/
def failure {Error : Type} (failure : ObservationFailure) : Observing Error ObservationFailure := do
  return if ← environment.poll then .cancelled else failure

/-- A capture that failed, or was cancelled. -/
def captureFailure {Error : Type} : Observing Error ObservationFailure :=
  environment.failure .capture

/-- An inference that failed, or was cancelled. -/
def inferenceFailure {Error : Type} : Observing Error ObservationFailure :=
  environment.failure .inference

/-- A challenge that failed, or was cancelled. -/
def livenessFailure {Error : Type} : Observing Error ObservationFailure :=
  environment.failure .liveness

/-- Evidence that is invalid, or work that was cancelled. -/
def invalidEvidenceFailure {Error : Type} : Observing Error ObservationFailure :=
  environment.failure .invalidEvidence

/-! ## Cameras and models -/

/-- Both cameras as sources of frames. -/
def sources : FrameSources ObservationHistory where
  nextFrame camera history := (environment.frame camera history, history ++ [.read camera])
  shouldCancel history :=
    (environment.cancelled history, history ++ [.polled (environment.cancelled history)])

/-- Read frames that are not used. -/
def discard (camera : CaptureModality) : Nat → Observing CaptureError Unit
  | 0 => pure ()
  | frames + 1 => do
      let _ ← .act (environment.sources.nextFrame camera)
      discard camera frames

/-- Start a stream and discard its warm-up frames. -/
def openStream (camera : CaptureModality) (warmupFrames : Nat) : Observing CaptureError Unit := do
  answer (.opened camera) (environment.stream camera)
  environment.discard camera warmupFrames

/-- Poll once for each row, and stop when the session was cancelled. -/
def checkRows {Error : Type} (cancelled : Error) : Nat → Observing Error Unit
  | 0 => pure ()
  | rows + 1 => do
      if ← environment.poll then fail cancelled else checkRows cancelled rows

/-- Make a tensor for a step, row by row. -/
def preprocess (step : VisionStep) : Observing InferenceError Unit := do
  let rows ← .ask fun history => .ok (environment.rows step history)
  environment.checkRows .cancelled rows
  answer (.worked step) (environment.work step)

/-- View a frame and make a tensor of it for a step. -/
def preprocessFrame (step : VisionStep) (frame : CapturedFrame) :
    Observing InferenceError Unit := do
  let _ ← .ofExcept (inferenceFrameView frame)
  environment.preprocess step

/-- Run the session of a step. -/
def perform (step : VisionStep) : Observing InferenceError Unit :=
  answer (.worked step) (environment.work step)

/-- Count the faces that the detector finds. -/
def extractFaceDetections : Observing InferenceError Nat :=
  answer (.worked .detections) environment.faces

/-- Locate the landmarks of the face. -/
def extractFaceLandmarks : Observing InferenceError FacialLandmarks :=
  answer (.worked .landmarks) environment.landmarks

/-- Compute the embedding of the face. -/
def extractEmbedding : Observing InferenceError FaceEmbedding :=
  answer (.worked .embedding) environment.embedding

/-- Score the face under one of the passive roles. -/
def extractPassiveLiveness (role : ModelRole) : Observing InferenceError PassiveLivenessScore :=
  answer (.worked (.passiveLiveness role)) (environment.passiveLiveness role)

/-- Score the quality of the face in a frame. -/
def assessLandmarkFrameQuality (frame : CapturedFrame) : Observing QualityError Float32 := do
  let _ ← .ofExcept (qualityFrameView frame)
  let rows ← .ask fun history => .ok (environment.rows .quality history)
  environment.checkRows .cancelled rows
  answer (.worked .quality) environment.quality

/-! ## One pair -/

/-- A failed step is fatal to the session. -/
def orFatal {Answer : Type} (step : Observing InferenceError Answer) :
    Observing AttemptFailure Answer :=
  step.rescue fun _ => do fail (.fatal (← environment.inferenceFailure))

/-- A face at the edge of the image asks the user to move. -/
def orReposition (step : Observing InferenceError Unit) : Observing AttemptFailure Unit :=
  step.rescue fun
    | .faceRegionOutsideImage => fail .retryPosition
    | _ => do fail (.fatal (← environment.inferenceFailure))

/-- Stop for good when the caller has cancelled. -/
def stillActive : Observing AttemptFailure Unit :=
  environment.ensureActive.rescue fun failure => fail (.fatal failure)

/-- Detect the one face of a pair and locate its landmarks. -/
def processPair (pair : PairedFrames) : Observing AttemptFailure FacialLandmarks := do
  environment.orFatal (environment.preprocessFrame (.preprocess .faceDetector) pair.visible)
  environment.stillActive
  environment.orFatal (environment.perform (.run .faceDetector))
  environment.stillActive
  let faces ← environment.orFatal environment.extractFaceDetections
  match requireSingleFace faces with
  | .error .noFaceDetected => fail .retryPosition
  | .error (.multipleFacesDetected _) => fail .retryPosition
  | .error _ => do fail (.fatal (← environment.inferenceFailure))
  | .ok () =>
      environment.orReposition (environment.perform .faceRegion)
      let _ ← environment.orFatal (.ofExcept (inferenceFrameView pair.visible))
      environment.orReposition (environment.preprocess (.preprocess .faceLandmarks))
      environment.stillActive
      environment.orFatal (environment.perform (.run .faceLandmarks))
      environment.stillActive
      environment.orFatal environment.extractFaceLandmarks

/-- A failed step ends the derivation. -/
def orInference {Answer : Type} (step : Observing InferenceError Answer) :
    Observing ObservationFailure Answer :=
  step.rescue fun _ => do fail (← environment.inferenceFailure)

/-- Score and embed one pair. -/
def deriveObservation (pair : PairedFrames) (landmarks : FacialLandmarks) :
    Observing ObservationFailure DerivedBiometricObservation := do
  let quality ← (environment.assessLandmarkFrameQuality pair.visible).rescue fun _ => do
    fail (← environment.invalidEvidenceFailure)
  environment.orInference (environment.perform .imageLandmarks)
  let _ ← environment.orInference (.ofExcept (inferenceFrameView pair.visible))
  environment.orInference (environment.preprocess (.preprocess .faceEmbedding))
  environment.ensureActive
  environment.orInference (environment.perform (.run .faceEmbedding))
  environment.ensureActive
  let embedding ← environment.orInference environment.extractEmbedding
  environment.orInference
    (environment.preprocessFrame (.preprocess .passiveLivenessInfrared) pair.infrared)
  environment.orInference
    (environment.preprocessFrame (.preprocess .passiveLivenessVisible) pair.visible)
  environment.orInference (environment.preprocessFrame (.preprocessNamed .infrared) pair.infrared)
  environment.orInference (environment.preprocessFrame (.preprocessNamed .visible) pair.visible)
  environment.ensureActive
  environment.orInference (environment.perform (.run .passiveLivenessInfrared))
  environment.ensureActive
  environment.orInference (environment.perform (.run .passiveLivenessVisible))
  environment.ensureActive
  environment.orInference (environment.perform (.run .passiveLivenessFusion))
  environment.ensureActive
  let infrared ← environment.orInference
    (environment.extractPassiveLiveness .passiveLivenessInfrared)
  let visible ← environment.orInference
    (environment.extractPassiveLiveness .passiveLivenessVisible)
  let fusion ← environment.orInference
    (environment.extractPassiveLiveness .passiveLivenessFusion)
  return {
    timing := pair.timing
    quality
    yawDegrees := landmarks.yawDegrees
    embedding
    passiveLiveness := [infrared, visible, fusion]
    completedAtMicros := (FreshPairIdentity.fromPair pair).timestampMicros }

/-! ## The session -/

/-- Tell the caller of progress. -/
def report (progress : ObservationProgress) : Observing ObservationFailure Unit :=
  answer (.reported progress) (environment.progress progress)

/-- Begin a challenge for an action drawn at random. -/
def begin (config : ChallengeConfig) (issuedAtMicros : Nat) :
    Observing ChallengeError ChallengeSession := do
  let action ← answer .drawn environment.random
  .ofExcept (ChallengeSession.withAction config issuedAtMicros action)

/-- The challenge of a session, which the first pair with one face begins. -/
def activeChallenge (challenge : Option ChallengeSession) (config : ChallengeConfig)
    (observationTime : Nat) : Observing ObservationFailure ChallengeSession :=
  match challenge with
  | some active => pure active
  | none => (environment.begin config observationTime).rescue fun _ => fail .liveness

/-- Offer a pair to the challenge. -/
def advanceChallenge (challenge : Option ChallengeSession) (config : ChallengeConfig)
    (pair : PairedFrames) (landmarks : FacialLandmarks) :
    Observing ObservationFailure (ChallengeProgress × ChallengeSession) := do
  let active ← environment.activeChallenge challenge config
    (FreshPairIdentity.fromPair pair).timestampMicros
  let shouldCancel ← environment.poll
  let observed := active.observeCancellable {
    timing := pair.timing
    infraredSequence := pair.infrared.summary.sequence
    visibleSequence := pair.visible.summary.sequence
    faceCount := 1
    eyeOpenness := landmarks.eyeOpenness
    yawDegrees := landmarks.yawDegrees } shouldCancel
  note (.challenged pair observed.1)
  match observed.1 with
  | .ok progress => return (progress, observed.2)
  | .error _ => do fail (← environment.livenessFailure)

/-- What a session remembers between two pairs. -/
structure Locals where
  challenge : Option ChallengeSession
  challengePassed : Bool
  lastProgress : Option ObservationProgress
  previousPair : Option FreshPairIdentity
  derivedAttempts : Nat

/-- Before the first pair. -/
def Locals.start : Locals where
  challenge := none
  challengePassed := false
  lastProgress := none
  previousPair := none
  derivedAttempts := 0

/-- Derive an observation for the callback, which ends the session when it has enough. -/
def observePair (locals : Locals) (pair : PairedFrames) (landmarks : FacialLandmarks) :
    Observing ObservationFailure (Locals ⊕ Value) := do
  environment.report .processing
  let derived ← environment.deriveObservation pair landmarks
  let enough ← answer (.observed pair derived) (environment.observe derived)
  match enough with
  | some value => return .inr value
  | none =>
      let locals := { locals with derivedAttempts := locals.derivedAttempts + 1 }
      if locals.derivedAttempts < MAX_DERIVED_OBSERVATION_ATTEMPTS then
        environment.report .holdStill
        return .inl locals
      else
        fail .attemptLimit

/-- Use a pair with one face for the challenge, and for an observation after it. -/
def judgePair (config : ChallengeConfig) (locals : Locals) (pair : PairedFrames)
    (landmarks : FacialLandmarks) : Observing ObservationFailure (Locals ⊕ Value) := do
  if locals.challengePassed then
    environment.observePair locals pair landmarks
  else
    let (state, challenge) ←
      environment.advanceChallenge locals.challenge config pair landmarks
    let locals := { locals with challenge := some challenge }
    if state = .passed then
      environment.observePair { locals with challengePassed := true } pair landmarks
    else if locals.lastProgress = some (observationProgress state) then
      return .inl locals
    else
      environment.report (observationProgress state)
      return .inl { locals with lastProgress := some (observationProgress state) }

/-- Capture the next pair, and use it if it is fresh and shows one face. -/
def nextPair (pairing : PairingPolicy) (config : ChallengeConfig) (locals : Locals) :
    Observing ObservationFailure (Locals ⊕ Value) := do
  environment.ensureActive
  let pair ← (capturePairCancellable environment.sources pairing).rescue fun _ => do
    fail (← environment.captureFailure)
  note (.captured pair)
  let identity := FreshPairIdentity.fromPair pair
  if locals.previousPair.any fun previous => ¬ identity.IsFreshAfter previous then
    fail .invalidEvidence
  else
    note (.admitted pair)
    let locals := { locals with previousPair := some identity }
    let outcome ← (environment.processPair pair).attempt
    note (.processed pair outcome)
    match outcome with
    | .ok landmarks => environment.judgePair config locals pair landmarks
    | .error .retryPosition =>
        environment.report .positionFace
        return .inl locals
    | .error (.fatal failure) => fail failure

/-- The pairs of a session, until the capture attempts that remain are used up. -/
def runPairs (pairing : PairingPolicy) (config : ChallengeConfig) :
    Nat → Locals → Observing ObservationFailure Value
  | 0, _ => do
      environment.ensureActive
      fail .attemptLimit
  | remaining + 1, locals => do
      match ← environment.nextPair pairing config locals with
      | .inl locals => runPairs pairing config remaining locals
      | .inr value => return value

end ObservationEnvironment

open ObservationEnvironment in
/-- Capture one active challenge followed by fresh derived observations. -/
def ProductionObservationPipeline.runSession {Value : Type}
    (pipeline : ProductionObservationPipeline) (environment : ObservationEnvironment Value)
    (config : ChallengeConfig) : Observing ObservationFailure Value := do
  .ofExcept (pipeline.pairing.validate.mapError fun _ => .capture)
  .ofExcept (pipeline.detection.validate.mapError fun _ => .invalidEvidence)
  .ofExcept (pipeline.quality.validate.mapError fun _ => .invalidEvidence)
  .ofExcept (config.validate.mapError fun _ => .liveness)
  environment.ensureActive
  (environment.openStream .infrared (pipeline.warmupFrames .infrared)).rescue fun _ => do
    fail (← environment.captureFailure)
  (environment.openStream .visible (pipeline.warmupFrames .visible)).rescue fun _ => do
    fail (← environment.captureFailure)
  environment.report .positionFace
  environment.runPairs pipeline.pairing config
    (config.maxObservations * 2 + MAX_DERIVED_OBSERVATION_ATTEMPTS) .start

/-! ## What the work on a pair adds to the history -/

/-- An event of the work on a pair, and not about what becomes of the pair. -/
def ObservationEvent.IsBackground : ObservationEvent → Prop
  | .polled _ | .opened _ | .read _ | .worked _ | .drawn => True
  | _ => False

/-- An event of the work on a pair that tells nothing of its faces. -/
def ObservationEvent.IsQuiet : ObservationEvent → Prop
  | .worked step => ¬ step.Locates
  | event => event.IsBackground

namespace ObservationEnvironment

section Quiet

variable {Value Answer Error : Type} {environment : ObservationEnvironment Value}

/-- A part of a session that adds quiet events only. -/
def Quiet (part : Observing Error Answer) : Prop := part.Appends ObservationEvent.IsQuiet

/-- A step that locates no face is quiet. -/
theorem quiet_worked {step : VisionStep} (other : ¬ step.Locates)
    (look : ObservationHistory → Except Error Answer) : Quiet (answer (.worked step) look) :=
  .act fun _ => other

/-- Asking for a cancellation is quiet. -/
theorem quiet_poll : Quiet (environment.poll : Observing Error Bool) := .act fun _ => trivial

/-- Failing is quiet. -/
theorem quiet_fail (error : Error) : Quiet (fail error : Observing Error Answer) := .ofExcept _

/-- Checking for a cancellation is quiet. -/
theorem quiet_ensureActive : Quiet environment.ensureActive := by
  refine quiet_poll.bind fun cancelled => ?_
  split
  · exact quiet_fail _
  · exact .pure _

/-- Naming a failure is quiet. -/
theorem quiet_failure (failure : ObservationFailure) :
    Quiet (environment.failure failure : Observing Error ObservationFailure) :=
  quiet_poll.bind fun _ => .pure _

/-- Reporting a failure asks only whether the session was cancelled. -/
theorem quiet_fail_failure (failure : ObservationFailure) (wrap : ObservationFailure → Error) :
    Quiet (do fail (wrap (← environment.failure failure)) : Observing Error Answer) :=
  (quiet_failure failure).bind fun _ => quiet_fail _

/-- Discarding frames is quiet. -/
theorem quiet_discard (camera : CaptureModality) (frames : Nat) :
    Quiet (environment.discard camera frames) := by
  induction frames with
  | zero => exact .pure _
  | succ frames ih => exact Stepwise.Appends.bind (.act fun _ => trivial) fun _ => ih

/-- Opening a stream is quiet. -/
theorem quiet_openStream (camera : CaptureModality) (warmupFrames : Nat) :
    Quiet (environment.openStream camera warmupFrames) :=
  Stepwise.Appends.bind (.act fun _ => trivial) fun _ => quiet_discard camera warmupFrames

/-- Checking between the rows is quiet. -/
theorem quiet_checkRows (cancelled : Error) (rows : Nat) :
    Quiet (environment.checkRows cancelled rows) := by
  induction rows with
  | zero => exact .pure _
  | succ rows ih =>
      refine quiet_poll.bind fun _ => ?_
      split
      · exact quiet_fail _
      · exact ih

/-- Making a tensor for a step that locates no face is quiet. -/
theorem quiet_preprocess {step : VisionStep} (other : ¬ step.Locates) :
    Quiet (environment.preprocess step) := by
  refine Stepwise.Appends.bind (.ask _) fun rows => ?_
  exact (quiet_checkRows _ rows).bind fun _ => quiet_worked other _

/-- Making a tensor of a frame for such a step is quiet. -/
theorem quiet_preprocessFrame {step : VisionStep} (other : ¬ step.Locates)
    (frame : CapturedFrame) : Quiet (environment.preprocessFrame step frame) :=
  Stepwise.Appends.bind (.ofExcept _) fun _ => quiet_preprocess other

/-- Assessing the quality is quiet. -/
theorem quiet_assessLandmarkFrameQuality (frame : CapturedFrame) :
    Quiet (environment.assessLandmarkFrameQuality frame) := by
  refine Stepwise.Appends.bind (.ofExcept _) fun _ => ?_
  refine Stepwise.Appends.bind (.ask _) fun rows => ?_
  exact (quiet_checkRows _ rows).bind fun _ => quiet_worked id _

/-- Failing for good is as quiet as the step that fails. -/
theorem quiet_orFatal {step : Observing InferenceError Answer} (quiet : Quiet step) :
    Quiet (environment.orFatal step) :=
  quiet.rescue fun _ => quiet_fail_failure _ _

/-- Telling of a failed inference is as quiet as the step that fails. -/
theorem quiet_orInference {step : Observing InferenceError Answer} (quiet : Quiet step) :
    Quiet (environment.orInference step) :=
  quiet.rescue fun _ => quiet_fail_failure _ id

/-- Checking for a cancellation on the way is quiet. -/
theorem quiet_stillActive : Quiet environment.stillActive :=
  quiet_ensureActive.rescue fun _ => quiet_fail _

/-- Scoring and embedding a pair is quiet. -/
theorem quiet_deriveObservation (pair : PairedFrames) (landmarks : FacialLandmarks) :
    Quiet (environment.deriveObservation pair landmarks) := by
  have performed : ∀ {step : VisionStep}, ¬ step.Locates →
      Quiet (environment.orInference (environment.perform step)) :=
    fun other => quiet_orInference (quiet_worked other _)
  have scored : ∀ role, Quiet (environment.orInference (environment.extractPassiveLiveness role)) :=
    fun role => quiet_orInference (quiet_worked id _)
  have framed : ∀ {step : VisionStep} (frame), ¬ step.Locates → Quiet
      (environment.orInference (environment.preprocessFrame step frame)) :=
    fun frame other => quiet_orInference (quiet_preprocessFrame other frame)
  have aligned : Quiet (environment.orInference
      (environment.preprocess (.preprocess .faceEmbedding))) :=
    quiet_orInference (quiet_preprocess id)
  have embedded : Quiet (environment.orInference environment.extractEmbedding) :=
    quiet_orInference (quiet_worked id _)
  have assessed : Quiet ((environment.assessLandmarkFrameQuality pair.visible).rescue fun _ => do
      fail (← environment.invalidEvidenceFailure) : Observing ObservationFailure Float32) :=
    (quiet_assessLandmarkFrameQuality _).rescue fun _ => quiet_fail_failure _ id
  unfold ObservationEnvironment.deriveObservation
  apply Stepwise.Appends.bind assessed
  intro _
  apply Stepwise.Appends.bind (performed id)
  intro _
  apply Stepwise.Appends.bind (quiet_orInference (.ofExcept _))
  intro _
  apply Stepwise.Appends.bind aligned
  intro _
  apply Stepwise.Appends.bind quiet_ensureActive
  intro _
  apply Stepwise.Appends.bind (performed id)
  intro _
  apply Stepwise.Appends.bind quiet_ensureActive
  intro _
  apply Stepwise.Appends.bind embedded
  intro _
  apply Stepwise.Appends.bind (framed _ id)
  intro _
  apply Stepwise.Appends.bind (framed _ id)
  intro _
  apply Stepwise.Appends.bind (framed _ id)
  intro _
  apply Stepwise.Appends.bind (framed _ id)
  intro _
  apply Stepwise.Appends.bind quiet_ensureActive
  intro _
  apply Stepwise.Appends.bind (performed id)
  intro _
  apply Stepwise.Appends.bind quiet_ensureActive
  intro _
  apply Stepwise.Appends.bind (performed id)
  intro _
  apply Stepwise.Appends.bind quiet_ensureActive
  intro _
  apply Stepwise.Appends.bind (performed id)
  intro _
  apply Stepwise.Appends.bind quiet_ensureActive
  intro _
  apply Stepwise.Appends.bind (scored _)
  intro _
  apply Stepwise.Appends.bind (scored _)
  intro _
  apply Stepwise.Appends.bind (scored _)
  intro _
  exact .pure _

/-- Capturing a pair is quiet. -/
theorem quiet_capturePairCancellable (policy : PairingPolicy) :
    Quiet (capturePairCancellable environment.sources policy) := by
  have share : environment.sources.Share Quiet :=
    { frame := fun _ => .act fun _ => trivial
      signal := .act fun _ => trivial
      ofExcept := .ofExcept
      bind := .bind }
  exact share.capturePairCancellable

end Quiet

end ObservationEnvironment

end FaceAuth
