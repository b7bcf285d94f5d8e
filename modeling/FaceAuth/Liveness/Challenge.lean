import FaceAuth.Core.Policy

/-!
# The active-liveness challenge

A bounded randomized challenge over fresh paired observations: a neutral
baseline, the requested action held over a minimum time, and a return to the
neutral pose.
-/

namespace FaceAuth

open Foundation

/-- Randomized action requested from the user. -/
inductive ChallengeAction where
  | blink | turnLeft | turnRight
deriving DecidableEq, Repr

/-- Active challenge failure. -/
inductive ChallengeError where
  | invalidConfig
  | cancelled
  | deadlineOverflow
  | random
  | visibleFrameRequired
  | invalidFramePair
  | singleFaceRequired (actual : Nat)
  | invalidMeasurement
  | nonIncreasingTimestamp
  | predatesChallenge
  | repeatedCameraFrame
  | expired
  | observationBudgetExhausted
  | alreadyCompleted
deriving DecidableEq, Repr

/-- Calibrated bounds for one active challenge. -/
structure ChallengeConfig where
  maxPairSkewMicros : Nat
  durationMicros : Nat
  maxObservations : Nat
  openEyeThreshold : Float32
  closedEyeThreshold : Float32
  neutralYawDegrees : Float32
  turnYawDegrees : Float32
  actionConsecutiveObservations : Nat
  minimumActionDurationMicros : Nat
  recoveryConsecutiveObservations : Nat
deriving DecidableEq

namespace ChallengeConfig

/-- The eye thresholds are unit scores, the closed one below the open one. -/
def ScoresValid (config : ChallengeConfig) : Prop :=
  UnitScore config.openEyeThreshold ∧ UnitScore config.closedEyeThreshold ∧
    config.closedEyeThreshold < config.openEyeThreshold

instance (config : ChallengeConfig) : Decidable config.ScoresValid :=
  inferInstanceAs (Decidable (_ ∧ _ ∧ _))

/-- The yaw bounds are finite angles, the neutral one below the turn. -/
def YawValid (config : ChallengeConfig) : Prop :=
  config.neutralYawDegrees.isFinite = true ∧ config.turnYawDegrees.isFinite = true ∧
    (0.0 ≤ config.neutralYawDegrees ∧ config.neutralYawDegrees ≤ 45.0) ∧
    (5.0 ≤ config.turnYawDegrees ∧ config.turnYawDegrees ≤ 75.0) ∧
    config.neutralYawDegrees < config.turnYawDegrees

instance (config : ChallengeConfig) : Decidable config.YawValid :=
  inferInstanceAs (Decidable (_ ∧ _ ∧ (_ ∧ _) ∧ (_ ∧ _) ∧ _))

/-- Validate structural bounds. -/
def validate (config : ChallengeConfig) : Except ChallengeError Unit :=
  require (config.maxPairSkewMicros ≠ 0 ∧
    (1_000_000 ≤ config.durationMicros ∧ config.durationMicros ≤ 30_000_000) ∧
    (3 ≤ config.maxObservations ∧ config.maxObservations ≤ 300) ∧
    (2 ≤ config.actionConsecutiveObservations ∧ config.actionConsecutiveObservations ≤ 15) ∧
    (2 ≤ config.recoveryConsecutiveObservations ∧
      config.recoveryConsecutiveObservations ≤ 15) ∧
    (20_000 ≤ config.minimumActionDurationMicros ∧
      config.minimumActionDurationMicros ≤ 2_000_000) ∧
    config.minimumActionDurationMicros < config.durationMicros ∧
    config.actionConsecutiveObservations + config.recoveryConsecutiveObservations + 1 ≤
      config.maxObservations ∧
    config.ScoresValid ∧ config.YawValid) .invalidConfig

end ChallengeConfig

/-- Model-derived measurements for one fresh paired observation. -/
structure ChallengeObservation where
  timing : CapturePair
  infraredSequence : UInt32
  visibleSequence : UInt32
  faceCount : Nat
  eyeOpenness : Float32
  yawDegrees : Float32
deriving DecidableEq

namespace ChallengeObservation

/-- The later of the two timestamps. -/
def timestamp (observation : ChallengeObservation) : Except ChallengeError Nat :=
  match observation.timing.visibleTimestampMicros with
  | none => .error .visibleFrameRequired
  | some visible => .ok (max observation.timing.infraredTimestampMicros visible)

/-- An observation is paired, and its scores and angles are in bounds. -/
def validate (observation : ChallengeObservation) (maxPairSkewMicros : Nat) :
    Except ChallengeError Unit := do
  (CapturePolicy.accepts ⟨true, true, maxPairSkewMicros⟩ observation.timing).mapError
    fun _ => .invalidFramePair
  require (observation.faceCount = 1) (.singleFaceRequired observation.faceCount)
  require (UnitScore observation.eyeOpenness ∧ observation.yawDegrees.isFinite = true ∧
    -90.0 ≤ observation.yawDegrees ∧ observation.yawDegrees ≤ 90.0) .invalidMeasurement

end ChallengeObservation

/-- Current externally visible progress of an active challenge. -/
inductive ChallengeProgress where
  | baselineRequired
  | actionRequired (action : ChallengeAction)
  | recoveryRequired
  | passed
deriving DecidableEq, Repr

/-- Where a challenge stands: before the action, in it, or after it. -/
inductive Phase where
  | baseline | action | recovery | passed
deriving DecidableEq, Repr

/-- One bounded randomized active-liveness transaction. -/
structure ChallengeSession where
  config : ChallengeConfig
  configured : config.validate = .ok ()
  action : ChallengeAction
  issuedAtMicros : Nat
  deadlineMicros : Nat
  observations : Nat
  lastTimestampMicros : Option Nat
  lastSequences : Option (UInt32 × UInt32)
  phase : Phase
  actionStreak : Nat
  actionStreakStartedAtMicros : Option Nat
  recoveryStreak : Nat

namespace ChallengeSession

/-- A challenge that was just issued. -/
def issued (config : ChallengeConfig) (configured : config.validate = .ok ())
    (action : ChallengeAction) (issuedAtMicros deadlineMicros : Nat) : ChallengeSession where
  config := config
  configured := configured
  action := action
  issuedAtMicros := issuedAtMicros
  deadlineMicros := deadlineMicros
  observations := 0
  lastTimestampMicros := none
  lastSequences := none
  phase := .baseline
  actionStreak := 0
  actionStreakStartedAtMicros := none
  recoveryStreak := 0

/-- Begin a challenge for a chosen action. -/
def withAction (config : ChallengeConfig) (issuedAtMicros : Nat) (action : ChallengeAction) :
    Except ChallengeError ChallengeSession :=
  match configured : config.validate with
  | .error error => .error error
  | .ok () =>
      match checkedAdd U64_MAX issuedAtMicros config.durationMicros with
      | none => .error .deadlineOverflow
      | some deadlineMicros => .ok (issued config configured action issuedAtMicros deadlineMicros)

/-- A challenge is issued under a valid configuration until its deadline. -/
theorem withAction_of_valid {config : ChallengeConfig} (configured : config.validate = .ok ())
    {issuedAtMicros : Nat} (fits : issuedAtMicros + config.durationMicros ≤ U64_MAX)
    (action : ChallengeAction) :
    withAction config issuedAtMicros action =
      .ok (issued config configured action issuedAtMicros
        (issuedAtMicros + config.durationMicros)) := by
  unfold withAction
  split
  · rename_i error failed
    rw [configured] at failed
    cases failed
  · rw [checkedAdd, if_pos fits]

/-- A challenge that begins is a challenge just issued. -/
theorem withAction_eq_ok {config : ChallengeConfig} {issuedAtMicros : Nat}
    {action : ChallengeAction} {session : ChallengeSession}
    (started : withAction config issuedAtMicros action = .ok session) :
    ∃ configured, session = issued config configured action issuedAtMicros
      (issuedAtMicros + config.durationMicros) := by
  unfold withAction at started
  split at started
  · cases started
  · split at started
    · cases started
    · rename_i configured _ deadline found
      obtain ⟨-, rfl⟩ := checkedAdd_eq_some_iff.mp found
      cases started
      exact ⟨configured, rfl⟩

/-- Current progress without any biometric measurement. -/
def progress (session : ChallengeSession) : ChallengeProgress :=
  match session.phase with
  | .baseline => .baselineRequired
  | .action => .actionRequired session.action
  | .recovery => .recoveryRequired
  | .passed => .passed

end ChallengeSession

/-- The observation shows the requested action. -/
def ChallengeConfig.ActionObserved (config : ChallengeConfig) (action : ChallengeAction)
    (observation : ChallengeObservation) : Prop :=
  match action with
  | .blink => observation.eyeOpenness ≤ config.closedEyeThreshold
  | .turnLeft => observation.yawDegrees ≤ -config.turnYawDegrees
  | .turnRight => config.turnYawDegrees ≤ observation.yawDegrees

instance (config : ChallengeConfig) (action : ChallengeAction)
    (observation : ChallengeObservation) :
    Decidable (config.ActionObserved action observation) := by
  unfold ChallengeConfig.ActionObserved
  cases action <;> infer_instance

/-- The observation shows the centered pose with open eyes. -/
def ChallengeConfig.Neutral (config : ChallengeConfig) (observation : ChallengeObservation) :
    Prop :=
  config.openEyeThreshold ≤ observation.eyeOpenness ∧
    observation.yawDegrees.abs ≤ config.neutralYawDegrees

instance (config : ChallengeConfig) (observation : ChallengeObservation) :
    Decidable (config.Neutral observation) :=
  inferInstanceAs (Decidable (_ ∧ _))

namespace ChallengeSession

/-- One observation of the action. -/
def observeAction (session : ChallengeSession) (observation : ChallengeObservation)
    (timestamp : Nat) : ChallengeSession :=
  if session.config.ActionObserved session.action observation then
    let started := session.actionStreakStartedAtMicros.getD timestamp
    let session := { session with
      actionStreakStartedAtMicros := some started
      actionStreak := saturatingAdd U8_MAX session.actionStreak 1 }
    if session.config.actionConsecutiveObservations ≤ session.actionStreak ∧
        session.config.minimumActionDurationMicros ≤ timestamp - started then
      { session with phase := .recovery, recoveryStreak := 0 }
    else session
  else { session with actionStreak := 0, actionStreakStartedAtMicros := none }

/-- One observation after the action. -/
def observeRecovery (session : ChallengeSession) (neutral : Prop) [Decidable neutral] :
    ChallengeSession :=
  if neutral then
    let session := { session with recoveryStreak := saturatingAdd U8_MAX session.recoveryStreak 1 }
    if session.config.recoveryConsecutiveObservations ≤ session.recoveryStreak then
      { session with phase := .passed }
    else session
  else { session with recoveryStreak := 0 }

/-- The phase transition on an observation that was accepted. -/
def advance (session : ChallengeSession) (observation : ChallengeObservation) (timestamp : Nat) :
    ChallengeSession :=
  match session.phase with
  | .baseline =>
      if session.config.Neutral observation then { session with phase := .action } else session
  | .action => session.observeAction observation timestamp
  | .recovery => session.observeRecovery (session.config.Neutral observation)
  | .passed => session

/-- The checks before an observation counts against the budget. -/
def screen (session : ChallengeSession) (observation : ChallengeObservation)
    (shouldCancel : Bool) : Except ChallengeError Nat := do
  require (shouldCancel = false) .cancelled
  require (session.phase ≠ .passed) .alreadyCompleted
  observation.validate session.config.maxPairSkewMicros
  let timestamp ← observation.timestamp
  require (session.issuedAtMicros ≤ timestamp) .predatesChallenge
  require (timestamp ≤ session.deadlineMicros) .expired
  require (session.lastTimestampMicros.any (fun last => timestamp ≤ last) = false)
    .nonIncreasingTimestamp
  require (session.lastSequences.any (fun last =>
    last.1 = observation.infraredSequence ∨ last.2 = observation.visibleSequence) = false)
    .repeatedCameraFrame
  return timestamp

/-- Process one fresh observation unless the owning worker was cancelled. -/
def observeCancellable (session : ChallengeSession) (observation : ChallengeObservation)
    (shouldCancel : Bool) : Except ChallengeError ChallengeProgress × ChallengeSession :=
  match session.screen observation shouldCancel with
  | .error error => (.error error, session)
  | .ok timestamp =>
      match checkedAdd U16_MAX session.observations 1 with
      | none => (.error .observationBudgetExhausted, session)
      | some observations =>
          -- The budget counts the observation that exhausts it.
          let session := { session with observations }
          if session.config.maxObservations < observations then
            (.error .observationBudgetExhausted, session)
          else
            let session := { session with
              lastTimestampMicros := some timestamp
              lastSequences := some (observation.infraredSequence, observation.visibleSequence) }
            let session := session.advance observation timestamp
            (.ok session.progress, session)

end ChallengeSession

end FaceAuth
