import FaceAuth.Foundation.Run
import FaceAuth.Management.Coordinator

/-!
# The experience model of the user interface

One visible operation at a time. It is begun, guided by the updates that are
bound to it, ended once, and cleared by a reset; what the user sees is a
function of the state that these calls leave.
-/

namespace FaceAuth

open Foundation

/-- Exact operation identity owned by one visible experience. -/
inductive ExperienceFlow where
  | authentication (transactionId : TransactionId)
  | authenticationRejection (transactionId : Option TransactionId)
  | enrollment (operationId : OperationId)
deriving DecidableEq, Repr

/-- The flow belongs to an authentication, begun or rejected before it began. -/
def ExperienceFlow.isAuthentication : ExperienceFlow → Bool
  | .authentication _ => true
  | .authenticationRejection _ => true
  | .enrollment _ => false

/-- Closed, localization-independent user guidance. -/
inductive ExperienceCue where
  | preparing | positionFace | holdStill | followChallenge | blink | turnLeft | turnRight
  | returnToCenter | processing
deriving DecidableEq, Repr

namespace ExperienceCue

/-- The stable name of a cue. -/
def token : ExperienceCue → String
  | .preparing => "preparing"
  | .positionFace => "position-face"
  | .holdStill => "hold-still"
  | .followChallenge => "active-challenge"
  | .blink => "blink"
  | .turnLeft => "turn-left"
  | .turnRight => "turn-right"
  | .returnToCenter => "return-to-center"
  | .processing => "processing"

/-- The icon of a cue. -/
def iconName : ExperienceCue → String
  | .preparing | .processing => "view-refresh"
  | .positionFace => "edit-image-face-recognize"
  | .holdStill => "media-playback-pause"
  | .followChallenge => "system-run"
  | .blink => "face-smile"
  | .turnLeft => "go-previous"
  | .turnRight => "go-next"
  | .returnToCenter => "go-home"

/-- The key of a cue's title. -/
def titleKey : ExperienceCue → String
  | .preparing => "faceauth.cue.preparing.title"
  | .positionFace => "faceauth.cue.position-face.title"
  | .holdStill => "faceauth.cue.hold-still.title"
  | .followChallenge => "faceauth.cue.active-challenge.title"
  | .blink => "faceauth.cue.blink.title"
  | .turnLeft => "faceauth.cue.turn-left.title"
  | .turnRight => "faceauth.cue.turn-right.title"
  | .returnToCenter => "faceauth.cue.return-to-center.title"
  | .processing => "faceauth.cue.processing.title"

end ExperienceCue

/-- Privacy-preserving terminal experience category. -/
inductive ExperienceOutcome where
  | succeeded | tryAgain | cancelled | timedOut | unavailable
deriving DecidableEq, Repr

namespace ExperienceOutcome

/-- The stable name of an outcome. -/
def token : ExperienceOutcome → String
  | .succeeded => "succeeded"
  | .tryAgain => "try-again"
  | .cancelled => "cancelled"
  | .timedOut => "timed-out"
  | .unavailable => "unavailable"

/-- The key of an outcome's title. -/
def titleKey : ExperienceOutcome → String
  | .succeeded => "faceauth.outcome.succeeded.title"
  | .tryAgain => "faceauth.outcome.try-again.title"
  | .cancelled => "faceauth.outcome.cancelled.title"
  | .timedOut => "faceauth.outcome.timed-out.title"
  | .unavailable => "faceauth.outcome.unavailable.title"

/-- The icon of an outcome. -/
def iconName : ExperienceOutcome → String
  | .succeeded => "dialog-ok-apply"
  | .tryAgain => "data-warning"
  | .cancelled => "dialog-cancel"
  | .timedOut => "chronometer"
  | .unavailable => "dialog-error"

theorem token_eq_succeeded {outcome : ExperienceOutcome} (shown : outcome.token = "succeeded") :
    outcome = .succeeded := by
  cases outcome with
  | succeeded => rfl
  | _ => revert shown; decide

end ExperienceOutcome

theorem ExperienceCue.token_ne_succeeded (cue : ExperienceCue) : cue.token ≠ "succeeded" := by
  cases cue <;> decide

/-- Current complete UI state. -/
inductive ExperienceState where
  | idle
  | active (flow : ExperienceFlow) (cue : ExperienceCue)
  | terminal (flow : ExperienceFlow) (outcome : ExperienceOutcome)
deriving DecidableEq, Repr

/-- The flow that a state is bound to. -/
def ExperienceState.flow? : ExperienceState → Option ExperienceFlow
  | .idle => none
  | .active flow _ => some flow
  | .terminal flow _ => some flow

/-- Small stable presentation summary consumed by desktop clients. -/
structure ExperiencePresentation where
  token : String
  titleKey : String
  iconName : String
  busy : Bool
  showPasswordFallback : Bool
deriving DecidableEq, Repr

/-- Invalid or stale UI event transition. -/
inductive ExperienceError where
  | busy | idle | wrongFlow | terminal
deriving DecidableEq, Repr

/-- The cue of a progress of an authentication. -/
def authenticationCue : ProgressCode → ExperienceCue
  | .positionFace => .positionFace
  | .holdStill => .holdStill
  | .blink => .blink
  | .turnLeft => .turnLeft
  | .turnRight => .turnRight
  | .returnToCenter => .returnToCenter
  | .processing => .processing

/-- The cue of a progress of an enrollment. -/
def managementCue : ManagementProgress → ExperienceCue
  | .preparing => .preparing
  | .positionFace => .positionFace
  | .holdStill => .holdStill
  | .activeChallenge => .followChallenge
  | .blink => .blink
  | .turnLeft => .turnLeft
  | .turnRight => .turnRight
  | .returnToCenter => .returnToCenter
  | .processing => .processing

/-- The outcome of a decision. -/
def authenticationOutcome : DecisionCode → ExperienceOutcome
  | .accepted => .succeeded
  | .cancelled => .cancelled
  | .timedOut => .timedOut
  | .internalError | .infraredMissing | .visibleMissing => .unavailable
  | .insufficientQuality | .passiveLivenessFailed | .activeChallengeFailed | .faceMismatch =>
      .tryAgain

/-- The outcome of an enrollment's result. -/
def managementOutcome : ManagementResult → ExperienceOutcome
  | .completed => .succeeded
  | .cancelled => .cancelled
  | .timedOut => .timedOut
  | .failed => .unavailable

theorem authenticationOutcome_eq_succeeded_iff {decision : DecisionCode} :
    authenticationOutcome decision = .succeeded ↔ decision = .accepted := by
  cases decision <;> decide

theorem managementOutcome_eq_succeeded_iff {result : ManagementResult} :
    managementOutcome result = .succeeded ↔ result = .completed := by
  cases result <;> decide

/-- One-operation experience state machine. -/
structure ExperienceModel where
  state : ExperienceState
deriving DecidableEq, Repr

/-- A call on the experience model. -/
inductive ExperienceCall where
  | beginAuthentication (transactionId : TransactionId)
  | beginEnrollment (operationId : OperationId)
  | authenticationProgress (transactionId : TransactionId) (progress : ProgressCode)
  | authenticationCompleted (transactionId : TransactionId) (decision : DecisionCode)
  | authenticationRejected (transactionId : Option TransactionId) (reason : RejectionCode)
  | managementUpdate (update : ManagementUpdate)
  | reset
deriving DecidableEq, Repr

namespace ExperienceCall

/-- The flow that an update is bound to. -/
def flow? : ExperienceCall → Option ExperienceFlow
  | .authenticationProgress transactionId _ => some (.authentication transactionId)
  | .authenticationCompleted transactionId _ => some (.authentication transactionId)
  | .managementUpdate update => some (.enrollment update.operationId)
  | _ => none

/-- The flow whose success an update reports: an accepted transaction or a completed
enrollment. -/
def success? : ExperienceCall → Option ExperienceFlow
  | .authenticationCompleted transactionId .accepted => some (.authentication transactionId)
  | .managementUpdate (.completed operationId .completed) => some (.enrollment operationId)
  | _ => none

end ExperienceCall

namespace ExperienceModel

/-- The model before any flow. -/
def default : ExperienceModel := ⟨.idle⟩

/-- Begin a flow from the idle state. -/
def begin (model : ExperienceModel) (flow : ExperienceFlow) :
    Except ExperienceError Unit × ExperienceModel :=
  if model.state ≠ .idle then (.error .busy, model)
  else (.ok (), ⟨.active flow .preparing⟩)

/-- Begin the flow of a transaction. -/
def beginAuthentication (model : ExperienceModel) (transactionId : TransactionId) :
    Except ExperienceError Unit × ExperienceModel :=
  model.begin (.authentication transactionId)

/-- Begin the flow of an operation. -/
def beginEnrollment (model : ExperienceModel) (operationId : OperationId) :
    Except ExperienceError Unit × ExperienceModel :=
  model.begin (.enrollment operationId)

/-- The model is active with the expected flow. -/
def requireActive (model : ExperienceModel) (expected : ExperienceFlow) :
    Except ExperienceError Unit :=
  match model.state with
  | .idle => .error .idle
  | .terminal _ _ => .error .terminal
  | .active flow _ => if flow = expected then .ok () else .error .wrongFlow

/-- Take the next state if exactly this flow is active. -/
def advance (model : ExperienceModel) (flow : ExperienceFlow) (next : ExperienceState) :
    Except ExperienceError Unit × ExperienceModel :=
  match model.requireActive flow with
  | .error error => (.error error, model)
  | .ok () => (.ok (), ⟨next⟩)

/-- Show the progress of a transaction. -/
def authenticationProgress (model : ExperienceModel) (transactionId : TransactionId)
    (progress : ProgressCode) : Except ExperienceError Unit × ExperienceModel :=
  model.advance (.authentication transactionId)
    (.active (.authentication transactionId) (authenticationCue progress))

/-- End the flow of a transaction with its decision. -/
def authenticationCompleted (model : ExperienceModel) (transactionId : TransactionId)
    (decision : DecisionCode) : Except ExperienceError Unit × ExperienceModel :=
  model.advance (.authentication transactionId)
    (.terminal (.authentication transactionId) (authenticationOutcome decision))

/-- Record a request rejected before biometric processing began; its reason is not shown. -/
def authenticationRejected (model : ExperienceModel) (transactionId : Option TransactionId)
    (_reason : RejectionCode) : Except ExperienceError Unit × ExperienceModel :=
  if model.state ≠ .idle then (.error .busy, model)
  else (.ok (), ⟨.terminal (.authenticationRejection transactionId) .unavailable⟩)

/-- Show an update of an enrollment, or end its flow with the result. -/
def managementUpdate (model : ExperienceModel) :
    ManagementUpdate → Except ExperienceError Unit × ExperienceModel
  | .progress operationId progress =>
      model.advance (.enrollment operationId)
        (.active (.enrollment operationId) (managementCue progress))
  | .completed operationId result =>
      model.advance (.enrollment operationId)
        (.terminal (.enrollment operationId) (managementOutcome result))

/-- Return to the idle state, unless a flow is active. -/
def reset (model : ExperienceModel) : Except ExperienceError Unit × ExperienceModel :=
  match model.state with
  | .active _ _ => (.error .busy, model)
  | _ => (.ok (), ⟨.idle⟩)

/-- What a client shows of the state. -/
def presentation (model : ExperienceModel) : ExperiencePresentation :=
  match model.state with
  | .idle => ⟨"idle", "faceauth.idle.title", "edit-image-face-recognize", false, false⟩
  | .active flow cue =>
      ⟨cue.token, cue.titleKey, cue.iconName, true,
        match flow with
        | .authentication _ => true
        | _ => false⟩
  | .terminal flow outcome =>
      ⟨outcome.token, outcome.titleKey, outcome.iconName, false,
        (match flow with
        | .authentication _ => true
        | .authenticationRejection _ => true
        | _ => false) && outcome != .succeeded⟩

/-- One call on the model. -/
def step (model : ExperienceModel) :
    ExperienceCall → Except ExperienceError Unit × ExperienceModel
  | .beginAuthentication transactionId => model.beginAuthentication transactionId
  | .beginEnrollment operationId => model.beginEnrollment operationId
  | .authenticationProgress transactionId progress =>
      model.authenticationProgress transactionId progress
  | .authenticationCompleted transactionId decision =>
      model.authenticationCompleted transactionId decision
  | .authenticationRejected transactionId reason =>
      model.authenticationRejected transactionId reason
  | .managementUpdate update => model.managementUpdate update
  | .reset => model.reset

/-- What a call can do: nothing, begin or reject a flow from idle, move or end the active
flow by an update of its own, or clear a flow that is not active. -/
inductive Transition (model : ExperienceModel) :
    ExperienceCall → Except ExperienceError Unit → ExperienceModel → Prop where
  | refused {call : ExperienceCall} {error : ExperienceError}
      (foreign : ∀ flow cue, call.flow? = some flow → model.state ≠ .active flow cue) :
      Transition model call (.error error) model
  | begun {call : ExperienceCall} {flow : ExperienceFlow} (empty : model.state = .idle)
      (own : call.flow? = none) (asked : ∀ transactionId,
        flow ≠ .authenticationRejection transactionId) :
      Transition model call (.ok ()) ⟨.active flow .preparing⟩
  | rejected {call : ExperienceCall} {transactionId : Option TransactionId}
      (empty : model.state = .idle) (own : call.flow? = none) :
      Transition model call (.ok ())
        ⟨.terminal (.authenticationRejection transactionId) .unavailable⟩
  | moved {call : ExperienceCall} {flow : ExperienceFlow} {cue next : ExperienceCue}
      (held : model.state = .active flow cue) (own : call.flow? = some flow) :
      Transition model call (.ok ()) ⟨.active flow next⟩
  | ended {call : ExperienceCall} {flow : ExperienceFlow} {cue : ExperienceCue}
      {outcome : ExperienceOutcome} (held : model.state = .active flow cue)
      (own : call.flow? = some flow)
      (success : outcome = .succeeded → call.success? = some flow) :
      Transition model call (.ok ()) ⟨.terminal flow outcome⟩
  | cleared (inactive : ∀ flow cue, model.state ≠ .active flow cue) :
      Transition model .reset (.ok ()) ⟨.idle⟩

section Step

variable {model : ExperienceModel}

theorem requireActive_eq_ok_iff {flow : ExperienceFlow} :
    model.requireActive flow = .ok () ↔ ∃ cue, model.state = .active flow cue := by
  unfold requireActive
  cases model.state with
  | idle => simp
  | terminal other outcome => simp
  | active other cue => by_cases same : other = flow <;> simp [same]

theorem advance_of_active {flow : ExperienceFlow} {cue : ExperienceCue}
    (held : model.state = .active flow cue) (next : ExperienceState) :
    model.advance flow next = (.ok (), ⟨next⟩) := by
  rw [advance, requireActive_eq_ok_iff.mpr ⟨cue, held⟩]

theorem advance_cases (model : ExperienceModel) (flow : ExperienceFlow) (next : ExperienceState) :
    (∃ cue, model.state = .active flow cue ∧ model.advance flow next = (.ok (), ⟨next⟩)) ∨
      ∃ error, (∀ cue, model.state ≠ .active flow cue) ∧
        model.advance flow next = (.error error, model) := by
  cases answer : model.requireActive flow with
  | ok done =>
      obtain ⟨cue, held⟩ := requireActive_eq_ok_iff.mp answer
      exact .inl ⟨cue, held, advance_of_active held next⟩
  | error error =>
      refine .inr ⟨error, fun cue held => ?_, by rw [advance, answer]⟩
      rw [requireActive_eq_ok_iff.mpr ⟨cue, held⟩] at answer
      cases answer

theorem begin_transition (model : ExperienceModel) {call : ExperienceCall}
    {flow : ExperienceFlow} (own : call.flow? = none)
    (asked : ∀ transactionId, flow ≠ .authenticationRejection transactionId) :
    model.Transition call (model.begin flow).1 (model.begin flow).2 := by
  unfold ExperienceModel.begin
  split
  · exact .refused fun flow cue same => by rw [own] at same; cases same
  · rename_i empty
    exact .begun (Decidable.not_not.mp empty) own asked

/-- An update of a flow moves it. -/
theorem advance_active_transition (model : ExperienceModel) {call : ExperienceCall}
    {flow : ExperienceFlow} (own : call.flow? = some flow) (next : ExperienceCue) :
    model.Transition call (model.advance flow (.active flow next)).1
      (model.advance flow (.active flow next)).2 := by
  rcases model.advance_cases flow (.active flow next) with ⟨cue, held, same⟩ | ⟨error, other, same⟩
  · rw [same]
    exact .moved held own
  · rw [same]
    refine .refused fun bound cue known => ?_
    rw [own, Option.some.injEq] at known
    exact known ▸ other cue

/-- An update of a flow ends it. -/
theorem advance_terminal_transition (model : ExperienceModel) {call : ExperienceCall}
    {flow : ExperienceFlow} {outcome : ExperienceOutcome} (own : call.flow? = some flow)
    (success : outcome = .succeeded → call.success? = some flow) :
    model.Transition call (model.advance flow (.terminal flow outcome)).1
      (model.advance flow (.terminal flow outcome)).2 := by
  rcases model.advance_cases flow (.terminal flow outcome) with
    ⟨cue, held, same⟩ | ⟨error, other, same⟩
  · rw [same]
    exact .ended held own success
  · rw [same]
    refine .refused fun bound cue known => ?_
    rw [own, Option.some.injEq] at known
    exact known ▸ other cue

/-- The step function stays inside the transition relation. -/
theorem step_transition (model : ExperienceModel) (call : ExperienceCall) :
    model.Transition call (model.step call).1 (model.step call).2 := by
  cases call with
  | beginAuthentication transactionId => exact model.begin_transition rfl nofun
  | beginEnrollment operationId => exact model.begin_transition rfl nofun
  | authenticationProgress transactionId progress => exact model.advance_active_transition rfl _
  | authenticationCompleted transactionId decision =>
      refine model.advance_terminal_transition rfl fun same => ?_
      rw [authenticationOutcome_eq_succeeded_iff.mp same]
      rfl
  | authenticationRejected transactionId reason =>
      unfold step authenticationRejected
      dsimp only
      split
      · exact .refused nofun
      · rename_i empty
        exact .rejected (Decidable.not_not.mp empty) rfl
  | managementUpdate update =>
      cases update with
      | progress operationId progress => exact model.advance_active_transition rfl _
      | completed operationId result =>
          refine model.advance_terminal_transition rfl fun same => ?_
          rw [managementOutcome_eq_succeeded_iff.mp same]
          rfl
  | reset =>
      unfold step reset
      dsimp only
      split
      · exact .refused nofun
      · rename_i inactive
        exact .cleared inactive

end Step

section Run

/-- One recorded call on the model. -/
abbrev ExperienceEntry := Entry ExperienceModel ExperienceCall (Except ExperienceError Unit)

/-- What holds of every history of calls on a fresh model. -/
structure ExperienceContract (entries : List ExperienceEntry) : Prop where
  /-- An update is applied exactly if the flow of its kind and identity is active. -/
  appliedOwn : ∀ entry ∈ entries, ∀ flow, entry.action.flow? = some flow →
    (entry.output = .ok () ↔ ∃ cue, entry.before.state = .active flow cue)
  /-- A refused call changes nothing. -/
  refusedUnchanged : ∀ entry ∈ entries, ∀ error, entry.output = .error error →
    entry.after = entry.before
  /-- A terminal state is only left by a reset. -/
  terminalStays : ∀ entry ∈ entries, ∀ flow outcome,
    entry.before.state = .terminal flow outcome → entry.action ≠ .reset →
      entry.after = entry.before
  /-- An active state is only changed by an update of its own flow, and stays bound to it. -/
  activeOwn : ∀ entry ∈ entries, ∀ flow cue, entry.before.state = .active flow cue →
    entry.after = entry.before ∨
      entry.action.flow? = some flow ∧ entry.after.state.flow? = some flow
  /-- Success is only shown after the report of success for the flow it is shown for, taken
  while that flow was active. -/
  successReported : ∀ left entry right, entries = left ++ entry :: right →
    entry.after.presentation.token = "succeeded" →
      ∃ flow, entry.after.state = .terminal flow .succeeded ∧
        ∃ earlier ∈ left ++ [entry], earlier.action.success? = some flow ∧
          earlier.output = .ok () ∧ ∃ cue, earlier.before.state = .active flow cue
  /-- In an authentication state other than success the password fallback stays visible. -/
  fallbackVisible : ∀ entry ∈ entries, ∀ flow, entry.after.state.flow? = some flow →
    flow.isAuthentication = true → entry.after.state ≠ .terminal flow .succeeded →
      entry.after.presentation.showPasswordFallback = true

variable {model : ExperienceModel} {call : ExperienceCall}

/-- A call of a flow applies exactly in the active state of that flow. -/
theorem step_applied {flow : ExperienceFlow} (own : call.flow? = some flow) :
    (model.step call).1 = .ok () ↔ ∃ cue, model.state = .active flow cue := by
  have taken := model.step_transition call
  generalize model.step call = result at taken
  rcases result with ⟨output, next⟩
  cases taken with
  | refused foreign => exact ⟨nofun, fun ⟨cue, held⟩ => (foreign flow cue own held).elim⟩
  | begun empty unbound asked => rw [own] at unbound; cases unbound
  | rejected empty unbound => rw [own] at unbound; cases unbound
  | moved held bound =>
      rw [own, Option.some.injEq] at bound
      exact ⟨fun _ => ⟨_, bound ▸ held⟩, fun _ => rfl⟩
  | ended held bound success =>
      rw [own, Option.some.injEq] at bound
      exact ⟨fun _ => ⟨_, bound ▸ held⟩, fun _ => rfl⟩
  | cleared inactive => cases own

/-- A refused call changes nothing. -/
theorem step_refused {error : ExperienceError} (refused : (model.step call).1 = .error error) :
    (model.step call).2 = model := by
  have taken := model.step_transition call
  generalize model.step call = result at taken refused
  rcases result with ⟨output, next⟩
  cases taken with
  | refused foreign => rfl
  | _ => cases refused

/-- Only a reset leaves a terminal state of its flow. -/
theorem step_terminal {flow : ExperienceFlow} {outcome : ExperienceOutcome}
    (ended : model.state = .terminal flow outcome) (other : call ≠ .reset) :
    (model.step call).2 = model := by
  have taken := model.step_transition call
  generalize model.step call = result at taken
  rcases result with ⟨output, next⟩
  cases taken with
  | refused foreign => rfl
  | cleared inactive => exact (other rfl).elim
  | begun empty own asked => rw [ended] at empty; cases empty
  | rejected empty own => rw [ended] at empty; cases empty
  | moved held own => rw [ended] at held; cases held
  | ended held own success => rw [ended] at held; cases held

/-- An active model changes by calls of its own flow alone. -/
theorem step_active {flow : ExperienceFlow} {cue : ExperienceCue}
    (active : model.state = .active flow cue) :
    (model.step call).2 = model ∨
      call.flow? = some flow ∧ (model.step call).2.state.flow? = some flow := by
  have taken := model.step_transition call
  generalize model.step call = result at taken
  rcases result with ⟨output, next⟩
  cases taken with
  | refused foreign => exact .inl rfl
  | begun empty own asked => rw [active] at empty; cases empty
  | rejected empty own => rw [active] at empty; cases empty
  | moved held own =>
      rw [active] at held
      cases held
      exact .inr ⟨own, rfl⟩
  | ended held own success =>
      rw [active] at held
      cases held
      exact .inr ⟨own, rfl⟩
  | cleared inactive => exact (inactive flow cue active).elim

/-- A rejection is never active, and always shown as unavailable. -/
def Sound (model : ExperienceModel) : Prop :=
  ∀ transactionId, model.state.flow? = some (.authenticationRejection transactionId) →
    model.state = .terminal (.authenticationRejection transactionId) .unavailable

theorem preserved_sound : Preserved step Sound := by
  intro model call sound
  have taken := model.step_transition call
  generalize model.step call = result at taken
  rcases result with ⟨output, next⟩
  intro transactionId bound
  cases taken with
  | refused foreign => exact sound transactionId bound
  | begun empty own asked => exact (asked transactionId (Option.some.inj bound)).elim
  | rejected empty own => rw [← Option.some.inj bound]
  | moved held own =>
      cases bound
      have known := sound transactionId (by rw [held]; rfl)
      rw [held] at known
      cases known
  | ended held own success =>
      cases bound
      have known := sound transactionId (by rw [held]; rfl)
      rw [held] at known
      cases known
  | cleared inactive => cases bound

/-- The fallback is hidden only where nothing is authenticated, or after success. -/
theorem Sound.fallback (sound : model.Sound) {flow : ExperienceFlow}
    (bound : model.state.flow? = some flow) (authenticates : flow.isAuthentication = true)
    (unsuccessful : model.state ≠ .terminal flow .succeeded) :
    model.presentation.showPasswordFallback = true := by
  unfold presentation
  cases state : model.state with
  | idle => rw [state] at bound; cases bound
  | active other cue =>
      rw [state] at bound
      cases bound
      cases flow with
      | authentication transactionId => rfl
      | enrollment operationId => cases authenticates
      | authenticationRejection transactionId =>
          have known := sound transactionId (by rw [state]; rfl)
          rw [state] at known
          cases known
  | terminal other outcome =>
      rw [state] at bound unsuccessful
      cases bound
      have failed : outcome ≠ .succeeded := fun same => unsuccessful (by rw [same])
      cases flow with
      | authentication transactionId => simpa using failed
      | authenticationRejection transactionId => simpa using failed
      | enrollment operationId => cases authenticates

theorem presentation_succeeded (shown : model.presentation.token = "succeeded") :
    ∃ flow, model.state = .terminal flow .succeeded := by
  unfold presentation at shown
  cases state : model.state with
  | idle =>
      rw [state] at shown
      exact absurd (show "idle" = "succeeded" from shown) (by decide)
  | active flow cue =>
      rw [state] at shown
      exact (cue.token_ne_succeeded shown).elim
  | terminal flow outcome =>
      rw [state] at shown
      exact ⟨flow, by rw [ExperienceOutcome.token_eq_succeeded shown]⟩

/-- The history holds the report of success for this flow, taken while it was active. -/
def Reported (history : List ExperienceEntry) (flow : ExperienceFlow) : Prop :=
  ∃ earlier ∈ history, earlier.action.success? = some flow ∧ earlier.output = .ok () ∧
    ∃ cue, earlier.before.state = .active flow cue

/-- A success on display was reported. -/
def Deserved (history : List ExperienceEntry) (model : ExperienceModel) : Prop :=
  ∀ flow, model.state = .terminal flow .succeeded → Reported history flow

/-- A call keeps the outcome deserved. -/
theorem step_deserved {history : List ExperienceEntry} (deserved : Deserved history model)
    (call : ExperienceCall) :
    Deserved (history ++ [entryAt step model call]) (model.step call).2 := by
  intro flow shown
  have taken := model.step_transition call
  generalize same : model.step call = result at taken shown
  rcases result with ⟨output, next⟩
  cases taken with
  | refused foreign =>
      obtain ⟨earlier, member, facts⟩ := deserved flow shown
      exact ⟨earlier, List.mem_append_left _ member, facts⟩
  | begun empty own asked => cases shown
  | rejected empty own => cases shown
  | moved held own => cases shown
  | ended held own success =>
      cases shown
      refine ⟨entryAt step model call, List.mem_append_right _ List.mem_cons_self, success rfl, ?_,
        _, held⟩
      rw [entryAt_output, same]
  | cleared inactive => cases shown

theorem run_deserved (calls : List ExperienceCall) :
    Deserved (run step default calls) (final step default calls) := by
  apply run_history
  · exact nofun
  · intro history current call deserved
    exact step_deserved deserved call

/-- Every sequence of calls on a fresh model keeps the contract. -/
theorem run_experience (calls : List ExperienceCall) :
    ExperienceContract (run step default calls) := by
  have each : ∀ {property : ExperienceEntry → Prop},
      (∀ model call, Sound model → property (entryAt step model call)) →
      ∀ entry ∈ run step default calls, property entry :=
    fun always entry member => preserved_sound.entry (show Sound default from nofun) always member
  exact {
    appliedOwn := each fun model call sound flow own => step_applied own
    refusedUnchanged := each fun model call sound error refused => step_refused refused
    terminalStays := each fun model call sound flow outcome ended other =>
      step_terminal ended other
    activeOwn := each fun model call sound flow cue active => step_active active
    successReported := fun left entry right split shown => by
      obtain ⟨first, second, -, rfl, taken, -⟩ := run_split_entry step split
      obtain ⟨flow, state⟩ := presentation_succeeded shown
      have deserved := run_deserved (first ++ [entry.action])
      rw [run_append, final_append, run_cons, run_nil, ← taken] at deserved
      exact ⟨flow, state, deserved flow (by rw [taken] at state; exact state)⟩
    fallbackVisible := each fun model call sound flow bound authenticates unsuccessful =>
      Sound.fallback (preserved_sound model call sound) bound authenticates unsuccessful }

end Run

section Stream

/-- The calls for the responses to one transaction: started, its progress, and its decision. -/
def authenticationStream (transactionId : TransactionId) (codes : List ProgressCode)
    (decision : DecisionCode) : List ExperienceCall :=
  .beginAuthentication transactionId ::
    (codes.map (.authenticationProgress transactionId) ++
      [.authenticationCompleted transactionId decision])

/-- The calls for the updates of one enrollment. -/
def enrollmentStream (operationId : OperationId) (codes : List ManagementProgress)
    (result : ManagementResult) : List ExperienceCall :=
  .beginEnrollment operationId ::
    (codes.map (fun code => .managementUpdate (.progress operationId code)) ++
      [.managementUpdate (.completed operationId result)])

/-- Calls that move the active flow, and one that ends it, are all applied. -/
theorem run_stream {flow : ExperienceFlow} {outcome : ExperienceOutcome}
    {moves : List ExperienceCall} {last : ExperienceCall}
    (moving : ∀ call ∈ moves, ∃ next, ∀ model, step model call =
      model.advance flow (.active flow next))
    (ending : ∀ model, step model last = model.advance flow (.terminal flow outcome))
    (cue : ExperienceCue) :
    (∀ entry ∈ run step ⟨.active flow cue⟩ (moves ++ [last]), entry.output = .ok ()) ∧
      final step ⟨.active flow cue⟩ (moves ++ [last]) = ⟨.terminal flow outcome⟩ := by
  induction moves generalizing cue with
  | nil =>
      have ended : step ⟨.active flow cue⟩ last = (.ok (), ⟨.terminal flow outcome⟩) :=
        (ending _).trans (advance_of_active rfl _)
      simp [ended]
  | cons call moves ih =>
      obtain ⟨next, shifts⟩ := moving call List.mem_cons_self
      have moved : step ⟨.active flow cue⟩ call = (.ok (), ⟨.active flow next⟩) :=
        (shifts _).trans (advance_of_active rfl _)
      have rest := ih (fun other member => moving other (List.mem_cons_of_mem _ member)) next
      rw [List.cons_append, run_cons, final_cons, moved]
      refine ⟨fun entry member => ?_, rest.2⟩
      rcases List.mem_cons.mp member with rfl | later
      · rw [entryAt_output, moved]
      · exact rest.1 entry later

/-- A call that starts a flow goes before those that move it. -/
theorem run_started {flow : ExperienceFlow} {outcome : ExperienceOutcome} {cue : ExperienceCue}
    {first last : ExperienceCall} {moves : List ExperienceCall}
    (starts : step default first = (.ok (), ⟨.active flow cue⟩))
    (moving : ∀ call ∈ moves, ∃ next, ∀ model, step model call =
      model.advance flow (.active flow next))
    (ending : ∀ model, step model last = model.advance flow (.terminal flow outcome)) :
    (∀ entry ∈ run step default (first :: (moves ++ [last])), entry.output = .ok ()) ∧
      final step default (first :: (moves ++ [last])) = ⟨.terminal flow outcome⟩ := by
  have streamed := run_stream moving ending cue
  rw [run_cons, final_cons, starts]
  refine ⟨fun entry member => ?_, streamed.2⟩
  rcases List.mem_cons.mp member with rfl | later
  · rw [entryAt_output, starts]
  · exact streamed.1 entry later

theorem run_authenticationStream (transactionId : TransactionId) (codes : List ProgressCode)
    (decision : DecisionCode) :
    (∀ entry ∈ run step default (authenticationStream transactionId codes decision),
        entry.output = .ok ()) ∧
      final step default (authenticationStream transactionId codes decision) =
        ⟨.terminal (.authentication transactionId) (authenticationOutcome decision)⟩ := by
  have moving : ∀ call ∈ codes.map (ExperienceCall.authenticationProgress transactionId),
      ∃ next, ∀ model, step model call =
        model.advance (.authentication transactionId) (.active (.authentication transactionId)
          next) := by
    intro call member
    obtain ⟨code, -, rfl⟩ := List.mem_map.mp member
    exact ⟨authenticationCue code, fun _ => rfl⟩
  have ending : ∀ model, step model (.authenticationCompleted transactionId decision) =
      model.advance (.authentication transactionId)
        (.terminal (.authentication transactionId) (authenticationOutcome decision)) :=
    fun _ => rfl
  exact run_started rfl moving ending

theorem run_enrollmentStream (operationId : OperationId) (codes : List ManagementProgress)
    (result : ManagementResult) :
    (∀ entry ∈ run step default (enrollmentStream operationId codes result),
        entry.output = .ok ()) ∧
      final step default (enrollmentStream operationId codes result) =
        ⟨.terminal (.enrollment operationId) (managementOutcome result)⟩ := by
  have moving : ∀ call ∈ codes.map (fun code =>
      ExperienceCall.managementUpdate (.progress operationId code)),
      ∃ next, ∀ model, step model call =
        model.advance (.enrollment operationId) (.active (.enrollment operationId) next) := by
    intro call member
    obtain ⟨code, -, rfl⟩ := List.mem_map.mp member
    exact ⟨managementCue code, fun _ => rfl⟩
  have ending : ∀ model, step model (.managementUpdate (.completed operationId result)) =
      model.advance (.enrollment operationId)
        (.terminal (.enrollment operationId) (managementOutcome result)) := fun _ => rfl
  exact run_started rfl moving ending

end Stream

end ExperienceModel

end FaceAuth
