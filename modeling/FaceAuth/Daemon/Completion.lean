import FaceAuth.Daemon.Evidence
import FaceAuth.Session.Contract

/-!
# Completion of one authentication transaction

The template of the session's own target account is loaded, the derived
evidence is evaluated against it, and the transaction is consumed with one
terminal response. Failures to load or to evaluate collapse to `internalError`.
-/

namespace FaceAuth

open Foundation

/-- Source of authenticated, UID-addressed templates. -/
abbrev TemplateSource := UInt32 → Except StorageError TemplateRecord

/-- Inputs bound to one admitted transaction completion. -/
structure AuthenticationCompletion where
  connection : ConnectionToken
  transactionId : TransactionId
  policy : AuthPolicy
  passivePadPolicy : PassivePadPolicy
  observation : AuthenticationObservation
  nowMicros : Nat

/-- The code that tells a client the reason. -/
def decisionCode : DecisionReason → DecisionCode
  | .accepted => .accepted
  | .infraredMissing => .infraredMissing
  | .visibleMissing => .visibleMissing
  | .insufficientQuality => .insufficientQuality
  | .passiveLivenessFailed => .passiveLivenessFailed
  | .activeChallengeFailed => .activeChallengeFailed
  | .faceMismatch => .faceMismatch

/-- The decision on one account, with every failure collapsed. -/
def derivedDecision (templates : TemplateSource) (completion : AuthenticationCompletion)
    (targetUid : UInt32) : DecisionCode :=
  match templates targetUid with
  | .error _ => .internalError
  | .ok template =>
      match evaluateAuthentication completion.policy completion.passivePadPolicy template
          completion.observation with
      | .error _ => .internalError
      | .ok result => decisionCode result.reason

/-- Consume the connection-bound transaction with one terminal response. -/
def completeAuthentication (sessions : SessionManager) (templates : TemplateSource)
    (completion : AuthenticationCompletion) : Except SessionError Response × SessionManager :=
  match sessions.targetUid completion.connection completion.transactionId with
  | .error error => (.error error, sessions)
  | .ok targetUid =>
      sessions.complete completion.connection completion.transactionId
        (derivedDecision templates completion targetUid) completion.nowMicros

/-- A decision about the person, as opposed to the transaction or the daemon. -/
def DecisionCode.Biometric (decision : DecisionCode) : Prop :=
  decision ≠ .cancelled ∧ decision ≠ .timedOut ∧ decision ≠ .internalError

instance : DecidablePred DecisionCode.Biometric := fun _ => inferInstanceAs (Decidable (_ ∧ _ ∧ _))

section Laws

variable {sessions : SessionManager} {templates : TemplateSource}
  {completion : AuthenticationCompletion} {active : ActiveSession} {targetUid : UInt32}

/-- No reason has a reserved code. -/
theorem decisionCode_free (reason : DecisionReason) :
    SessionManager.reserved (decisionCode reason) = false := by
  cases reason <;> rfl

/-- Only acceptance is told as such. -/
theorem decisionCode_eq_accepted_iff {reason : DecisionReason} :
    decisionCode reason = .accepted ↔ reason = .accepted := by
  cases reason <;> decide

/-- No evaluation produces a decision that the session manager keeps for itself. -/
theorem derivedDecision_free :
    SessionManager.reserved (derivedDecision templates completion targetUid) = false := by
  unfold derivedDecision
  cases templates targetUid with
  | error error => rfl
  | ok template =>
      dsimp only
      cases evaluateAuthentication completion.policy completion.passivePadPolicy template
          completion.observation with
      | error error => rfl
      | ok result => exact decisionCode_free result.reason

/-- Derived evidence is accepted exactly when the account's template is there and admits it. -/
theorem derivedDecision_eq_accepted_iff :
    derivedDecision templates completion targetUid = .accepted ↔
      ∃ template, templates targetUid = .ok template ∧
        Admissible completion.policy completion.passivePadPolicy template
          completion.observation := by
  unfold derivedDecision
  cases templates targetUid with
  | error error => simp
  | ok template =>
      simp only [Except.ok.injEq, exists_eq_left']
      rw [← evaluateAuthentication_accepted_iff]
      cases evaluated : evaluateAuthentication completion.policy completion.passivePadPolicy
          template completion.observation with
      | error error => simp
      | ok result =>
          dsimp only
          rw [decisionCode_eq_accepted_iff, Except.ok.injEq]
          obtain ⟨-, similarity, -, padPassed, -, decided⟩ :=
            evaluateAuthentication_eq_ok_iff.mp evaluated
          obtain ⟨-, -, -, rfl⟩ := AuthPolicy.evaluate_eq_ok_iff.mp decided
          constructor
          · intro accepted
            have reason : completion.policy.reason
                (completion.observation.evidence similarity padPassed) = .accepted := accepted
            rw [reason]
            rfl
          · intro whole
            exact congrArg AuthenticationDecision.reason whole

/-- A template that is missing or unreadable, or evidence that cannot be
evaluated, never yields a biometric decision. -/
theorem derivedDecision_failed
    (failed : (∃ error, templates targetUid = .error error) ∨
      ∃ template, templates targetUid = .ok template ∧
        Malformed completion.policy completion.passivePadPolicy template
          completion.observation) :
    derivedDecision templates completion targetUid = .internalError := by
  unfold derivedDecision
  rcases failed with ⟨error, missing⟩ | ⟨template, loaded, malformed⟩
  · rw [missing]
  · obtain ⟨error, refused⟩ := evaluateAuthentication_malformed malformed
    rw [loaded]
    dsimp only
    rw [refused]

/-- Completing the bound transaction answers with the decision, or the timeout, and releases it. -/
theorem completeAuthentication_of_bound
    (bound : sessions.Bound completion.connection completion.transactionId active) :
    completeAuthentication sessions templates completion =
      (.ok (.completed completion.transactionId
        (if active.deadlineMicros ≤ completion.nowMicros then .timedOut
          else derivedDecision templates completion active.grant.targetUid)),
        sessions.release active) := by
  rw [completeAuthentication, SessionManager.targetUid_of_bound bound]
  exact SessionManager.complete_of_bound bound derivedDecision_free completion.nowMicros

/-- Completing any other transaction is refused and changes nothing. -/
theorem completeAuthentication_of_foreign
    (foreign : sessions.Foreign completion.connection completion.transactionId) :
    ∃ error, completeAuthentication sessions templates completion = (.error error, sessions) := by
  obtain ⟨error, refused⟩ := SessionManager.targetUid_of_foreign foreign
  exact ⟨error, by rw [completeAuthentication, refused]⟩

end Laws

/-- What the completion of one transaction guarantees. -/
structure CompletionSoundness (sessions : SessionManager) (templates : TemplateSource)
    (completion : AuthenticationCompletion) : Prop where
  /-- Acceptance means the exact session, in time, with its own account's template. -/
  accepted : ∀ transactionId, (completeAuthentication sessions templates completion).1 =
      .ok (.completed transactionId .accepted) →
    transactionId = completion.transactionId ∧
    ∃ active template, sessions.Bound completion.connection completion.transactionId active ∧
      completion.nowMicros < active.deadlineMicros ∧
      templates active.grant.targetUid = .ok template ∧
      Admissible completion.policy completion.passivePadPolicy template completion.observation
  /-- Failures before the deadline are internal errors, never biometric decisions. -/
  failed : ∀ active, sessions.Bound completion.connection completion.transactionId active →
    ((∃ error, templates active.grant.targetUid = .error error) ∨
      ∃ template, templates active.grant.targetUid = .ok template ∧
        Malformed completion.policy completion.passivePadPolicy template
          completion.observation) →
    (completeAuthentication sessions templates completion).1 =
      .ok (.completed completion.transactionId
        (if active.deadlineMicros ≤ completion.nowMicros then .timedOut else .internalError))
  /-- A completion of the owner consumes its session and raises its token. -/
  consumed : ∀ active, sessions.Bound completion.connection completion.transactionId active →
    (completeAuthentication sessions templates completion).2 = sessions.release active
  /-- Anyone else is refused and changes nothing. -/
  refused : sessions.Foreign completion.connection completion.transactionId →
    ∃ error, completeAuthentication sessions templates completion = (.error error, sessions)

/-- Completion is sound for every session state, template source, policy,
evidence and clock. -/
theorem completeAuthentication_sound (sessions : SessionManager) (templates : TemplateSource)
    (completion : AuthenticationCompletion) :
    CompletionSoundness sessions templates completion where
  accepted transactionId answered := by
    rcases sessions.bound_or_foreign completion.connection completion.transactionId with
      ⟨active, bound⟩ | foreign
    · rw [completeAuthentication_of_bound bound, Except.ok.injEq, Response.completed.injEq]
        at answered
      obtain ⟨same, decided⟩ := answered
      by_cases late : active.deadlineMicros ≤ completion.nowMicros
      · rw [if_pos late] at decided
        cases decided
      · rw [if_neg late] at decided
        obtain ⟨template, loaded, admissible⟩ := derivedDecision_eq_accepted_iff.mp decided
        exact ⟨same.symm, active, template, bound, Nat.lt_of_not_le late, loaded, admissible⟩
    · obtain ⟨error, refused⟩ := completeAuthentication_of_foreign foreign
      rw [refused] at answered
      cases answered
  failed active bound failure := by
    rw [completeAuthentication_of_bound bound, derivedDecision_failed failure]
  consumed active bound := by
    rw [completeAuthentication_of_bound bound]
  refused foreign := completeAuthentication_of_foreign foreign

end FaceAuth
