import FaceAuth.Foundation.OneShot
import FaceAuth.Session.Manager

/-!
# Session operations as one step function

Every public operation of the transaction manager as one step, and the relation
that says what such a step can do. Facts about whole runs are read off the
relation, so that none of them looks into an operation again.
-/

namespace FaceAuth

open Foundation

/-- A call on the transaction manager. -/
inductive SessionOperation where
  | start (grant : AuthorizationGrant) (connection : ConnectionToken) (nowMicros : Nat)
  | progress (connection : ConnectionToken) (transactionId : TransactionId) (code : ProgressCode)
      (nowMicros : Nat)
  | complete (connection : ConnectionToken) (transactionId : TransactionId)
      (decision : DecisionCode) (nowMicros : Nat)
  | cancel (connection : ConnectionToken) (transactionId : TransactionId) (nowMicros : Nat)
  | expire (nowMicros : Nat)
  | isBusy
  | targetUid (connection : ConnectionToken) (transactionId : TransactionId)
  | cancellationToken (connection : ConnectionToken) (transactionId : TransactionId)
deriving DecidableEq, Repr

/-- What a call on the transaction manager returns. -/
inductive SessionReply where
  | answered (result : Except SessionError Response)
  | reaped (response : Option Response)
  | busy (occupied : Bool)
  | uid (result : Except SessionError UInt32)
  | token (result : Except SessionError CancellationToken)

namespace SessionReply

/-- The response a reply carries to the client. -/
def response? : SessionReply → Option Response
  | .answered (.ok response) => some response
  | .reaped response => response
  | _ => none

/-- The error a reply reports to the caller. -/
def error? : SessionReply → Option SessionError
  | .answered (.error error) => some error
  | .uid (.error error) => some error
  | .token (.error error) => some error
  | _ => none

/-- A reply that opens a transaction. -/
def Starts (reply : SessionReply) : Prop :=
  ∃ transactionId, reply.response? = some (.started transactionId)

/-- A reply that ends a transaction. -/
def Completes (reply : SessionReply) : Prop :=
  ∃ transactionId decision, reply.response? = some (.completed transactionId decision)

instance : DecidablePred Completes := fun reply =>
  match found : reply.response? with
  | some (.completed transactionId decision) => isTrue ⟨transactionId, decision, found⟩
  | some (.started _) => isFalse fun ⟨_, _, same⟩ => by rw [found] at same; cases same
  | some (.progress _ _) => isFalse fun ⟨_, _, same⟩ => by rw [found] at same; cases same
  | some (.rejected _ _) => isFalse fun ⟨_, _, same⟩ => by rw [found] at same; cases same
  | none => isFalse fun ⟨_, _, same⟩ => by rw [found] at same; cases same

end SessionReply

namespace SessionOperation

/-- The exact binding an operation presents. -/
def binding? : SessionOperation → Option (ConnectionToken × TransactionId)
  | .progress connection transactionId _ _ => some (connection, transactionId)
  | .complete connection transactionId _ _ => some (connection, transactionId)
  | .cancel connection transactionId _ => some (connection, transactionId)
  | .targetUid connection transactionId => some (connection, transactionId)
  | .cancellationToken connection transactionId => some (connection, transactionId)
  | _ => none

/-- The clock an operation shows to a session: that of its owner's progress,
cancel and unreserved complete, and that of every expiry. -/
def clockFor (active : ActiveSession) : SessionOperation → Option Nat
  | .progress connection transactionId _ nowMicros =>
      if active.connection = connection ∧ active.grant.transactionId = transactionId then
        some nowMicros
      else none
  | .complete connection transactionId decision nowMicros =>
      if active.connection = connection ∧ active.grant.transactionId = transactionId ∧
          SessionManager.reserved decision = false then
        some nowMicros
      else none
  | .cancel connection transactionId nowMicros =>
      if active.connection = connection ∧ active.grant.transactionId = transactionId then
        some nowMicros
      else none
  | .expire nowMicros => some nowMicros
  | _ => none

end SessionOperation

namespace SessionManager

/-- One call on the manager. -/
def step (manager : SessionManager) : SessionOperation → SessionReply × SessionManager
  | .start grant connection nowMicros =>
      Prod.map .answered id (manager.start grant connection nowMicros)
  | .progress connection transactionId code nowMicros =>
      Prod.map .answered id (manager.progress connection transactionId code nowMicros)
  | .complete connection transactionId decision nowMicros =>
      Prod.map .answered id (manager.complete connection transactionId decision nowMicros)
  | .cancel connection transactionId nowMicros =>
      Prod.map .answered id (manager.cancel connection transactionId nowMicros)
  | .expire nowMicros =>
      Prod.map .reaped id (manager.expire nowMicros)
  | .isBusy => (.busy manager.isBusy, manager)
  | .targetUid connection transactionId =>
      (.uid (manager.targetUid connection transactionId), manager)
  | .cancellationToken connection transactionId =>
      (.token (manager.cancellationToken connection transactionId), manager)

/-- What a step can do. A step either opens the empty slot, answers without a
response and without a change, reports progress before the deadline, or ends
the active session: with a timeout at or after its deadline, with the decision
of its owner or with its cancellation before. -/
inductive Transition (manager : SessionManager) :
    SessionOperation → SessionReply → SessionManager → Prop where
  | opened {grant : AuthorizationGrant} {connection : ConnectionToken} {nowMicros : Nat}
      (empty : manager.active = none)
      (fits : nowMicros + manager.config.transactionDurationMicros ≤ U64_MAX) :
      Transition manager (.start grant connection nowMicros)
        (.answered (.ok (.started grant.transactionId)))
        { manager with
          active := some (manager.opened grant connection nowMicros)
          flags := manager.flags.allocate }
  | silent {operation : SessionOperation} {reply : SessionReply}
      (quiet : reply.response? = none) : Transition manager operation reply manager
  | continued {connection : ConnectionToken} {transactionId : TransactionId} {code : ProgressCode}
      {nowMicros : Nat} {active : ActiveSession}
      (bound : manager.Bound connection transactionId active)
      (early : nowMicros < active.deadlineMicros) :
      Transition manager (.progress connection transactionId code nowMicros)
        (.answered (.ok (.progress transactionId code))) manager
  | timedOut {operation : SessionOperation} {reply : SessionReply} {nowMicros : Nat}
      {active : ActiveSession} (held : manager.active = some active)
      (clock : operation.clockFor active = some nowMicros)
      (late : active.deadlineMicros ≤ nowMicros)
      (spoken : reply.response? = some (.completed active.grant.transactionId .timedOut)) :
      Transition manager operation reply (manager.release active)
  | decided {connection : ConnectionToken} {transactionId : TransactionId}
      {decision : DecisionCode} {nowMicros : Nat} {active : ActiveSession}
      (bound : manager.Bound connection transactionId active)
      (free : reserved decision = false) (early : nowMicros < active.deadlineMicros) :
      Transition manager (.complete connection transactionId decision nowMicros)
        (.answered (.ok (.completed transactionId decision))) (manager.release active)
  | cancelled {connection : ConnectionToken} {transactionId : TransactionId} {nowMicros : Nat}
      {active : ActiveSession} (bound : manager.Bound connection transactionId active)
      (early : nowMicros < active.deadlineMicros) :
      Transition manager (.cancel connection transactionId nowMicros)
        (.answered (.ok (.completed transactionId .cancelled))) (manager.release active)

section Step

variable (manager : SessionManager)

/-- What starting does. -/
theorem step_start_transition (grant : AuthorizationGrant) (connection : ConnectionToken)
    (nowMicros : Nat) :
    manager.Transition (.start grant connection nowMicros)
      (manager.step (.start grant connection nowMicros)).1
      (manager.step (.start grant connection nowMicros)).2 := by
  rw [step]
  cases held : manager.active with
  | some active =>
      rw [start_of_active held]
      exact .silent rfl
  | none =>
      rw [start_of_empty held]
      by_cases fits : nowMicros + manager.config.transactionDurationMicros ≤ U64_MAX
      · rw [if_pos fits]
        exact .opened held fits
      · rw [if_neg fits]
        exact .silent rfl

/-- What progress does. -/
theorem step_progress_transition (connection : ConnectionToken) (transactionId : TransactionId)
    (code : ProgressCode) (nowMicros : Nat) :
    manager.Transition (.progress connection transactionId code nowMicros)
      (manager.step (.progress connection transactionId code nowMicros)).1
      (manager.step (.progress connection transactionId code nowMicros)).2 := by
  rw [step]
  rcases manager.bound_or_foreign connection transactionId with ⟨active, bound⟩ | foreign
  · rw [progress_of_bound bound]
    by_cases late : active.deadlineMicros ≤ nowMicros
    · rw [if_pos late]
      exact .timedOut bound.1 (if_pos bound.2) late (by rw [bound.2.2]; rfl)
    · rw [if_neg late]
      exact .continued bound (Nat.lt_of_not_le late)
  · obtain ⟨error, refused⟩ := progress_of_foreign foreign code nowMicros
    rw [refused]
    exact .silent rfl

/-- What completing does. -/
theorem step_complete_transition (connection : ConnectionToken) (transactionId : TransactionId)
    (decision : DecisionCode) (nowMicros : Nat) :
    manager.Transition (.complete connection transactionId decision nowMicros)
      (manager.step (.complete connection transactionId decision nowMicros)).1
      (manager.step (.complete connection transactionId decision nowMicros)).2 := by
  rw [step]
  cases kept : reserved decision with
  | true =>
      rw [complete_of_reserved kept]
      exact .silent rfl
  | false =>
      rcases manager.bound_or_foreign connection transactionId with ⟨active, bound⟩ | foreign
      · rw [complete_of_bound bound kept]
        by_cases late : active.deadlineMicros ≤ nowMicros
        · rw [if_pos late]
          exact .timedOut bound.1 (if_pos ⟨bound.2.1, bound.2.2, kept⟩) late
            (by rw [bound.2.2]; rfl)
        · rw [if_neg late]
          exact .decided bound kept (Nat.lt_of_not_le late)
      · obtain ⟨error, refused⟩ := complete_of_foreign foreign decision nowMicros
        rw [refused]
        exact .silent rfl

/-- What cancelling does. -/
theorem step_cancel_transition (connection : ConnectionToken) (transactionId : TransactionId)
    (nowMicros : Nat) :
    manager.Transition (.cancel connection transactionId nowMicros)
      (manager.step (.cancel connection transactionId nowMicros)).1
      (manager.step (.cancel connection transactionId nowMicros)).2 := by
  rw [step]
  rcases manager.bound_or_foreign connection transactionId with ⟨active, bound⟩ | foreign
  · rw [cancel_of_bound bound]
    by_cases late : active.deadlineMicros ≤ nowMicros
    · rw [if_pos late]
      exact .timedOut bound.1 (if_pos bound.2) late (by rw [bound.2.2]; rfl)
    · rw [if_neg late]
      exact .cancelled bound (Nat.lt_of_not_le late)
  · obtain ⟨error, refused⟩ := cancel_of_foreign foreign nowMicros
    rw [refused]
    exact .silent rfl

/-- What expiry does. -/
theorem step_expire_transition (nowMicros : Nat) :
    manager.Transition (.expire nowMicros) (manager.step (.expire nowMicros)).1
      (manager.step (.expire nowMicros)).2 := by
  rw [step]
  cases held : manager.active with
  | none =>
      rw [expire_of_empty held]
      exact .silent rfl
  | some active =>
      rw [expire_of_active held]
      by_cases late : active.deadlineMicros ≤ nowMicros
      · rw [if_pos late]
        exact .timedOut held rfl late rfl
      · rw [if_neg late]
        exact .silent rfl

/-- The step function stays inside the transition relation. -/
theorem step_transition (operation : SessionOperation) :
    manager.Transition operation (manager.step operation).1 (manager.step operation).2 := by
  cases operation with
  | start grant connection nowMicros => exact step_start_transition manager ..
  | progress connection transactionId code nowMicros => exact step_progress_transition manager ..
  | complete connection transactionId decision nowMicros =>
      exact step_complete_transition manager ..
  | cancel connection transactionId nowMicros => exact step_cancel_transition manager ..
  | expire nowMicros => exact step_expire_transition manager nowMicros
  | isBusy => exact .silent rfl
  | targetUid connection transactionId => exact .silent rfl
  | cancellationToken connection transactionId => exact .silent rfl

end Step

end SessionManager

end FaceAuth
