import FaceAuth.Daemon.Completion

/-!
# Engine jobs and updates

What crosses the channel between the connection coordinator and the supervised
biometric engine: one job per admitted transaction, and its bounded updates.
-/

namespace FaceAuth

namespace AuthenticationEngine

/-- How many progress updates one job may send. -/
def MAX_PROGRESS_UPDATES : Nat := 32

/-- Room for all progress updates and the last one. -/
def UPDATE_QUEUE_CAPACITY : Nat := MAX_PROGRESS_UPDATES + 1

end AuthenticationEngine

/-- Complete owned evidence returned by the biometric engine. -/
structure DerivedAuthenticationEvidence where
  transactionId : TransactionId
  timing : CapturePair
  quality : Float32
  embedding : FaceEmbedding
  passiveLiveness : List PassiveLivenessScore
  activeChallenge : ChallengeProgress
  completedAtMicros : Nat
deriving DecidableEq

/-- The derived evidence in the shape of the final policy boundary. -/
def DerivedAuthenticationEvidence.observation (evidence : DerivedAuthenticationEvidence) :
    AuthenticationObservation where
  timing := evidence.timing
  quality := evidence.quality
  embedding := evidence.embedding
  passiveLiveness := evidence.passiveLiveness
  activeChallenge := evidence.activeChallenge

/-- Sanitized failure category returned by the biometric engine. -/
inductive AuthenticationEngineFailure where
  | cancelled | capture | inference | liveness | invalidEvidence | internal
deriving DecidableEq, Repr

/-- One bounded update from the engine worker. -/
inductive AuthenticationEngineUpdate where
  | progress (transactionId : TransactionId) (progress : ProgressCode)
  | completed (transactionId : TransactionId)
      (result : Except AuthenticationEngineFailure DerivedAuthenticationEvidence)

/-- What waiting for the next update ends with. -/
inductive Received where
  | update (update : AuthenticationEngineUpdate)
  | timeout
  | disconnected

/-- A receipt after which the worker sends nothing more: its terminal update, or the
news that it is gone. -/
def Received.IsLast : Received → Prop
  | .update (.completed _ _) => True
  | .disconnected => True
  | .update (.progress _ _) => False
  | .timeout => False

instance : DecidablePred Received.IsLast
  | .update (.completed _ _) => isTrue trivial
  | .disconnected => isTrue trivial
  | .update (.progress _ _) => isFalse id
  | .timeout => isFalse id

/-- Non-blocking engine submission failure. -/
inductive AuthenticationEngineSubmitError where
  | busy | workerStopped | resourceUnavailable
deriving DecidableEq, Repr

/-- One authorized, transaction-bound unit of biometric work. -/
structure AuthenticationJob where
  transactionId : TransactionId
  targetUid : UInt32
  cancellation : CancellationToken
deriving DecidableEq, Repr

/-- Bind a job to the exact active authorized daemon session. -/
def AuthenticationJob.fromSession (sessions : SessionManager) (connection : ConnectionToken)
    (transactionId : TransactionId) : Except SessionError AuthenticationJob :=
  match sessions.targetUid connection transactionId with
  | .error error => .error error
  | .ok targetUid =>
      match sessions.cancellationToken connection transactionId with
      | .error error => .error error
      | .ok cancellation => .ok ⟨transactionId, targetUid, cancellation⟩

/-- The job of the bound transaction has its account and its cancellation. -/
theorem AuthenticationJob.fromSession_of_bound {sessions : SessionManager}
    {connection : ConnectionToken} {transactionId : TransactionId} {active : ActiveSession}
    (bound : sessions.Bound connection transactionId active) :
    AuthenticationJob.fromSession sessions connection transactionId =
      .ok ⟨transactionId, active.grant.targetUid, active.cancellation⟩ := by
  rw [fromSession, SessionManager.targetUid_of_bound bound,
    SessionManager.cancellationToken_of_bound bound]

end FaceAuth
