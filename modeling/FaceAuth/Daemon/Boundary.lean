import FaceAuth.Daemon.Engine
import FaceAuth.Transport.AcceptLoop

/-!
# The boundary service

Decodes requests through executable verification, authorization and session
state, and writes every answer on the connection that asked. What a connection
meets outside the daemon is an environment, which answers each interaction by
the moment at which it happens.
-/

namespace FaceAuth

open Foundation

/-- Failure to derive trustworthy executable evidence. -/
inductive ExecutableError where
  | io (error : IoError)
  | notRegularFile
  | notRootOwned (actualUid : UInt32)
  | writableByUntrustedUser (mode : Nat)
  | notExecutable (mode : Nat)
  | invalidPidfd
  | peerExited
  | peerPidMismatch (expected actual : UInt32)
deriving DecidableEq, Repr

/-- Boundary framing or response delivery failure. -/
inductive BoundaryError where
  | transport (error : TransportError)
  | session (error : SessionError)
  | engineSubmit (error : AuthenticationEngineSubmitError)
  | engineStopped
  | unexpectedEngineUpdate
deriving DecidableEq, Repr

/-- Decodes and admits requests through authorization and session state. -/
structure BoundaryService where
  authorization : AuthorizationPolicy
  sessions : SessionManager

/-- The peer, the daemon clock, the template store and the engine of one connection.
The engine may observe whether the token of its job was raised. -/
structure Environment where
  peer : PeerIdentity
  clock : Nat → Nat
  read : Nat → Except TransportError Request
  write : Nat → Except TransportError Unit
  pending : Nat → Except TransportError Bool
  executable : Nat → Except ExecutableError VerifiedExecutable
  templates : Nat → TemplateSource
  submit : Nat → AuthenticationJob → Except AuthenticationEngineSubmitError Unit
  receive : Nat → Bool → Received

/-- The receiving half of one engine job: the token of the job, and whether its last
update was received. -/
structure AuthenticationEngineHandle where
  token : CancellationToken
  ended : Bool
deriving DecidableEq, Repr

/-- The daemon as one connection drives it. `answered` holds every response that was
drawn up, `delivered` those that were written, and `failed` says that some transport
operation failed. -/
structure World where
  boundary : BoundaryService
  moment : Nat
  answered : List Response
  delivered : List Response
  failed : Bool
  handle : Option AuthenticationEngineHandle

namespace World

/-- The session manager behind the boundary. -/
def sessions (world : World) : SessionManager := world.boundary.sessions

/-- The world with other sessions. -/
def withSessions (world : World) (sessions : SessionManager) : World :=
  { world with boundary := { world.boundary with sessions } }

/-- The world after one more interaction. -/
def tick (world : World) : World := { world with moment := world.moment + 1 }

/-- The world after a transport operation that failed. -/
def fail (world : World) : World := { world.tick with failed := true }

/-- Keep the outcome of a session operation whose response is not written. -/
def discard (world : World) (outcome : Except SessionError Response × SessionManager) : World :=
  match outcome with
  | (.ok response, sessions) =>
      { world.withSessions sessions with answered := world.answered ++ [response] }
  | (.error _, sessions) => world.withSessions sessions

/-- Whether the token of the submitted job was raised. -/
def cancelled (world : World) : Bool :=
  world.handle.any fun handle => world.sessions.isCancelled handle.token

end World

/-- The answer to one request, and the sessions after it. -/
def BoundaryService.process (boundary : BoundaryService) (peer : PeerIdentity)
    (executable : Except ExecutableError VerifiedExecutable) (connection : ConnectionToken)
    (nowMicros : Nat) : Request → Response × SessionManager
  | .authenticate context =>
      match executable with
      | .error _ =>
          (.rejected (some context.transactionId) .unauthorizedPeer, boundary.sessions)
      | .ok executable =>
          match boundary.authorization.authorize peer (some executable) context with
          | .ok grant =>
              match boundary.sessions.start grant connection nowMicros with
              | (.ok response, sessions) => (response, sessions)
              | (.error .busy, sessions) =>
                  (.rejected (some context.transactionId) .busy, sessions)
              | (.error _, sessions) =>
                  (.rejected (some context.transactionId) .serviceUnavailable, sessions)
          | .error .serviceNotAllowed =>
              (.rejected (some context.transactionId) .serviceNotAllowed, boundary.sessions)
          | .error _ =>
              (.rejected (some context.transactionId) .unauthorizedPeer, boundary.sessions)
  | .cancel transactionId =>
      match boundary.sessions.cancel connection transactionId nowMicros with
      | (.ok response, sessions) => (response, sessions)
      | (.error .wrongConnection, sessions) =>
          (.rejected (some transactionId) .unauthorizedPeer, sessions)
      | (.error .wrongTransaction, sessions) =>
          (.rejected (some transactionId) .unauthorizedPeer, sessions)
      | (.error _, sessions) =>
          (.rejected (some transactionId) .serviceUnavailable, sessions)

/-- Policies required to evaluate one engine result at the socket boundary. -/
structure AuthenticationConnectionPolicy where
  authentication : AuthPolicy
  passivePad : PassivePadPolicy

/-- The completion that an engine result asks for. -/
def derivedCompletion (connection : ConnectionToken) (policy : AuthenticationConnectionPolicy)
    (evidence : DerivedAuthenticationEvidence) : AuthenticationCompletion where
  connection := connection
  transactionId := evidence.transactionId
  policy := policy.authentication
  passivePadPolicy := policy.passivePad
  observation := evidence.observation
  nowMicros := evidence.completedAtMicros

section Operations

variable (environment : Environment)

/-- Write one response to the peer. -/
def deliver (response : Response) (world : World) : Except BoundaryError Response × World :=
  match environment.write world.moment with
  | .ok () =>
      (.ok response, { world.tick with
        answered := world.answered ++ [response]
        delivered := world.delivered ++ [response] })
  | .error error =>
      (.error (.transport error), { world.fail with
        answered := world.answered ++ [response] })

/-- Write the response of a session operation, or hand on its error. -/
def respond (outcome : Except SessionError Response × SessionManager) (world : World) :
    Except BoundaryError Response × World :=
  match outcome with
  | (.ok response, sessions) => deliver environment response (world.withSessions sessions)
  | (.error error, sessions) => (.error (.session error), world.withSessions sessions)

/-- Read and process one request from an already peer-credentialed connection. -/
def handleOne (connection : ConnectionToken) (nowMicros : Nat) (world : World) :
    Except BoundaryError Response × World :=
  match environment.read world.moment with
  | .error error => (.error (.transport error), world.fail)
  | .ok request =>
      match world.boundary.process environment.peer (environment.executable world.moment)
          connection nowMicros request with
      | (response, sessions) => deliver environment response (world.tick.withSessions sessions)

/-- Emit one transaction-bound, non-biometric progress response. -/
def sendProgress (connection : ConnectionToken) (transactionId : TransactionId)
    (progress : ProgressCode) (nowMicros : Nat) (world : World) :
    Except BoundaryError Response × World :=
  respond environment (world.sessions.progress connection transactionId progress nowMicros) world

/-- Complete one authentication transaction and write its terminal response. -/
def sendCompletion (completion : AuthenticationCompletion) (world : World) :
    Except BoundaryError Response × World :=
  respond environment (completeAuthentication world.sessions
    (environment.templates world.moment) completion) world

/-- Evaluate a successful engine result and emit one terminal response. -/
def sendDerivedCompletion (connection : ConnectionToken)
    (policy : AuthenticationConnectionPolicy) (evidence : DerivedAuthenticationEvidence)
    (world : World) : Except BoundaryError Response × World :=
  sendCompletion environment (derivedCompletion connection policy evidence) world

/-- Consume an active transaction with a sanitized internal failure. -/
def sendEngineFailure (connection : ConnectionToken) (transactionId : TransactionId)
    (nowMicros : Nat) (world : World) : Except BoundaryError Response × World :=
  respond environment
    (world.sessions.complete connection transactionId .internalError nowMicros) world

end Operations

section World

variable (world : World) (sessions : SessionManager)

/-- The sessions are those that were put in. -/
@[simp] theorem World.sessions_withSessions : (world.withSessions sessions).sessions = sessions :=
  rfl

/-- The answers do not depend on the sessions. -/
@[simp] theorem World.answered_withSessions :
    (world.withSessions sessions).answered = world.answered := rfl

/-- The handle does not depend on the sessions. -/
@[simp] theorem World.handle_withSessions : (world.withSessions sessions).handle = world.handle :=
  rfl

/-- A moment passes. -/
@[simp] theorem World.moment_tick : world.tick.moment = world.moment + 1 := rfl

/-- The handle does not depend on the time. -/
@[simp] theorem World.handle_tick : world.tick.handle = world.handle := rfl

end World

section Deliver

variable (environment : Environment) (response : Response) (world : World)

/-- Delivering leaves the sessions. -/
@[simp] theorem sessions_deliver :
    (deliver environment response world).2.sessions = world.sessions := by
  unfold deliver
  split <;> rfl

/-- Delivering takes one moment. -/
@[simp] theorem moment_deliver :
    (deliver environment response world).2.moment = world.moment + 1 := by
  unfold deliver
  split <;> rfl

/-- What is delivered is the last answer. -/
@[simp] theorem answered_deliver :
    (deliver environment response world).2.answered = world.answered ++ [response] := by
  unfold deliver
  split <;> rfl

/-- Delivering leaves the handle. -/
@[simp] theorem handle_deliver :
    (deliver environment response world).2.handle = world.handle := by
  unfold deliver
  split <;> rfl

/-- A response is written, or the connection has failed. -/
theorem delivered_or_failed :
    (deliver environment response world).2.failed = true ∨
      (deliver environment response world).2.delivered = world.delivered ++ [response] := by
  unfold deliver
  cases environment.write world.moment with
  | ok _ => exact .inr rfl
  | error error => exact .inl rfl

variable {environment response world}

/-- A connection that has failed does not recover. -/
theorem failed_deliver (failed : world.failed = true) :
    (deliver environment response world).2.failed = true := by
  unfold deliver
  cases environment.write world.moment with
  | ok _ => exact failed
  | error error => rfl

/-- A successful write returns the response. -/
theorem deliver_of_ok (written : environment.write world.moment = .ok ()) :
    (deliver environment response world).1 = .ok response ∧
      (deliver environment response world).2.failed = world.failed := by
  rw [deliver, written]
  exact ⟨rfl, rfl⟩

/-- A failed write breaks the connection. -/
theorem deliver_of_error {error : TransportError}
    (broken : environment.write world.moment = .error error) :
    (deliver environment response world).1 = .error (.transport error) ∧
      (deliver environment response world).2.failed = true := by
  rw [deliver, broken]
  exact ⟨rfl, rfl⟩

/-- The whole result of a successful write. -/
theorem deliver_eq_of_ok (written : environment.write world.moment = .ok ()) :
    deliver environment response world =
      (.ok response, (deliver environment response world).2) :=
  Prod.ext (deliver_of_ok written).1 rfl

/-- The whole result of a failed write. -/
theorem deliver_eq_of_error {error : TransportError}
    (broken : environment.write world.moment = .error error) :
    deliver environment response world =
      (.error (.transport error), (deliver environment response world).2) :=
  Prod.ext (deliver_of_error broken).1 rfl

end Deliver

section Bound

variable {environment : Environment} {connection : ConnectionToken}
  {transactionId : TransactionId} {active : ActiveSession} {world : World}

/-- Progress of the transaction is written, or its timeout once the deadline has passed. -/
theorem sendProgress_of_bound (bound : world.sessions.Bound connection transactionId active)
    (code : ProgressCode) (nowMicros : Nat) :
    sendProgress environment connection transactionId code nowMicros world =
      if active.deadlineMicros ≤ nowMicros then
        deliver environment (.completed transactionId .timedOut)
          (world.withSessions (world.sessions.release active))
      else deliver environment (.progress transactionId code) world := by
  rw [sendProgress, SessionManager.progress_of_bound bound]
  by_cases late : active.deadlineMicros ≤ nowMicros
  · rw [if_pos late, if_pos late]
    rfl
  · rw [if_neg late, if_neg late]
    rfl

/-- A failure of the engine completes the transaction. -/
theorem sendEngineFailure_of_bound (bound : world.sessions.Bound connection transactionId active)
    (nowMicros : Nat) :
    sendEngineFailure environment connection transactionId nowMicros world =
      deliver environment (.completed transactionId
        (if active.deadlineMicros ≤ nowMicros then .timedOut else .internalError))
        (world.withSessions (world.sessions.release active)) := by
  rw [sendEngineFailure, SessionManager.complete_of_bound bound rfl]
  rfl

/-- Derived evidence completes the transaction, by the time that the evidence carries. -/
theorem sendDerivedCompletion_of_bound {policy : AuthenticationConnectionPolicy}
    {evidence : DerivedAuthenticationEvidence}
    (bound : world.sessions.Bound connection evidence.transactionId active) :
    sendDerivedCompletion environment connection policy evidence world =
      deliver environment (.completed evidence.transactionId
        (if active.deadlineMicros ≤ evidence.completedAtMicros then .timedOut
          else derivedDecision (environment.templates world.moment)
            (derivedCompletion connection policy evidence) active.grant.targetUid))
        (world.withSessions (world.sessions.release active)) := by
  have owner : world.sessions.Bound (derivedCompletion connection policy evidence).connection
      (derivedCompletion connection policy evidence).transactionId active := bound
  rw [sendDerivedCompletion, sendCompletion, completeAuthentication_of_bound owner]
  rfl

/-- Evidence for another transaction changes nothing. -/
theorem sendDerivedCompletion_of_foreign {policy : AuthenticationConnectionPolicy}
    {evidence : DerivedAuthenticationEvidence}
    (foreign : world.sessions.Foreign connection evidence.transactionId) :
    ∃ error, sendDerivedCompletion environment connection policy evidence world =
      (.error (.session error), world) := by
  have stranger : world.sessions.Foreign (derivedCompletion connection policy evidence).connection
      (derivedCompletion connection policy evidence).transactionId := foreign
  obtain ⟨error, refused⟩ : ∃ error, completeAuthentication world.sessions
      (environment.templates world.moment) (derivedCompletion connection policy evidence) =
        (.error error, world.sessions) := completeAuthentication_of_foreign stranger
  refine ⟨error, ?_⟩
  rw [sendDerivedCompletion, sendCompletion, refused]
  rfl

/-- The owner's cancellation ends the session. -/
theorem process_cancel_of_bound {boundary : BoundaryService}
    (bound : boundary.sessions.Bound connection transactionId active) (peer : PeerIdentity)
    (executable : Except ExecutableError VerifiedExecutable) (nowMicros : Nat) :
    boundary.process peer executable connection nowMicros (.cancel transactionId) =
      (.completed transactionId
        (if active.deadlineMicros ≤ nowMicros then .timedOut else .cancelled),
        boundary.sessions.release active) := by
  rw [BoundaryService.process, SessionManager.cancel_of_bound bound]

/-- Any other request on the owner's connection is rejected and changes nothing. -/
theorem process_other_of_bound {boundary : BoundaryService}
    (bound : boundary.sessions.Bound connection transactionId active) (peer : PeerIdentity)
    (executable : Except ExecutableError VerifiedExecutable) (nowMicros : Nat)
    {request : Request} (other : request ≠ .cancel transactionId) :
    ∃ subject reason, boundary.process peer executable connection nowMicros request =
      (.rejected subject reason, boundary.sessions) := by
  cases request with
  | authenticate context =>
      cases executable with
      | error error => exact ⟨_, _, rfl⟩
      | ok executable =>
          simp only [BoundaryService.process]
          cases boundary.authorization.authorize peer (some executable) context with
          | ok grant =>
              dsimp only
              rw [SessionManager.start_of_active bound.1]
              exact ⟨_, _, rfl⟩
          | error error => cases error <;> exact ⟨_, _, rfl⟩
  | cancel wanted =>
      have distinct : wanted ≠ transactionId := fun same => other (same ▸ rfl)
      obtain ⟨error, refused⟩ := SessionManager.cancel_of_foreign
        (SessionManager.foreign_of_bound bound distinct) nowMicros
      rw [BoundaryService.process, refused]
      cases error <;> exact ⟨_, _, rfl⟩

/-- With an empty slot, a request starts a session or is rejected. -/
theorem process_of_empty {boundary : BoundaryService} (empty : boundary.sessions.active = none)
    (peer : PeerIdentity) (executable : Except ExecutableError VerifiedExecutable)
    (connection : ConnectionToken) (nowMicros : Nat) (request : Request) :
    (∃ context grant, request = .authenticate context ∧
      boundary.process peer executable connection nowMicros request =
        (.started grant.transactionId, { boundary.sessions with
          active := some (boundary.sessions.opened grant connection nowMicros)
          flags := boundary.sessions.flags.allocate })) ∨
    ∃ subject reason, boundary.process peer executable connection nowMicros request =
      (.rejected subject reason, boundary.sessions) := by
  cases request with
  | authenticate context =>
      cases executable with
      | error error => exact .inr ⟨_, _, rfl⟩
      | ok executable =>
          simp only [BoundaryService.process]
          cases boundary.authorization.authorize peer (some executable) context with
          | error error => exact .inr (by cases error <;> exact ⟨_, _, rfl⟩)
          | ok grant =>
              dsimp only
              rw [SessionManager.start_of_empty empty]
              by_cases fits : nowMicros + boundary.sessions.config.transactionDurationMicros ≤
                  U64_MAX
              · rw [if_pos fits]
                exact .inl ⟨context, grant, rfl, rfl⟩
              · rw [if_neg fits]
                exact .inr ⟨_, _, rfl⟩
  | cancel wanted =>
      have foreign : boundary.sessions.Foreign connection wanted := by
        rintro owner ⟨held, -⟩
        rw [empty] at held
        cases held
      obtain ⟨error, refused⟩ := SessionManager.cancel_of_foreign foreign nowMicros
      rw [BoundaryService.process, refused]
      exact .inr (by cases error <;> exact ⟨_, _, rfl⟩)

end Bound

end FaceAuth
