import FaceAuth.Daemon.Boundary
import FaceAuth.Foundation.Loop

/-!
# The connection coordinator

One accepted connection from its first request to the return of the handler.
After the transaction is admitted and its job submitted, every iteration of the
loop waits for one engine update and then looks once at the client.
-/

namespace FaceAuth

open Foundation

/-- How often a cancelled engine is asked for what it still has. -/
def MAX_CANCEL_DRAIN_POLLS : Nat := 400

/-- What waiting for the engine finds at this moment. -/
def Environment.next (environment : Environment) (world : World) : Received :=
  environment.receive world.moment world.cancelled

/-- The world after a wait for the engine. -/
def World.received (world : World) (received : Received) : World :=
  { world.tick with
    handle := world.handle.map fun handle =>
      { handle with ended := handle.ended || decide received.IsLast } }

/-- The world at the start of one connection. -/
def World.start (boundary : BoundaryService) : World := ⟨boundary, 0, [], [], false, none⟩

section Definitions

variable (environment : Environment) (policy : AuthenticationConnectionPolicy)
  (connection : ConnectionToken) (transactionId : TransactionId)

/-- Wait for the terminal update of a cancelled job, for a bounded number of polls. -/
def drainCancelledEngine : Nat → World → Except BoundaryError Unit × World
  | 0, world => (.error .engineStopped, world)
  | polls + 1, world =>
      match environment.next world with
      | .update (.completed subject result) =>
          (.ok (), world.received (.update (.completed subject result)))
      | .update (.progress subject code) =>
          drainCancelledEngine polls (world.received (.update (.progress subject code)))
      | .timeout => drainCancelledEngine polls (world.received .timeout)
      | .disconnected => (.error .engineStopped, world.received .disconnected)

/-- Return with the answer of a boundary operation. -/
def finish (answer : Except BoundaryError Response × World) :
    Flow World (Except BoundaryError Response) :=
  .done answer.1 answer.2

/-- Drain the cancelled job, then return. A failed drain replaces the result. -/
def drainThen (result : Except BoundaryError Response) (world : World) :
    Flow World (Except BoundaryError Response) :=
  match drainCancelledEngine environment MAX_CANCEL_DRAIN_POLLS world with
  | (.ok (), world) => .done result world
  | (.error error, world) => .done (.error error) world

/-- Cancel the transaction after a failure on its connection, then drain its job. -/
def abandon (error : BoundaryError) (world : World) :
    Flow World (Except BoundaryError Response) :=
  drainThen environment (.error error)
    (world.discard
      (world.sessions.cancel connection transactionId (environment.clock world.moment)))

/-- Look once at the client, and serve its request when there is one. -/
def pollClient (world : World) : Flow World (Except BoundaryError Response) :=
  match environment.pending world.moment with
  | .ok false => .again world.tick
  | .ok true =>
      match handleOne environment connection (environment.clock (world.moment + 1)) world.tick with
      | (.ok response, world) =>
          if response.IsCompletion then drainThen environment (.ok response) world
          else .again world
      | (.error error, world) => abandon environment connection transactionId error world
  | .error error =>
      abandon environment connection transactionId (.transport error) world.fail

/-- End the transaction with an internal failure. -/
def failEngine (world : World) : Flow World (Except BoundaryError Response) :=
  finish (sendEngineFailure environment connection transactionId
    (environment.clock world.moment) world)

/-- One iteration of the coordinator's loop. -/
def coordinatorStep (world : World) : Flow World (Except BoundaryError Response) :=
  match environment.next world with
  | .update (.progress subject code) =>
      let after := world.received (.update (.progress subject code))
      if subject = transactionId then
        match sendProgress environment connection transactionId code
            (environment.clock after.moment) after with
        | (.ok response, after) =>
            if response.IsCompletion then drainThen environment (.ok response) after
            else pollClient environment connection transactionId after
        | (.error error, after) => .done (.error error) after
      else failEngine environment connection transactionId after
  | .update (.completed subject result) =>
      let after := world.received (.update (.completed subject result))
      if subject = transactionId then
        match result with
        | .ok evidence =>
            finish (sendDerivedCompletion environment connection policy evidence after)
        | .error _ => failEngine environment connection transactionId after
      else failEngine environment connection transactionId after
  | .disconnected =>
      failEngine environment connection transactionId (world.received .disconnected)
  | .timeout => pollClient environment connection transactionId (world.received .timeout)

/-- Submit the job of an admitted transaction, and coordinate it to its end. -/
def coordinateStartedAuthentication (fuel : Nat) (world : World) :
    Option (Except BoundaryError Response × World) :=
  match AuthenticationJob.fromSession world.sessions connection transactionId with
  | .error error => some (.error (.session error), world)
  | .ok job =>
      match environment.submit world.moment job with
      | .error _ =>
          some (sendEngineFailure environment connection transactionId
            (environment.clock (world.moment + 1)) world.tick)
      | .ok () =>
          iterate (coordinatorStep environment policy connection transactionId) fuel
            { world.tick with handle := some ⟨job.cancellation, false⟩ }

end Definitions

/-- Run one complete authenticated socket transaction, within a bound on the
iterations of its loop. -/
def coordinateAuthenticationConnection (environment : Environment)
    (policy : AuthenticationConnectionPolicy) (connection : ConnectionToken) (fuel : Nat)
    (boundary : BoundaryService) : Option (Except BoundaryError Response × World) :=
  match handleOne environment connection (environment.clock 0) (.start boundary) with
  | (.ok (.started transactionId), world) =>
      coordinateStartedAuthentication environment policy connection transactionId fuel world
  | (.ok admission, world) => some (.ok admission, world)
  | (.error error, world) => some (.error error, world)

/-! ## The state between two iterations -/

/-- The transaction is active, its token is down and its job has not ended. -/
structure Live (connection : ConnectionToken) (transactionId : TransactionId)
    (active : ActiveSession) (world : World) : Prop where
  bound : world.sessions.Bound connection transactionId active
  allocated : active.cancellation.address < world.sessions.flags.size
  down : world.sessions.isCancelled active.cancellation = false
  handle : world.handle = some ⟨active.cancellation, false⟩

/-- The slot is empty, the token is raised and the job has not ended. -/
structure Closed (active : ActiveSession) (world : World) : Prop where
  empty : world.sessions.active = none
  raised : world.sessions.isCancelled active.cancellation = true
  handle : world.handle = some ⟨active.cancellation, false⟩

/-- The worker's last update arrives within the polls of a drain that begins at the
moment. -/
def DrainSettles (environment : Environment) (moment : Nat) : Prop :=
  ∃ poll < MAX_CANCEL_DRAIN_POLLS, (environment.receive (moment + poll) true).IsLast

section Specs

variable {environment : Environment} {policy : AuthenticationConnectionPolicy}
  {connection : ConnectionToken} {transactionId : TransactionId} {active : ActiveSession}
  {world : World}

/-- Receiving an update leaves the sessions. -/
@[simp] theorem World.sessions_received (received : Received) :
    (world.received received).sessions = world.sessions := rfl

/-- Receiving an update takes one moment. -/
@[simp] theorem World.moment_received (received : Received) :
    (world.received received).moment = world.moment + 1 := rfl

/-- Receiving an update answers nothing. -/
@[simp] theorem World.answered_received (received : Received) :
    (world.received received).answered = world.answered := rfl

/-- The last update ends the handle. -/
theorem World.handle_received {token : CancellationToken} {ended : Bool}
    (held : world.handle = some ⟨token, ended⟩) (received : Received) :
    (world.received received).handle = some ⟨token, ended || decide received.IsLast⟩ := by
  rw [World.received, held]
  rfl

/-- A live coordinator receives from an engine that was not cancelled. -/
theorem Live.next (live : Live connection transactionId active world) :
    environment.next world = environment.receive world.moment false := by
  rw [Environment.next, World.cancelled, live.handle, Option.any_some, live.down]

/-- Being live depends on the sessions and the handle only. -/
theorem Live.congr (live : Live connection transactionId active world) {other : World}
    (sessions : other.sessions = world.sessions) (handle : other.handle = world.handle) :
    Live connection transactionId active other where
  bound := sessions ▸ live.bound
  allocated := sessions ▸ live.allocated
  down := sessions ▸ live.down
  handle := handle.trans live.handle

/-- Time alone ends nothing. -/
theorem Live.tick (live : Live connection transactionId active world) :
    Live connection transactionId active world.tick := live.congr rfl rfl

/-- A broken connection alone ends nothing. -/
theorem Live.fail (live : Live connection transactionId active world) :
    Live connection transactionId active world.fail := live.congr rfl rfl

/-- A receipt that is not the last one keeps the transaction live. -/
theorem Live.received (live : Live connection transactionId active world) {received : Received}
    (more : ¬ received.IsLast) :
    Live connection transactionId active (world.received received) where
  bound := live.bound
  allocated := live.allocated
  down := live.down
  handle := by
    rw [World.handle_received live.handle, decide_eq_false more]
    rfl

/-- A delivery alone ends nothing. -/
theorem Live.deliver (live : Live connection transactionId active world)
    (environment : Environment) (response : Response) :
    Live connection transactionId active (deliver environment response world).2 :=
  live.congr (sessions_deliver environment response world)
    (handle_deliver environment response world)

/-- Releasing the session closes the transaction. -/
theorem Live.release (live : Live connection transactionId active world) :
    Closed active (world.withSessions (world.sessions.release active)) where
  empty := rfl
  raised := Flags.isRaised_raise_self _ _ live.allocated
  handle := live.handle

/-- Being closed depends on the sessions and the handle only. -/
theorem Closed.congr (closed : Closed active world) {other : World}
    (sessions : other.sessions = world.sessions) (handle : other.handle = world.handle) :
    Closed active other where
  empty := sessions ▸ closed.empty
  raised := sessions ▸ closed.raised
  handle := handle.trans closed.handle

/-- A delivery alone reopens nothing. -/
theorem Closed.deliver (closed : Closed active world) (environment : Environment)
    (response : Response) :
    Closed active (FaceAuth.deliver environment response world).2 :=
  closed.congr (sessions_deliver environment response world)
    (handle_deliver environment response world)

/-- What a drain leaves as it was. -/
structure Undisturbed (before after : World) : Prop where
  sessions : after.sessions = before.sessions
  answered : after.answered = before.answered
  delivered : after.delivered = before.delivered
  failed : after.failed = before.failed

/-- A closed coordinator receives from an engine that was cancelled. -/
theorem Closed.next (closed : Closed active world) :
    environment.next world = environment.receive world.moment true := by
  rw [Environment.next, World.cancelled, closed.handle, Option.any_some, closed.raised]

/-- A closed coordinator stays so until the last update. -/
theorem Closed.received (closed : Closed active world) {received : Received}
    (more : ¬ received.IsLast) : Closed active (world.received received) where
  empty := closed.empty
  raised := closed.raised
  handle := by
    rw [World.handle_received closed.handle, decide_eq_false more]
    rfl

/-- Among one more poll, either the first one finds it or a later one does. -/
theorem exists_poll_succ {found : Nat → Prop} {polls : Nat} :
    (∃ poll < polls + 1, found poll) ↔ found 0 ∨ ∃ poll < polls, found (poll + 1) := by
  constructor
  · rintro ⟨poll, small, holds⟩
    cases poll with
    | zero => exact .inl holds
    | succ poll => exact .inr ⟨poll, Nat.lt_of_succ_lt_succ small, holds⟩
  · rintro (holds | ⟨poll, small, holds⟩)
    · exact ⟨0, Nat.succ_pos polls, holds⟩
    · exact ⟨poll + 1, Nat.succ_lt_succ small, holds⟩

variable (environment) in
/-- A drain changes nothing but the job, and ends it exactly when the worker's last
update arrives within its polls. -/
theorem drainCancelledEngine_spec (polls : Nat) (closed : Closed active world) :
    Undisturbed world (drainCancelledEngine environment polls world).2 ∧
      ∃ ended, (drainCancelledEngine environment polls world).2.handle =
          some ⟨active.cancellation, ended⟩ ∧
        (ended = true ↔
          ∃ poll < polls, (environment.receive (world.moment + poll) true).IsLast) := by
  induction polls generalizing world with
  | zero =>
      refine ⟨⟨rfl, rfl, rfl, rfl⟩, false, closed.handle, ?_⟩
      simp
  | succ polls ih =>
      have waits : ∀ received, environment.receive world.moment true = received →
          ¬ received.IsLast →
          Undisturbed world
              (drainCancelledEngine environment polls (world.received received)).2 ∧
            ∃ ended, (drainCancelledEngine environment polls (world.received received)).2.handle =
                some ⟨active.cancellation, ended⟩ ∧
              (ended = true ↔ ∃ poll < polls + 1,
                (environment.receive (world.moment + poll) true).IsLast) := by
        intro received found more
        obtain ⟨same, ended, handle, exact_⟩ := ih (closed.received more)
        have first : ¬ (environment.receive (world.moment + 0) true).IsLast := by
          rw [Nat.add_zero, found]
          exact more
        refine ⟨⟨same.sessions, same.answered, same.delivered, same.failed⟩, ended, handle, ?_⟩
        rw [exact_, exists_poll_succ, or_iff_right first]
        simp only [World.moment_received, Nat.add_right_comm world.moment 1, Nat.add_assoc]
      have stops : ∀ received, environment.receive world.moment true = received →
          received.IsLast →
          Undisturbed world (world.received received) ∧
            ∃ ended, (world.received received).handle = some ⟨active.cancellation, ended⟩ ∧
              (ended = true ↔ ∃ poll < polls + 1,
                (environment.receive (world.moment + poll) true).IsLast) := by
        intro received found last
        refine ⟨⟨rfl, rfl, rfl, rfl⟩, true, ?_, ?_⟩
        · rw [World.handle_received closed.handle, decide_eq_true last]
          rfl
        · refine iff_of_true rfl ⟨0, Nat.succ_pos polls, ?_⟩
          rw [Nat.add_zero, found]
          exact last
      rw [drainCancelledEngine, closed.next]
      cases found : environment.receive world.moment true with
      | update update =>
          cases update with
          | progress subject code => exact waits _ found id
          | completed subject result => exact stops _ found trivial
      | timeout => exact waits _ found id
      | disconnected => exact stops _ found trivial

/-- Draining fails in one way only. -/
theorem drainCancelledEngine_error (environment : Environment) (polls : Nat) (world : World)
    (error : BoundaryError)
    (stopped : (drainCancelledEngine environment polls world).1 = .error error) :
    error = .engineStopped := by
  induction polls generalizing world with
  | zero =>
      cases stopped
      rfl
  | succ polls ih =>
      rw [drainCancelledEngine] at stopped
      cases found : environment.next world with
      | update update =>
          rw [found] at stopped
          cases update with
          | progress subject code => exact ih _ stopped
          | completed subject result => cases stopped
      | timeout =>
          rw [found] at stopped
          exact ih _ stopped
      | disconnected =>
          rw [found] at stopped
          cases stopped
          rfl

variable (environment) in
/-- Draining disturbs nothing but the handle, which ends exactly when the engine settles. -/
theorem drainThen_spec (closed : Closed active world)
    (result : Except BoundaryError Response) :
    ∃ answer final, drainThen environment result world = .done answer final ∧
      (answer = result ∨ answer = .error .engineStopped) ∧ Undisturbed world final ∧
      ∃ ended, final.handle = some ⟨active.cancellation, ended⟩ ∧
        (ended = true ↔ DrainSettles environment world.moment) := by
  have spec := drainCancelledEngine_spec environment MAX_CANCEL_DRAIN_POLLS closed
  have failure := drainCancelledEngine_error environment MAX_CANCEL_DRAIN_POLLS world
  unfold drainThen
  generalize drainCancelledEngine environment MAX_CANCEL_DRAIN_POLLS world = drained
    at spec failure ⊢
  obtain ⟨outcome, after⟩ := drained
  cases outcome with
  | ok nothing => exact ⟨result, after, rfl, .inl rfl, spec⟩
  | error error =>
      rw [failure error rfl]
      exact ⟨_, after, rfl, .inr rfl, spec⟩

end Specs

/-! ## What an iteration can do -/

section Cases

variable (environment : Environment) (policy : AuthenticationConnectionPolicy)
  (connection : ConnectionToken) (transactionId : TransactionId) (active : ActiveSession)

/-- The answer of the session manager to the owner's cancellation. -/
def cancellationAnswer (nowMicros : Nat) : Response :=
  .completed transactionId (if active.deadlineMicros ≤ nowMicros then .timedOut else .cancelled)

/-- The world after the owner's session was released with an answer that is not
written. -/
def World.abandoned (world : World) : World :=
  { world.withSessions (world.sessions.release active) with
    answered := world.answered ++
      [cancellationAnswer transactionId active (environment.clock world.moment)] }

/-- How a look at the client fails. -/
inductive Lost (world : World) : TransportError → World → Prop where
  | poll {error : TransportError} (broken : environment.pending world.moment = .error error) :
      Lost world error world.fail
  | read {error : TransportError} (pending : environment.pending world.moment = .ok true)
      (broken : environment.read (world.moment + 1) = .error error) :
      Lost world error world.tick.fail
  | write {error : TransportError} {request : Request} {subject : Option TransactionId}
      {reason : RejectionCode} (pending : environment.pending world.moment = .ok true)
      (read : environment.read (world.moment + 1) = .ok request)
      (other : request ≠ .cancel transactionId)
      (broken : environment.write (world.moment + 2) = .error error) :
      Lost world error (deliver environment (.rejected subject reason) world.tick.tick).2

/-- What a look at the client can do while the transaction is live. -/
inductive Polled (world : World) : Flow World (Except BoundaryError Response) → Prop where
  | idle (quiet : environment.pending world.moment = .ok false) : Polled world (.again world.tick)
  | refused {request : Request} {subject : Option TransactionId} {reason : RejectionCode}
      (pending : environment.pending world.moment = .ok true)
      (read : environment.read (world.moment + 1) = .ok request)
      (other : request ≠ .cancel transactionId)
      (written : environment.write (world.moment + 2) = .ok ()) :
      Polled world (.again (deliver environment (.rejected subject reason) world.tick.tick).2)
  | cancelled (pending : environment.pending world.moment = .ok true)
      (read : environment.read (world.moment + 1) = .ok (.cancel transactionId))
      {answer : Except BoundaryError Response × World}
      (written : answer = deliver environment
        (cancellationAnswer transactionId active (environment.clock (world.moment + 1)))
        (world.tick.tick.withSessions (world.sessions.release active))) :
      Polled world (drainThen environment answer.1 answer.2)
  | lost {error : TransportError} {after : World}
      (cause : Lost environment transactionId world error after) :
      Polled world (drainThen environment (.error (.transport error))
        (after.abandoned environment transactionId active))

/-- The answer of the session manager to an internal failure. -/
def failureAnswer (nowMicros : Nat) : Response :=
  .completed transactionId
    (if active.deadlineMicros ≤ nowMicros then .timedOut else .internalError)

/-- The answer of the session manager to derived evidence. -/
def derivedAnswer (evidence : DerivedAuthenticationEvidence) (moment : Nat) : Response :=
  .completed transactionId
    (if active.deadlineMicros ≤ evidence.completedAtMicros then .timedOut
      else derivedDecision (environment.templates moment)
        (derivedCompletion connection policy evidence) active.grant.targetUid)

/-- What the coordinator takes for a failure of the engine. -/
inductive Faulty : Received → Prop where
  | progress {subject : TransactionId} {code : ProgressCode} (other : subject ≠ transactionId) :
      Faulty (.update (.progress subject code))
  | foreign {subject : TransactionId} {evidence : DerivedAuthenticationEvidence}
      (other : subject ≠ transactionId) : Faulty (.update (.completed subject (.ok evidence)))
  | failure {subject : TransactionId} {failure : AuthenticationEngineFailure} :
      Faulty (.update (.completed subject (.error failure)))
  | gone : Faulty .disconnected

/-- What one iteration can do while the transaction is live. -/
inductive Stepped (world : World) : Flow World (Except BoundaryError Response) → Prop where
  | silent {flow : Flow World (Except BoundaryError Response)}
      (found : environment.receive world.moment false = .timeout)
      (polled : Polled environment transactionId active (world.received .timeout) flow) :
      Stepped world flow
  | progressed {flow : Flow World (Except BoundaryError Response)} {code : ProgressCode}
      (found : environment.receive world.moment false = .update (.progress transactionId code))
      (early : environment.clock (world.moment + 1) < active.deadlineMicros)
      (written : environment.write (world.moment + 1) = .ok ())
      (polled : Polled environment transactionId active
        (deliver environment (.progress transactionId code)
          (world.received (.update (.progress transactionId code)))).2 flow) :
      Stepped world flow
  | progressLost {code : ProgressCode} {error : TransportError}
      (found : environment.receive world.moment false = .update (.progress transactionId code))
      (early : environment.clock (world.moment + 1) < active.deadlineMicros)
      (broken : environment.write (world.moment + 1) = .error error) :
      Stepped world (.done (.error (.transport error))
        (deliver environment (.progress transactionId code)
          (world.received (.update (.progress transactionId code)))).2)
  | timedOut {code : ProgressCode}
      (found : environment.receive world.moment false = .update (.progress transactionId code))
      (late : active.deadlineMicros ≤ environment.clock (world.moment + 1))
      (written : environment.write (world.moment + 1) = .ok ()) :
      Stepped world (drainThen environment (.ok (.completed transactionId .timedOut))
        (deliver environment (.completed transactionId .timedOut)
          ((world.received (.update (.progress transactionId code))).withSessions
            (world.sessions.release active))).2)
  | timeoutLost {code : ProgressCode} {error : TransportError}
      (found : environment.receive world.moment false = .update (.progress transactionId code))
      (late : active.deadlineMicros ≤ environment.clock (world.moment + 1))
      (broken : environment.write (world.moment + 1) = .error error) :
      Stepped world (.done (.error (.transport error))
        (deliver environment (.completed transactionId .timedOut)
          ((world.received (.update (.progress transactionId code))).withSessions
            (world.sessions.release active))).2)
  | failed {received : Received} (found : environment.receive world.moment false = received)
      (fault : Faulty transactionId received) :
      Stepped world (finish (deliver environment
        (failureAnswer transactionId active (environment.clock (world.moment + 1)))
        ((world.received received).withSessions (world.sessions.release active))))
  | derived {evidence : DerivedAuthenticationEvidence}
      (found : environment.receive world.moment false =
        .update (.completed transactionId (.ok evidence)))
      (own : evidence.transactionId = transactionId) :
      Stepped world (finish (deliver environment
        (derivedAnswer environment policy connection transactionId active evidence
          (world.moment + 1))
        ((world.received (.update (.completed transactionId (.ok evidence)))).withSessions
          (world.sessions.release active))))
  | foreign {evidence : DerivedAuthenticationEvidence} {error : SessionError}
      (found : environment.receive world.moment false =
        .update (.completed transactionId (.ok evidence)))
      (other : evidence.transactionId ≠ transactionId) :
      Stepped world (.done (.error (.session error))
        (world.received (.update (.completed transactionId (.ok evidence)))))

end Cases

section Inversion

variable {environment : Environment} {policy : AuthenticationConnectionPolicy}
  {connection : ConnectionToken} {transactionId : TransactionId} {active : ActiveSession}
  {world : World}

/-- Abandoning a live transaction cancels it before draining. -/
theorem abandon_of_live (live : Live connection transactionId active world)
    (error : BoundaryError) :
    abandon environment connection transactionId error world =
      drainThen environment (.error error)
        (world.abandoned environment transactionId active) := by
  rw [abandon, SessionManager.cancel_of_bound live.bound]
  rfl

/-- Abandoning a closed transaction drains only. -/
theorem abandon_of_closed (closed : Closed active world) (error : BoundaryError) :
    abandon environment connection transactionId error world =
      drainThen environment (.error error) world := by
  have foreign : world.sessions.Foreign connection transactionId := by
    rintro owner ⟨held, -⟩
    rw [closed.empty] at held
    cases held
  obtain ⟨reason, refused⟩ := SessionManager.cancel_of_foreign foreign
    (environment.clock world.moment)
  rw [abandon, refused]
  rfl

/-- What one poll of the client does. -/
theorem pollClient_cases (live : Live connection transactionId active world) :
    Polled environment transactionId active world
      (pollClient environment connection transactionId world) := by
  unfold pollClient
  cases pending : environment.pending world.moment with
  | error error =>
      dsimp only
      rw [abandon_of_live live.fail]
      exact .lost (.poll pending)
  | ok ready =>
      cases ready with
      | false => exact .idle pending
      | true =>
          dsimp only
          unfold handleOne
          cases read : environment.read world.tick.moment with
          | error error =>
              dsimp only
              rw [abandon_of_live live.tick.fail]
              exact .lost (.read pending read)
          | ok request =>
              dsimp only
              by_cases owner : request = .cancel transactionId
              · subst owner
                have answer := process_cancel_of_bound live.tick.bound environment.peer
                  (environment.executable world.tick.moment)
                  (environment.clock (world.moment + 1))
                have closed : Closed active (deliver environment
                    (cancellationAnswer transactionId active
                      (environment.clock (world.moment + 1)))
                    (world.tick.tick.withSessions (world.sessions.release active))).2 :=
                  live.tick.tick.release.deliver environment _
                have whole : Polled environment transactionId active world _ :=
                  .cancelled pending read rfl
                rw [answer]
                change Polled environment transactionId active world
                  (match deliver environment (cancellationAnswer transactionId active
                      (environment.clock (world.moment + 1)))
                      (world.tick.tick.withSessions (world.sessions.release active)) with
                  | (.ok response, after) =>
                      if response.IsCompletion then drainThen environment (.ok response) after
                      else .again after
                  | (.error error, after) =>
                      abandon environment connection transactionId error after)
                cases written : environment.write (world.moment + 2) with
                | ok _ =>
                    rw [deliver_eq_of_ok written] at whole ⊢
                    exact whole
                | error error =>
                    rw [deliver_eq_of_error written] at whole ⊢
                    dsimp only
                    rw [abandon_of_closed closed]
                    exact whole
              · obtain ⟨subject, reason, answer⟩ := process_other_of_bound live.tick.bound
                  environment.peer (environment.executable world.tick.moment)
                  (environment.clock (world.moment + 1)) owner
                have refused : Live connection transactionId active
                    (deliver environment (.rejected subject reason) world.tick.tick).2 :=
                  live.tick.tick.deliver environment _
                rw [answer]
                change Polled environment transactionId active world
                  (match deliver environment (.rejected subject reason) world.tick.tick with
                  | (.ok response, after) =>
                      if response.IsCompletion then drainThen environment (.ok response) after
                      else .again after
                  | (.error error, after) =>
                      abandon environment connection transactionId error after)
                cases written : environment.write (world.moment + 2) with
                | ok _ =>
                    rw [deliver_eq_of_ok written]
                    exact .refused pending read owner written
                | error error =>
                    rw [deliver_eq_of_error written]
                    dsimp only
                    rw [abandon_of_live refused]
                    exact .lost (.write pending read owner written)

/-- A failed engine completes a live transaction. -/
theorem failEngine_of_live (live : Live connection transactionId active world)
    (received : Received) :
    failEngine environment connection transactionId (world.received received) =
      finish (deliver environment
        (failureAnswer transactionId active (environment.clock (world.moment + 1)))
        ((world.received received).withSessions (world.sessions.release active))) := by
  have bound : (world.received received).sessions.Bound connection transactionId active :=
    live.bound
  rw [failEngine, sendEngineFailure_of_bound bound]
  rfl

/-- What one turn of the loop does. -/
theorem coordinatorStep_cases (live : Live connection transactionId active world) :
    Stepped environment policy connection transactionId active world
      (coordinatorStep environment policy connection transactionId world) := by
  unfold coordinatorStep
  rw [live.next]
  cases found : environment.receive world.moment false with
  | timeout => exact .silent found (pollClient_cases (live.received id))
  | disconnected =>
      dsimp only
      rw [failEngine_of_live live]
      exact .failed found .gone
  | update update =>
      cases update with
      | completed subject result =>
          dsimp only
          by_cases own : subject = transactionId
          · subst own
            rw [if_pos rfl]
            cases result with
            | error failure =>
                dsimp only
                rw [failEngine_of_live live]
                exact .failed found .failure
            | ok evidence =>
                dsimp only
                by_cases bound : evidence.transactionId = subject
                · subst bound
                  have owner : (world.received (.update (.completed evidence.transactionId
                      (.ok evidence)))).sessions.Bound connection evidence.transactionId active :=
                    live.bound
                  rw [sendDerivedCompletion_of_bound owner]
                  exact .derived found rfl
                · obtain ⟨error, refused⟩ : ∃ error, sendDerivedCompletion environment connection
                      policy evidence (world.received (.update (.completed subject
                        (.ok evidence)))) = (.error (.session error), world.received
                          (.update (.completed subject (.ok evidence)))) :=
                    sendDerivedCompletion_of_foreign
                      (SessionManager.foreign_of_bound live.bound bound)
                  rw [refused]
                  exact .foreign found bound
          · rw [if_neg own, failEngine_of_live live]
            refine .failed found ?_
            cases result with
            | ok evidence => exact .foreign own
            | error failure => exact .failure
      | progress subject code =>
          dsimp only
          by_cases own : subject = transactionId
          · subst own
            have after : Live connection subject active
                (world.received (.update (.progress subject code))) := live.received id
            rw [if_pos rfl, sendProgress_of_bound after.bound]
            by_cases late : active.deadlineMicros ≤
                environment.clock (world.received (.update (.progress subject code))).moment
            · rw [if_pos late]
              cases written : environment.write (world.moment + 1) with
              | ok _ =>
                  have sent : Stepped environment policy connection subject active world _ :=
                    .timedOut found late written
                  rw [deliver_eq_of_ok written]
                  exact sent
              | error error =>
                  have lost : Stepped environment policy connection subject active world _ :=
                    .timeoutLost found late written
                  rw [deliver_eq_of_error written]
                  exact lost
            · rw [if_neg late]
              have early := Nat.lt_of_not_le late
              cases written : environment.write (world.moment + 1) with
              | ok _ =>
                  rw [deliver_eq_of_ok written]
                  exact .progressed found early written
                    (pollClient_cases (after.deliver environment _))
              | error error =>
                  have lost : Stepped environment policy connection subject active world _ :=
                    .progressLost found early written
                  rw [deliver_eq_of_error written]
                  exact lost
          · rw [if_neg own, failEngine_of_live live]
            exact .failed found (.progress own)

/-- After a failed look the transaction is still live. -/
theorem Lost.live {error : TransportError} {after : World}
    (live : Live connection transactionId active world)
    (cause : Lost environment transactionId world error after) :
    Live connection transactionId active after := by
  cases cause with
  | poll broken => exact live.fail
  | read pending broken => exact live.tick.fail
  | write pending read other broken => exact live.tick.tick.deliver environment _

/-- A transaction that is abandoned is closed. -/
theorem Live.abandoned (live : Live connection transactionId active world)
    (environment : Environment) :
    Closed active (world.abandoned environment transactionId active) :=
  live.release.congr rfl rfl

/-- No drain goes on with the loop. -/
theorem drainThen_returns {result : Except BoundaryError Response} {next : World} :
    drainThen environment result world ≠ .again next := by
  intro goes
  unfold drainThen at goes
  split at goes <;> cases goes

/-- An iteration that goes on keeps the transaction live. -/
theorem Polled.live {flow : Flow World (Except BoundaryError Response)} {next : World}
    (live : Live connection transactionId active world)
    (polled : Polled environment transactionId active world flow) (goes : flow = .again next) :
    Live connection transactionId active next := by
  cases polled with
  | idle quiet =>
      cases goes
      exact live.tick
  | refused pending read other written =>
      cases goes
      exact live.tick.tick.deliver environment _
  | cancelled pending read written => exact absurd goes drainThen_returns
  | lost cause => exact absurd goes drainThen_returns

/-- The loop goes on with live transactions only. -/
theorem Stepped.live {flow : Flow World (Except BoundaryError Response)} {next : World}
    (live : Live connection transactionId active world)
    (stepped : Stepped environment policy connection transactionId active world flow)
    (goes : flow = .again next) : Live connection transactionId active next := by
  cases stepped with
  | silent found polled => exact polled.live (live.received id) goes
  | progressed found early written polled =>
      exact polled.live ((live.received id).deliver environment _) goes
  | timedOut found late written => exact absurd goes drainThen_returns
  | progressLost | timeoutLost | failed | derived | foreign => cases goes

end Inversion

/-! ## The start of a transaction -/

section Start

variable (environment : Environment) (connection : ConnectionToken)
  (boundary : BoundaryService) (active : ActiveSession)

/-- The world after the first request of a connection. -/
def requested : World :=
  (handleOne environment connection (environment.clock 0) (.start boundary)).2

/-- The first request of the connection starts the session. -/
def Opens : Prop :=
  boundary.sessions.active = none ∧
    (requested environment connection boundary).sessions.active = some active

/-- The world at the first iteration of the loop. -/
def firstHead : World :=
  { (requested environment connection boundary).tick with
    handle := some ⟨active.cancellation, false⟩ }

variable {environment connection boundary active}

/-- A session is started by an authorized request, with a deadline on the daemon clock
and a fresh token. -/
theorem Opens.request (opens : Opens environment connection boundary active) :
    ∃ context grant, environment.read 0 = .ok (.authenticate context) ∧
      active = boundary.sessions.opened grant connection (environment.clock 0) ∧
      handleOne environment connection (environment.clock 0) (.start boundary) =
        deliver environment (.started active.grant.transactionId)
          ((World.start boundary).tick.withSessions
            { boundary.sessions with
              active := some active
              flags := boundary.sessions.flags.allocate }) := by
  obtain ⟨empty, held⟩ := opens
  unfold requested handleOne at held
  unfold handleOne
  cases read : environment.read (World.start boundary).moment with
  | error error =>
      rw [read] at held
      change boundary.sessions.active = some active at held
      rw [empty] at held
      cases held
  | ok request =>
      rw [read] at held
      dsimp only at held ⊢
      obtain ⟨context, grant, rfl, answer⟩ | ⟨subject, reason, answer⟩ :=
        process_of_empty empty environment.peer
          (environment.executable (World.start boundary).moment) connection
          (environment.clock 0) request
      · change (World.start boundary).boundary.process _ _ _ _ _ = _ at answer
        rw [answer] at held ⊢
        dsimp only at held ⊢
        rw [sessions_deliver, World.sessions_withSessions, Option.some.injEq] at held
        subst held
        exact ⟨context, grant, read, rfl, rfl⟩
      · change (World.start boundary).boundary.process _ _ _ _ _ = _ at answer
        rw [answer] at held
        dsimp only at held
        rw [sessions_deliver, World.sessions_withSessions, empty] at held
        cases held

/-- The job of the session. -/
def jobOf (active : ActiveSession) : AuthenticationJob :=
  ⟨active.grant.transactionId, active.grant.targetUid, active.cancellation⟩

/-- How the world is when a request has been accepted. -/
theorem Opens.requested (opens : Opens environment connection boundary active) :
    (requested environment connection boundary).sessions.Bound connection
        active.grant.transactionId active ∧
      (requested environment connection boundary).sessions.flags =
        boundary.sessions.flags.allocate ∧
      active.cancellation.address = boundary.sessions.flags.size ∧
      (requested environment connection boundary).moment = 2 ∧
      (requested environment connection boundary).handle = none := by
  obtain ⟨context, grant, -, fresh, answer⟩ := opens.request
  unfold FaceAuth.requested
  rw [answer]
  refine ⟨⟨?_, ?_, rfl⟩, ?_, ?_, ?_, ?_⟩
  · rw [sessions_deliver]
    rfl
  · rw [fresh]
    rfl
  · rw [sessions_deliver]
    rfl
  · rw [fresh]
    rfl
  · rw [moment_deliver]
    rfl
  · rw [handle_deliver]
    rfl

/-- The loop begins with a live transaction. -/
theorem Opens.live (opens : Opens environment connection boundary active) :
    Live connection active.grant.transactionId active
      (firstHead environment connection boundary active) := by
  obtain ⟨bound, flags, address, -, -⟩ := opens.requested
  refine ⟨bound, ?_, ?_, rfl⟩
  · change _ < (FaceAuth.requested environment connection boundary).sessions.flags.size
    rw [flags, Flags.size_allocate, address]
    exact Nat.lt_succ_self _
  · change (FaceAuth.requested environment connection boundary).sessions.flags.isRaised _ = false
    rw [flags, Flags.isRaised_allocate, address]
    exact Flags.isRaised_of_size_le _ _ (Nat.le_refl _)

/-- The loop begins every iteration with a live transaction. -/
theorem Opens.visited (opens : Opens environment connection boundary active)
    {policy : AuthenticationConnectionPolicy} {head : World}
    (visited : Visited
      (coordinatorStep environment policy connection active.grant.transactionId)
      (firstHead environment connection boundary active) head) :
    Live connection active.grant.transactionId active head :=
  visited.invariant opens.live fun _ _ live goes => (coordinatorStep_cases live).live live goes

/-- The coordinator from the start of a transaction. -/
theorem coordinate_of_opens (opens : Opens environment connection boundary active)
    (policy : AuthenticationConnectionPolicy) (fuel : Nat) :
    coordinateAuthenticationConnection environment policy connection fuel boundary =
      match environment.write 1 with
      | .error error =>
          some (.error (.transport error), FaceAuth.requested environment connection boundary)
      | .ok () =>
          match environment.submit 2 (jobOf active) with
          | .error _ =>
              some (deliver environment (failureAnswer active.grant.transactionId active
                (environment.clock 3)) ((FaceAuth.requested environment connection
                  boundary).tick.withSessions ((FaceAuth.requested environment connection
                    boundary).sessions.release active)))
          | .ok () =>
              iterate (coordinatorStep environment policy connection active.grant.transactionId)
                fuel (firstHead environment connection boundary active) := by
  obtain ⟨context, grant, -, -, answer⟩ := opens.request
  obtain ⟨bound, -, -, moment, -⟩ := opens.requested
  have after : (handleOne environment connection (environment.clock 0) (.start boundary)).2 =
      FaceAuth.requested environment connection boundary := rfl
  rw [answer] at after
  unfold coordinateAuthenticationConnection
  rw [answer]
  cases written : environment.write 1 with
  | error error =>
      rw [deliver_eq_of_error written, after]
  | ok _ =>
      rw [deliver_eq_of_ok written, after]
      dsimp only
      rw [coordinateStartedAuthentication, AuthenticationJob.fromSession_of_bound bound, moment]
      change (match environment.submit 2 (jobOf active) with
        | .error _ => _
        | .ok () => _) = _
      cases environment.submit 2 (jobOf active) with
      | error error =>
          dsimp only
          have ticked : (FaceAuth.requested environment connection boundary).tick.sessions.Bound
              connection active.grant.transactionId active := bound
          rw [sendEngineFailure_of_bound ticked]
          rfl
      | ok _ => rfl

end Start

/-! ## A test connection -/

/-- A service with a policy and without sessions. -/
def BoundaryService.test : BoundaryService := ⟨.test, SessionManager.defaultManager⟩

/-- The policies of the example. -/
def AuthenticationConnectionPolicy.test : AuthenticationConnectionPolicy where
  authentication := .default
  passivePad := ⟨List.replicate 64 97, 0.5, List.replicate 64 98, 0.5, none⟩

/-- A request of an account for a service. -/
def RequestContext.test : RequestContext := ⟨⟨7⟩, 1000, ServiceName.test, .test⟩

/-- A silent client that sent one test request, at a clock that stands still, and an
engine that fails to capture. -/
def Environment.test : Environment where
  peer := ⟨123, 1000, 1000⟩
  clock := fun _ => 0
  read := fun moment =>
    if moment = 0 then .ok (.authenticate RequestContext.test)
    else .error (.io ⟨.other, "failed to fill whole buffer"⟩)
  write := fun _ => .ok ()
  pending := fun _ => .ok false
  executable := fun _ => .ok ⟨⟨8, 42⟩⟩
  templates := fun _ _ => .error .authenticationFailed
  submit := fun _ _ => .ok ()
  receive := fun _ _ => .update (.completed ⟨7⟩ (.error .capture))

/-- The session that the test request starts. -/
def ActiveSession.test : ActiveSession := ⟨.test, ⟨1⟩, 15_000_000, ⟨0⟩⟩

/-- The request of the example is accepted. -/
theorem opens_test : Opens Environment.test ⟨1⟩ BoundaryService.test ActiveSession.test :=
  ⟨rfl, rfl⟩

end FaceAuth
