import FaceAuth.Daemon.Coordinator
import FaceAuth.Transport.Frame

/-!
# The supervised authentication listener

The production handler of accepted connections. A connection that is not
coordinated to a result is a failure of the service: its error is stored and the
daemon is asked to shut down.
-/

namespace FaceAuth

open Foundation

/-! ## The handler -/

/-- What the handler stores before it asks for the shutdown. The source keeps its text. -/
inductive ListenerFailure where
  | token (error : SessionError)
  | coordination (error : BoundaryError)
deriving DecidableEq, Repr

/-- The state that the handler keeps between connections. -/
structure ListenerState where
  boundary : BoundaryService
  fatal : Option ListenerFailure
  shutdown : Bool

/-- One accepted connection: its generated token, the bytes that a read finds on it at
each moment, and everything else that its coordination meets. -/
structure AcceptedConnection where
  token : Except SessionError ConnectionToken
  incoming : Nat → Incoming
  surroundings : Environment

section Handler

variable (decode : List UInt8 → Except String (Envelope Request)) (maxMessageBytes : Nat)
  (policy : AuthenticationConnectionPolicy) (fuel : Nat)

/-- What the coordination of the connection meets. -/
def AcceptedConnection.environment (connection : AcceptedConnection) : Environment :=
  { connection.surroundings with
    read := fun moment =>
      match (readMessage decode maxMessageBytes (connection.incoming moment)).1 with
      | .ok envelope => .ok envelope.message
      | .error error => .error error }

/-- Keep the failure and ask for the shutdown of the daemon. -/
def ListenerState.fail (state : ListenerState) (failure : ListenerFailure) : ListenerState :=
  { state with fatal := some failure, shutdown := true }

/-- Coordinate one accepted connection. -/
def handleConnection (state : ListenerState) (connection : AcceptedConnection) :
    Option ListenerState :=
  match connection.token with
  | .error error => some (state.fail (.token error))
  | .ok token =>
      match coordinateAuthenticationConnection
          (connection.environment decode maxMessageBytes) policy token fuel state.boundary with
      | none => none
      | some (.ok _, world) => some { state with boundary := world.boundary }
      | some (.error error, world) =>
          some ({ state with boundary := world.boundary }.fail (.coordination error))

/-- The listener of the production composition. -/
def runAuthenticationListener (boundary : BoundaryService)
    (turns : List (AcceptTurn AcceptedConnection)) : AcceptStatus ListenerState :=
  runAcceptLoop .default ListenerState.shutdown
    (handleConnection decode maxMessageBytes policy fuel) ⟨boundary, none, false⟩ turns

end Handler

/-! ## Connections with a healthy engine -/

/-- The engine stays connected, seals evidence under the transaction of its update, ends
every job by the moment `limit`, and ends a cancelled job while it is drained. -/
structure Environment.Healthy (environment : Environment) (limit : Nat) : Prop where
  connected : ∀ moment cancelled, environment.receive moment cancelled ≠ .disconnected
  sealed : ∀ moment cancelled subject evidence, environment.receive moment cancelled =
    .update (.completed subject (.ok evidence)) → evidence.transactionId = subject
  ends : ∀ moment, limit ≤ moment → (environment.receive moment false).IsLast
  obeys : ∀ moment, DrainSettles environment moment

section Coordination

variable {environment : Environment} {policy : AuthenticationConnectionPolicy}
  {connection : ConnectionToken} {transactionId : TransactionId} {active : ActiveSession}
  {world : World} {flow : Flow World (Except BoundaryError Response)} {limit : Nat}

/-- The result is an error exactly when some transport operation failed, and otherwise
the slot is empty again. -/
structure Reported (result : Except BoundaryError Response) (final : World) : Prop where
  failed : ∀ error, result = .error error → final.failed = true
  served : ∀ response, result = .ok response →
    final.failed = false ∧ final.sessions.active = none

/-- A live transaction on a connection that has not failed. -/
structure Unfailed (connection : ConnectionToken) (transactionId : TransactionId)
    (active : ActiveSession) (world : World) : Prop where
  live : Live connection transactionId active world
  sound : world.failed = false

/-- An iteration that goes on did not fail and took some time, and one that returns
reports the failures of the connection. -/
def Reports (moment : Nat) : Flow World (Except BoundaryError Response) → Prop
  | .again next => next.failed = false ∧ moment < next.moment
  | .done result final => Reported result final

/-- A delivery on a sound connection is reported as it went. -/
theorem reported_deliver (environment : Environment) (response : Response)
    (sound : world.failed = false) (empty : world.sessions.active = none) :
    Reported (deliver environment response world).1 (deliver environment response world).2 := by
  cases written : environment.write world.moment with
  | ok _ =>
      have kept : (deliver environment response world).2.failed = world.failed :=
        (deliver_of_ok written).2
      rw [(deliver_of_ok written).1]
      refine ⟨fun error impossible => (by cases impossible), fun _ _ => ⟨?_, ?_⟩⟩
      · rw [kept, sound]
      · rw [sessions_deliver, empty]
  | error error =>
      rw [(deliver_of_error written).1]
      exact ⟨fun _ _ => (deliver_of_error written).2, fun answer impossible => by cases impossible⟩

/-- A worker that stays connected is drained once its last update has arrived. -/
theorem drainCancelledEngine_ok
    (connected : ∀ moment cancelled, environment.receive moment cancelled ≠ .disconnected)
    (polls : Nat) (closed : Closed active world)
    (settles : ∃ poll < polls, (environment.receive (world.moment + poll) true).IsLast) :
    (drainCancelledEngine environment polls world).1 = .ok () := by
  induction polls generalizing world with
  | zero =>
      obtain ⟨poll, small, -⟩ := settles
      exact absurd small (Nat.not_lt_zero poll)
  | succ polls ih =>
      have waits : ∀ received, environment.receive world.moment true = received →
          ¬ received.IsLast →
          (drainCancelledEngine environment polls (world.received received)).1 = .ok () := by
        intro received found more
        apply ih (closed.received more)
        rw [exists_poll_succ, Nat.add_zero, found] at settles
        obtain ⟨poll, small, last⟩ := settles.resolve_left more
        refine ⟨poll, small, ?_⟩
        rwa [World.moment_received, Nat.add_right_comm]
      rw [drainCancelledEngine, closed.next]
      cases found : environment.receive world.moment true with
      | update update =>
          cases update with
          | progress subject code => exact waits _ found id
          | completed subject result => rfl
      | timeout => exact waits _ found id
      | disconnected => exact absurd found (connected _ _)

/-- A drain reports what was to be reported. -/
theorem reports_drainThen (healthy : environment.Healthy limit) (closed : Closed active world)
    {result : Except BoundaryError Response} (reported : Reported result world) (moment : Nat) :
    Reports moment (drainThen environment result world) := by
  have drained := drainCancelledEngine_ok healthy.connected MAX_CANCEL_DRAIN_POLLS closed
    (healthy.obeys world.moment)
  have same := (drainCancelledEngine_spec environment MAX_CANCEL_DRAIN_POLLS closed).1
  unfold drainThen
  generalize drainCancelledEngine environment MAX_CANCEL_DRAIN_POLLS world = outcome
    at drained same ⊢
  obtain ⟨answer, after⟩ := outcome
  dsimp only at drained same
  rw [drained]
  refine ⟨fun error failure => ?_, fun response success => ?_⟩
  · rw [same.failed]
    exact reported.failed error failure
  · rw [same.failed, same.sessions]
    exact reported.served response success

/-- A failed look leaves a failed connection, later. -/
theorem Lost.failed {error : TransportError} {after : World}
    (cause : Lost environment transactionId world error after) : after.failed = true := by
  cases cause with
  | poll broken => rfl
  | read pending broken => rfl
  | write pending read other broken => exact (deliver_of_error broken).2

/-- One poll of the client reports as it goes. -/
theorem Polled.reports (healthy : environment.Healthy limit)
    (live : Live connection transactionId active world) (sound : world.failed = false)
    (polled : Polled environment transactionId active world flow) :
    Reports world.moment flow := by
  cases polled with
  | idle quiet => exact ⟨sound, Nat.lt_succ_self _⟩
  | refused pending read other written =>
      refine ⟨?_, ?_⟩
      · rw [(deliver_of_ok written).2]
        exact sound
      · rw [moment_deliver]
        exact Nat.lt_add_of_pos_right (Nat.succ_pos 2)
  | cancelled pending read written =>
      subst written
      exact reports_drainThen healthy (live.tick.tick.release.deliver environment _)
        (reported_deliver environment _ sound rfl) _
  | lost cause =>
      apply reports_drainThen healthy ((cause.live live).abandoned environment)
      exact ⟨fun _ _ => cause.failed, fun response impossible => by cases impossible⟩

/-- With a healthy engine an iteration fails only with its connection. -/
theorem Stepped.reports (healthy : environment.Healthy limit)
    (live : Live connection transactionId active world) (sound : world.failed = false)
    (stepped : Stepped environment policy connection transactionId active world flow) :
    Reports world.moment flow := by
  have terminal : ∀ received response, Reports world.moment (finish (deliver environment response
      ((world.received received).withSessions (world.sessions.release active)))) :=
    fun _ _ => reported_deliver environment _ sound rfl
  cases stepped with
  | silent found polled =>
      have after := polled.reports healthy (live.received id) sound
      cases flow with
      | again next => exact ⟨after.1, Nat.lt_of_succ_lt after.2⟩
      | done result final => exact after
  | progressed found early written polled =>
      rename_i code
      have kept : (deliver environment (.progress transactionId code) (world.received
          (.update (.progress transactionId code)))).2.failed = false :=
        (deliver_of_ok written).2.trans sound
      have after := polled.reports healthy ((live.received id).deliver environment _) kept
      rw [moment_deliver] at after
      cases flow with
      | again next => exact ⟨after.1, Nat.lt_of_succ_lt (Nat.lt_of_succ_lt after.2)⟩
      | done result final => exact after
  | progressLost found early broken =>
      exact ⟨fun _ _ => (deliver_of_error broken).2, fun response impossible => by cases impossible⟩
  | timedOut found late written =>
      rename_i code
      have after : Live connection transactionId active
          (world.received (.update (.progress transactionId code))) := live.received id
      have reported : Reported (.ok (.completed transactionId .timedOut))
          (deliver environment (.completed transactionId .timedOut)
            ((world.received (.update (.progress transactionId code))).withSessions
              (world.sessions.release active))).2 := by
        refine ⟨fun error impossible => (by cases impossible), fun _ _ => ⟨?_, ?_⟩⟩
        · exact (deliver_of_ok written).2.trans sound
        · rw [sessions_deliver]
          rfl
      exact reports_drainThen healthy (after.release.deliver environment _) reported _
  | timeoutLost found late broken =>
      exact ⟨fun _ _ => (deliver_of_error broken).2, fun response impossible => by cases impossible⟩
  | failed found fault => exact terminal _ _
  | derived found own => exact terminal _ _
  | foreign found other => exact absurd (healthy.sealed _ _ _ _ found) other

/-- An iteration that finds the worker's last update returns. -/
theorem Stepped.ends (stepped : Stepped environment policy connection transactionId active world
      flow) (last : (environment.receive world.moment false).IsLast) (next : World) :
    flow ≠ .again next := by
  cases stepped with
  | silent found polled =>
      rw [found] at last
      cases last
  | progressed found early written polled =>
      rw [found] at last
      cases last
  | timedOut found late written => exact drainThen_returns
  | progressLost | timeoutLost | failed | derived | foreign => exact fun again => by cases again

variable {boundary : BoundaryService}

/-- The first request of a connection starts a session or is answered at once. -/
theorem opens_or_answered (environment : Environment) (connection : ConnectionToken)
    (empty : boundary.sessions.active = none) :
    (∃ active, Opens environment connection boundary active) ∨
      (∀ started after, handleOne environment connection (environment.clock 0)
        (.start boundary) ≠ (.ok (.started started), after)) ∧
      Reported (handleOne environment connection (environment.clock 0) (.start boundary)).1
        (handleOne environment connection (environment.clock 0) (.start boundary)).2 := by
  cases read : environment.read 0 with
  | error error =>
      have answer : handleOne environment connection (environment.clock 0) (.start boundary) =
          (.error (.transport error), (World.start boundary).fail) := by
        rw [handleOne, World.start, read]
      rw [answer]
      refine .inr ⟨fun started after impossible => (by cases impossible), ?_⟩
      exact ⟨fun _ _ => rfl, fun response impossible => by cases impossible⟩
  | ok request =>
      have answer : handleOne environment connection (environment.clock 0) (.start boundary) =
          deliver environment (boundary.process environment.peer (environment.executable 0)
            connection (environment.clock 0) request).1
            ((World.start boundary).tick.withSessions (boundary.process environment.peer
              (environment.executable 0) connection (environment.clock 0) request).2) := by
        rw [handleOne, World.start, read]
      rcases process_of_empty empty environment.peer (environment.executable 0) connection
        (environment.clock 0) request with ⟨context, grant, -, opened⟩ | ⟨subject, reason, refused⟩
      · refine .inl ⟨boundary.sessions.opened grant connection (environment.clock 0), empty, ?_⟩
        rw [requested, answer, sessions_deliver, opened]
        rfl
      · rw [refused] at answer
        rw [answer]
        refine .inr ⟨fun started after impossible => ?_, reported_deliver environment _ rfl empty⟩
        cases written : environment.write 1 with
        | ok _ =>
            rw [deliver_eq_of_ok written] at impossible
            cases impossible
        | error error =>
            rw [deliver_eq_of_error written] at impossible
            cases impossible

/-- The connection of a started session has failed when its answer was not written. -/
theorem Opens.failed (opens : Opens environment connection boundary active) :
    match environment.write 1 with
    | .ok _ => (FaceAuth.requested environment connection boundary).failed = false
    | .error _ => (FaceAuth.requested environment connection boundary).failed = true := by
  obtain ⟨context, grant, -, -, answer⟩ := opens.request
  unfold FaceAuth.requested
  rw [answer]
  cases written : environment.write 1 with
  | ok _ => exact (deliver_of_ok written).2
  | error error => exact (deliver_of_error written).2

/-- With a healthy engine the loop of a started session returns, and reports. -/
theorem Opens.reports (opens : Opens environment connection boundary active)
    (healthy : environment.Healthy limit) (written : environment.write 1 = .ok ())
    (policy : AuthenticationConnectionPolicy) :
    ∃ enough result final, Reported result final ∧ iterate
      (coordinatorStep environment policy connection active.grant.transactionId) enough
        (firstHead environment connection boundary active) = some (result, final) := by
  have steps : ∀ head, Unfailed connection active.grant.transactionId active head →
      Reports head.moment
        (coordinatorStep environment policy connection active.grant.transactionId head) :=
    fun head kept => (coordinatorStep_cases kept.live).reports healthy kept.live kept.sound
  have keeps : ∀ head next, Unfailed connection active.grant.transactionId active head →
      coordinatorStep environment policy connection active.grant.transactionId head =
        .again next →
      Unfailed connection active.grant.transactionId active next ∧
        limit - next.moment < limit - head.moment := by
    intro head next kept goes
    have report := steps head kept
    rw [goes] at report
    have later : head.moment < next.moment := report.2
    have more : head.moment < limit := by
      apply Nat.lt_of_not_le
      intro ended
      exact (coordinatorStep_cases kept.live).ends (healthy.ends _ ended) next goes
    exact ⟨⟨(coordinatorStep_cases kept.live).live kept.live goes, report.1⟩, by omega⟩
  have start : Unfailed connection active.grant.transactionId active
      (firstHead environment connection boundary active) := by
    have answered := opens.failed
    rw [written] at answered
    exact ⟨opens.live, answered⟩
  obtain ⟨enough, result, final, returns⟩ :=
    iterate_terminates (fun head => limit - head.moment) keeps start
  refine ⟨enough, result, final, ?_, returns⟩
  obtain ⟨last, visited, ends⟩ := iterate_last returns
  have report := steps last
    (visited.invariant start fun head next kept goes => (keeps head next kept goes).1)
  rw [ends] at report
  exact report

/-- With a healthy engine every connection is coordinated to a result, which is an error
exactly when a transport operation on the connection failed. -/
theorem coordinate_reports (healthy : environment.Healthy limit) (connection : ConnectionToken)
    (empty : boundary.sessions.active = none) (policy : AuthenticationConnectionPolicy) :
    ∃ enough result final, Reported result final ∧ ∀ fuel, enough ≤ fuel →
      coordinateAuthenticationConnection environment policy connection fuel boundary =
        some (result, final) := by
  rcases opens_or_answered environment connection empty with ⟨active, opens⟩ | ⟨other, reported⟩
  · cases written : environment.write 1 with
    | error error =>
        refine ⟨0, .error (.transport error), requested environment connection boundary, ?_, ?_⟩
        · have failed := opens.failed
          rw [written] at failed
          exact ⟨fun _ _ => failed, fun response impossible => by cases impossible⟩
        · intro fuel _
          rw [coordinate_of_opens opens, written]
    | ok _ =>
        cases submitted : environment.submit 2 (jobOf active) with
        | error error =>
            have failed := opens.failed
            rw [written] at failed
            have answer : ∀ fuel, coordinateAuthenticationConnection environment policy connection
                fuel boundary = some (deliver environment (failureAnswer
                  active.grant.transactionId active (environment.clock 3)) ((requested environment
                    connection boundary).tick.withSessions ((requested environment connection
                      boundary).sessions.release active))) := by
              intro fuel
              rw [coordinate_of_opens opens, written]
              dsimp only
              rw [submitted]
            refine ⟨0, _, _, ?_, fun fuel _ => answer fuel⟩
            exact reported_deliver environment _ failed rfl
        | ok _ =>
            obtain ⟨enough, result, final, reported, returns⟩ :=
              opens.reports healthy written policy
            refine ⟨enough, result, final, reported, fun fuel more => ?_⟩
            rw [coordinate_of_opens opens, written]
            dsimp only
            rw [submitted]
            exact iterate_mono more returns
  · refine ⟨0, _, _, reported, fun fuel _ => ?_⟩
    unfold coordinateAuthenticationConnection
    generalize handleOne environment connection (environment.clock 0) (.start boundary) = answer
      at other
    obtain ⟨result, after⟩ := answer
    cases result with
    | error error => rfl
    | ok response =>
        cases response with
        | started transactionId => exact absurd rfl (other transactionId after)
        | progress | completed | rejected => rfl

end Coordination

/-! ## The listener -/

section Listener

variable (decode : List UInt8 → Except String (Envelope Request)) (maxMessageBytes : Nat)
  (policy : AuthenticationConnectionPolicy)

/-- A connection token was generated, and the engine is healthy. -/
def AcceptedConnection.Healthy (connection : AcceptedConnection) : Prop :=
  (∃ token, connection.token = .ok token) ∧
    ∃ limit, (connection.environment decode maxMessageBytes).Healthy limit

/-- Nothing outside asks for a stop, and the listener accepts without failure. -/
def AcceptTurn.Healthy {Stream : Type} (turn : AcceptTurn Stream) : Prop :=
  turn.stopRequested = false ∧ ∀ error, turn.outcome ≠ .failure error

variable (fuel : Nat)

/-- The connection is coordinated to a result, and none of its transport operations
fails. -/
def Serves (before : BoundaryService) (connection : AcceptedConnection)
    (after : BoundaryService) : Prop :=
  ∃ token response world, connection.token = .ok token ∧
    coordinateAuthenticationConnection (connection.environment decode maxMessageBytes) policy
      token fuel before = some (.ok response, world) ∧
    world.failed = false ∧ world.boundary = after

/-- A transport operation on the connection fails, which the coordinator reports. -/
def Breaks (before : BoundaryService) (connection : AcceptedConnection)
    (error : BoundaryError) (after : BoundaryService) : Prop :=
  ∃ token world, connection.token = .ok token ∧
    coordinateAuthenticationConnection (connection.environment decode maxMessageBytes) policy
      token fuel before = some (.error error, world) ∧
    world.failed = true ∧ world.boundary = after

/-- The connections are served, one after the other. -/
inductive ServesAll : BoundaryService → List AcceptedConnection → BoundaryService → Prop where
  | none (boundary : BoundaryService) : ServesAll boundary [] boundary
  | next {before middle after : BoundaryService} {connection : AcceptedConnection}
      {connections : List AcceptedConnection}
      (first : Serves decode maxMessageBytes policy fuel before connection middle)
      (rest : ServesAll middle connections after) :
      ServesAll before (connection :: connections) after

/-- What the listener has come to after its turns. -/
inductive Listening (count : Nat) (boundary : BoundaryService)
    (turns : List (AcceptTurn AcceptedConnection)) : AcceptStatus ListenerState → Prop where
  | served {final : BoundaryService}
      (all : ServesAll decode maxMessageBytes policy fuel boundary (acceptedStreams turns) final) :
      Listening count boundary turns
        (.running ⟨⟨count + (acceptedStreams turns).length, 0⟩, 0, ⟨final, none, false⟩⟩)
  | stopped {status : AcceptStatus ListenerState} {served later : List AcceptedConnection}
      {connection : AcceptedConnection} {middle after : BoundaryService} {error : BoundaryError}
      {loop : AcceptLoop ListenerState}
      (order : acceptedStreams turns = served ++ connection :: later)
      (before : ServesAll decode maxMessageBytes policy fuel boundary served middle)
      (broken : Breaks decode maxMessageBytes policy fuel middle connection error after)
      (last : loop = ⟨⟨count + served.length + 1, 0⟩, 0,
        ⟨after, some (.coordination error), true⟩⟩)
      (ended : status = .running loop ∧ later = [] ∨
        status = .returned (.ok loop.report) loop.state) :
      Listening count boundary turns status

variable {decode maxMessageBytes policy}

variable (policy) in
/-- With a healthy engine a connection is served or breaks. -/
theorem handleConnection_reports {boundary : BoundaryService}
    {connection : AcceptedConnection} (empty : boundary.sessions.active = none)
    (healthy : connection.Healthy decode maxMessageBytes) :
    ∃ enough,
      (∃ after, after.sessions.active = none ∧ ∀ fuel, enough ≤ fuel →
        Serves decode maxMessageBytes policy fuel boundary connection after ∧
        handleConnection decode maxMessageBytes policy fuel ⟨boundary, none, false⟩ connection =
          some ⟨after, none, false⟩) ∨
      ∃ after error, ∀ fuel, enough ≤ fuel →
        Breaks decode maxMessageBytes policy fuel boundary connection error after ∧
        handleConnection decode maxMessageBytes policy fuel ⟨boundary, none, false⟩ connection =
          some ⟨after, some (.coordination error), true⟩ := by
  obtain ⟨⟨token, generated⟩, limit, engine⟩ := healthy
  obtain ⟨enough, result, final, reported, answers⟩ := coordinate_reports engine token empty policy
  refine ⟨enough, ?_⟩
  cases result with
  | ok response =>
      obtain ⟨sound, released⟩ := reported.served response rfl
      refine .inl ⟨final.boundary, released, fun fuel more => ⟨?_, ?_⟩⟩
      · exact ⟨token, response, final, generated, answers fuel more, sound, rfl⟩
      · unfold handleConnection
        rw [generated]
        dsimp only
        rw [answers fuel more]
  | error error =>
      refine .inr ⟨final.boundary, error, fun fuel more => ⟨?_, ?_⟩⟩
      · exact ⟨token, final, generated, answers fuel more, reported.failed error rfl, rfl⟩
      · unfold handleConnection
        rw [generated]
        dsimp only
        rw [answers fuel more]
        rfl

/-- A turn that finds nothing changes nothing. -/
theorem Listening.skip {count : Nat} {boundary : BoundaryService}
    {turn : AcceptTurn AcceptedConnection} {turns : List (AcceptTurn AcceptedConnection)}
    {status : AcceptStatus ListenerState} {fuel : Nat} (nothing : turn.outcome = .nothing)
    (listening : Listening decode maxMessageBytes policy fuel count boundary turns status) :
    Listening decode maxMessageBytes policy fuel count boundary (turn :: turns) status := by
  have same : acceptedStreams (turn :: turns) = acceptedStreams turns := by
    rw [acceptedStreams, List.filterMap_cons, nothing]
    rfl
  cases listening with
  | served all =>
      rw [← same] at all ⊢
      exact .served all
  | stopped order before broken last ended =>
      exact .stopped (same.trans order) before broken last ended

/-- A connection that is served goes before the others. -/
theorem Listening.serve {count : Nat} {boundary after : BoundaryService}
    {turn : AcceptTurn AcceptedConnection} {connection : AcceptedConnection}
    {turns : List (AcceptTurn AcceptedConnection)} {status : AcceptStatus ListenerState}
    {fuel : Nat} (accepted : turn.outcome = .stream connection)
    (first : Serves decode maxMessageBytes policy fuel boundary connection after)
    (listening : Listening decode maxMessageBytes policy fuel (count + 1) after turns status) :
    Listening decode maxMessageBytes policy fuel count boundary (turn :: turns) status := by
  have streams : acceptedStreams (turn :: turns) = connection :: acceptedStreams turns := by
    rw [acceptedStreams, List.filterMap_cons, accepted]
    rfl
  cases listening with
  | served all =>
      have total : count + 1 + (acceptedStreams turns).length =
          count + (acceptedStreams (turn :: turns)).length := by
        rw [streams, List.length_cons]
        omega
      rw [total]
      exact .served (streams ▸ .next first all)
  | stopped order before broken last ended =>
      refine .stopped ?_ (.next first before) broken ?_ ended
      · rw [streams, order, List.cons_append]
      · rw [last, List.length_cons]
        congr 3
        omega

/-- The loop of the listener is the accept loop over its connections. -/
theorem acceptLoop_listening (count : Nat) (boundary : BoundaryService)
    (turns : List (AcceptTurn AcceptedConnection)) (empty : boundary.sessions.active = none)
    (quiet : ∀ turn ∈ turns, turn.Healthy)
    (healthy : ∀ connection ∈ acceptedStreams turns, connection.Healthy decode maxMessageBytes)
    (capacity : count + (acceptedStreams turns).length <
      AcceptLoopConfig.default.maxConnections) :
    ∃ enough, ∀ fuel, enough ≤ fuel →
      Listening decode maxMessageBytes policy fuel count boundary turns
        (acceptLoop .default ListenerState.shutdown
          (handleConnection decode maxMessageBytes policy fuel)
          ⟨⟨count, 0⟩, 0, ⟨boundary, none, false⟩⟩ turns) := by
  induction turns generalizing count boundary with
  | nil =>
      refine ⟨0, fun fuel _ => ?_⟩
      exact .served (.none boundary)
  | cons turn turns ih =>
      have here := quiet turn (List.mem_cons_self ..)
      have later : ∀ turn ∈ turns, turn.Healthy := fun turn member =>
        quiet turn (List.mem_cons_of_mem _ member)
      have goes : count < AcceptLoopConfig.default.maxConnections :=
        Nat.lt_of_le_of_lt (Nat.le_add_right _ _) capacity
      cases outcome : turn.outcome with
      | nothing =>
          have same : acceptedStreams (turn :: turns) = acceptedStreams turns := by
            rw [acceptedStreams, List.filterMap_cons, outcome]
            rfl
          rw [same] at healthy capacity
          obtain ⟨enough, rest⟩ := ih count boundary empty later healthy capacity
          refine ⟨enough, fun fuel more => ?_⟩
          rw [acceptLoop_cons goes here.1 rfl, outcome]
          exact (rest fuel more).skip outcome
      | failure error => exact absurd outcome (here.2 error)
      | stream connection =>
          have streams : acceptedStreams (turn :: turns) = connection :: acceptedStreams turns := by
            rw [acceptedStreams, List.filterMap_cons, outcome]
            rfl
          rw [streams] at healthy capacity
          have own := healthy connection (List.mem_cons_self ..)
          obtain ⟨enough, served⟩ := handleConnection_reports policy empty own
          rcases served with ⟨after, released, serves⟩ | ⟨after, error, breaks⟩
          · have others : ∀ connection ∈ acceptedStreams turns,
                connection.Healthy decode maxMessageBytes :=
              fun connection member => healthy connection (List.mem_cons_of_mem _ member)
            rw [List.length_cons] at capacity
            obtain ⟨more, rest⟩ := ih (count + 1) after released later others (by omega)
            refine ⟨max enough more, fun fuel bound => ?_⟩
            obtain ⟨first, handled⟩ := serves fuel (Nat.le_trans (Nat.le_max_left _ _) bound)
            rw [acceptLoop_cons goes here.1 rfl, outcome]
            dsimp only
            rw [handled]
            exact (rest fuel (Nat.le_trans (Nat.le_max_right _ _) bound)).serve outcome first
          · refine ⟨enough, fun fuel bound => ?_⟩
            obtain ⟨broken, handled⟩ := breaks fuel bound
            rw [acceptLoop_cons goes here.1 rfl, outcome]
            dsimp only
            rw [handled]
            refine .stopped streams (.none boundary) broken rfl ?_
            rcases acceptLoop_stopped .default
              (handleConnection decode maxMessageBytes policy fuel)
              ⟨⟨count + 1, 0⟩, 0, ⟨after, some (.coordination error), true⟩⟩
              (show ListenerState.shutdown _ = true from rfl) turns with ⟨running, rfl⟩ | returned
            · exact .inl ⟨running, rfl⟩
            · exact .inr returned

/-- **Clients and the authentication service.** With healthy engines, whatever the
clients send, every connection is accepted and served, unless a transport operation on
one of them fails: then the shutdown is requested, and no later one is accepted. -/
theorem listener_contract (boundary : BoundaryService)
    (turns : List (AcceptTurn AcceptedConnection)) (empty : boundary.sessions.active = none)
    (quiet : ∀ turn ∈ turns, turn.Healthy)
    (healthy : ∀ connection ∈ acceptedStreams turns, connection.Healthy decode maxMessageBytes)
    (capacity : (acceptedStreams turns).length < AcceptLoopConfig.default.maxConnections) :
    ∃ enough, ∀ fuel, enough ≤ fuel →
      Listening decode maxMessageBytes policy fuel 0 boundary turns
        (runAuthenticationListener decode maxMessageBytes policy fuel boundary turns) := by
  apply acceptLoop_listening 0 boundary turns empty quiet healthy
  rw [Nat.zero_add]
  exact capacity

end Listener

/-- The environment of the example is healthy. -/
theorem Environment.test_healthy (read : Nat → Except TransportError Request) :
    ({ Environment.test with read } : Environment).Healthy 0 where
  connected _ _ found := by cases found
  sealed _ _ _ _ found := by cases found
  ends _ _ := trivial
  obeys _ := ⟨0, by decide, trivial⟩

/-- A client that sends these bytes and closes its socket. -/
def AcceptedConnection.closing (bytes : List UInt8) : AcceptedConnection where
  token := .ok ⟨1⟩
  incoming := fun _ => ⟨bytes, ⟨.other, "failed to fill whole buffer"⟩⟩
  surroundings := Environment.test

/-- A decoder that is given no text it accepts. -/
def refuseText (_ : List UInt8) : Except String (Envelope Request) :=
  .error "expected value at line 1 column 1"

/-- A connection that only closes is healthy. -/
theorem AcceptedConnection.closing_healthy (bytes : List UInt8) :
    (AcceptedConnection.closing bytes).Healthy refuseText 65536 :=
  ⟨⟨_, rfl⟩, 0, Environment.test_healthy _⟩

/-- A client that sends a frame of one letter. -/
theorem listener_contract_malformed :
    ∃ enough, ∀ fuel, enough ≤ fuel →
      Listening refuseText 65536 AuthenticationConnectionPolicy.test fuel 0 BoundaryService.test
        [⟨false, .stream (.closing [0, 0, 0, 1, 120])⟩]
        (runAuthenticationListener refuseText 65536 AuthenticationConnectionPolicy.test fuel
          BoundaryService.test [⟨false, .stream (.closing [0, 0, 0, 1, 120])⟩]) := by
  refine listener_contract BoundaryService.test _ rfl ?_ ?_ (by decide)
  · intro turn member
    rw [List.mem_singleton] at member
    subst member
    exact ⟨rfl, fun error impossible => by cases impossible⟩
  · intro connection member
    cases member with
    | head => exact AcceptedConnection.closing_healthy _
    | tail _ impossible => cases impossible

/-- A client that connects and closes ends the listener before the next client. -/
theorem listener_stopped_by_client :
    (AcceptedConnection.closing []).Healthy refuseText 65536 ∧
      ∀ fuel, runAuthenticationListener refuseText 65536 AuthenticationConnectionPolicy.test fuel
        BoundaryService.test
        [⟨false, .stream (.closing [])⟩, ⟨false, .stream (.closing [])⟩] =
          .returned (.ok ⟨1, 0⟩) ⟨BoundaryService.test,
            some (.coordination (.transport (.io ⟨.other, "failed to fill whole buffer"⟩))),
            true⟩ :=
  ⟨AcceptedConnection.closing_healthy _, fun _ => rfl⟩

end FaceAuth
