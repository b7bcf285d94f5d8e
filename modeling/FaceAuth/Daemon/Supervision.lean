import FaceAuth.Foundation.Run

/-!
# The supervisor of the daemon's services

Each service runs in a thread of its own, which sends one event when its task
ends. The supervisor receives these events under a poll interval, requests a
shutdown of all services when one of them ends too early or fails, joins every
thread whose event it has received, and gives up on the others when the grace
period is over. Tasks, other holders of the shutdown token, the clock and the
supervisor itself take their steps in any order.
-/

namespace FaceAuth

open Foundation

/-- Maximum length of the name of a service. -/
def MAX_SERVICE_NAME_BYTES : Nat := 64

/-- Upper bound on the number of services. -/
def ABSOLUTE_MAX_SERVICES : Nat := 16

/-- How the task of a service ended, and how its outcome is reported. -/
inductive ServiceOutcome where
  | completed
  | failed (detail : String)
  | panicked
deriving DecidableEq, Repr

/-- What a service reports: that it has ended, and how. -/
structure ServiceEvent where
  index : Nat
  outcome : ServiceOutcome
deriving DecidableEq, Repr

/-- The handle by which one thread is joined. -/
structure JoinHandle where
  thread : Nat
deriving DecidableEq, Repr

/-- A service with what is known about its thread. -/
structure ServiceState where
  name : String
  handle : Option JoinHandle
  stopped : Bool
deriving DecidableEq, Repr

/-- Successful cooperative shutdown summary. -/
structure SupervisorReport where
  servicesStarted : Nat
  servicesStopped : Nat
  completionOrder : List String
deriving DecidableEq, Repr

/-- Supervisor configuration, task, or lifecycle failure. -/
inductive SupervisorError where
  | invalidConfig
  | invalidServiceName
  | duplicateService (service : String)
  | tooManyServices (maximum : Nat)
  | shutdownAlreadyRequested
  | spawn (service : String)
  | noServices
  | serviceExited (service : String)
  | serviceFailed (service detail : String)
  | servicePanicked (service : String)
  | eventChannelClosed
  | invalidServiceEvent
  | shutdownTimeout (trigger : Option String) (services : List String)
deriving DecidableEq, Repr

/-- The first failure, before it is told. -/
inductive PendingFailure where
  | exited (service : String)
  | failed (service detail : String)
  | panicked (service : String)
  | eventChannelClosed
deriving DecidableEq, Repr

namespace PendingFailure

/-- What a failure is called. -/
def trigger : PendingFailure → String
  | .exited service => service ++ " exited unexpectedly"
  | .failed service _ => service ++ " failed"
  | .panicked service => service ++ " panicked"
  | .eventChannelClosed => "service event channel closed"

/-- The error that a failure is told as. -/
def intoError : PendingFailure → SupervisorError
  | .exited service => .serviceExited service
  | .failed service detail => .serviceFailed service detail
  | .panicked service => .servicePanicked service
  | .eventChannelClosed => .eventChannelClosed

end PendingFailure

/-- Resource bounds for one supervisor run, with durations in nanoseconds. -/
structure SupervisorConfig where
  pollInterval : Nat
  shutdownGrace : Nat
  maxServices : Nat
deriving DecidableEq, Repr

/-- All three bounds are positive and limited. -/
def SupervisorConfig.validate (config : SupervisorConfig) : Except SupervisorError Unit :=
  if ¬ (1_000_000 ≤ config.pollInterval ∧ config.pollInterval ≤ 100_000_000) ∨
      ¬ (10_000_000 ≤ config.shutdownGrace ∧ config.shutdownGrace ≤ 30_000_000_000) ∨
      ¬ (1 ≤ config.maxServices ∧ config.maxServices ≤ ABSOLUTE_MAX_SERVICES) then
    .error .invalidConfig
  else .ok ()

/-- Poll every 25 ms, wait 5 s at most, for 8 services. -/
def SupervisorConfig.default : SupervisorConfig := ⟨25_000_000, 5_000_000_000, 8⟩

/-- The default passes its own check. -/
theorem SupervisorConfig.default_valid : SupervisorConfig.default.validate = .ok () := rfl

/-- Names are short and of lower-case letters, digits and hyphens. -/
def validateServiceName (name : String) : Except SupervisorError Unit :=
  if name = "" ∨ MAX_SERVICE_NAME_BYTES < name.utf8ByteSize ∨
      name.toList.all (fun char => char.isLower || char.isDigit || char == '-') = false then
    .error .invalidServiceName
  else .ok ()

/-- Where the supervisor stands: before `run_until`, between two reads of shared state in
its loop, or after its return. -/
inductive SupervisorPhase where
  | assembling
  | poll
  | ask
  | receive
  | announce
  | count
  | grace
  | returned (result : Except SupervisorError SupervisorReport)

/-- The supervisor with its threads and the channel between them. The threads in `senders`
still hold a sender of the channel, those in `unwound` ended without sending. -/
structure ServiceSupervisor where
  config : SupervisorConfig
  requested : Bool
  senders : List Nat
  queue : List ServiceEvent
  unwound : List Nat
  services : List ServiceState
  clock : Nat
  servicesStarted : Nat
  servicesStopped : Nat
  completionOrder : List String
  shutdownStarted : Option Nat
  pendingFailure : Option PendingFailure
  phase : SupervisorPhase

/-- How a task of a service can end: by its return, by a panic, or by a panic whose payload
panics again when it is dropped. -/
inductive TaskEnd where
  | returned (result : Except String Unit)
  | unwound
  | unwoundAgain

/-- The outcome that the thread of a service sends for the end of its task. -/
def TaskEnd.outcome? : TaskEnd → Option ServiceOutcome
  | .returned (.ok ()) => some .completed
  | .returned (.error detail) => some (.failed detail)
  | .unwound => some .panicked
  | .unwoundAgain => none

/-- One processed event: the service, the outcome, and whether shutdown was requested. -/
structure Completion where
  index : Nat
  service : String
  outcome : ServiceOutcome
  requested : Bool
deriving DecidableEq, Repr

/-- The failure that a completion is, unless it is a clean one after a shutdown request. -/
def Completion.failure? (completion : Completion) : Option PendingFailure :=
  match completion.outcome with
  | .completed =>
      if completion.requested then none else some (.exited completion.service)
  | .failed detail => some (.failed completion.service detail)
  | .panicked => some (.panicked completion.service)

/-- A completion is no failure when it was asked for and went well. -/
theorem Completion.failure?_eq_none_iff (completion : Completion) :
    completion.failure? = none ↔
      completion.outcome = .completed ∧ completion.requested = true := by
  unfold failure?
  cases completion.outcome <;> simp

/-- A step of a task, of a holder of the token, of the clock, or of the supervisor. -/
inductive SupervisorAction where
  | spawn (name : String) (created : Bool)
  | runUntil
  | exit (index : Nat) (task : TaskEnd)
  | request
  | tick (nanos : Nat)
  | timeout
  | proceed (external : Bool)

namespace ServiceSupervisor

/-- An empty bounded supervisor. -/
def new (config : SupervisorConfig) : Except SupervisorError ServiceSupervisor :=
  match config.validate with
  | .error error => .error error
  | .ok () => .ok ⟨config, false, [], [], [], [], 0, 0, 0, [], none, none, .assembling⟩

/-- Spawn one named service task, unless the system refuses the thread. -/
def spawn (supervisor : ServiceSupervisor) (name : String) (created : Bool) :
    Except SupervisorError Unit × ServiceSupervisor :=
  match validateServiceName name with
  | .error error => (.error error, supervisor)
  | .ok () =>
      if supervisor.services.any (fun service => service.name == name) then
        (.error (.duplicateService name), supervisor)
      else if supervisor.config.maxServices ≤ supervisor.services.length then
        (.error (.tooManyServices supervisor.config.maxServices), supervisor)
      else if supervisor.requested then (.error .shutdownAlreadyRequested, supervisor)
      else if created = false then (.error (.spawn name), supervisor)
      else
        (.ok (), { supervisor with
          services :=
            supervisor.services ++ [⟨name, some ⟨supervisor.services.length⟩, false⟩]
          senders := supervisor.senders ++ [supervisor.services.length] })

/-- The task of a thread ends. An event that is sent after the supervisor has returned is
never received. -/
def exit (supervisor : ServiceSupervisor) (index : Nat) (task : TaskEnd) : ServiceSupervisor :=
  if index ∈ supervisor.senders then
    match task.outcome? with
    | some outcome =>
        { supervisor with
          senders := supervisor.senders.erase index
          queue := supervisor.queue ++ [⟨index, outcome⟩] }
    | none =>
        { supervisor with
          senders := supervisor.senders.erase index
          unwound := index :: supervisor.unwound }
  else supervisor

/-- Ask all services to shut down. -/
def request (supervisor : ServiceSupervisor) : ServiceSupervisor :=
  { supervisor with requested := true }

/-- The supervisor requests the shutdown itself, and its grace period begins. -/
def beginShutdown (supervisor : ServiceSupervisor) : ServiceSupervisor :=
  { supervisor.request with shutdownStarted := some supervisor.clock }

/-- The supervisor in another phase. -/
def enter (supervisor : ServiceSupervisor) (phase : SupervisorPhase) : ServiceSupervisor :=
  { supervisor with phase := phase }

/-- `run_until` returns, and the dropped supervisor requests the shutdown. -/
def leave (supervisor : ServiceSupervisor)
    (result : Except SupervisorError SupervisorReport) : ServiceSupervisor :=
  supervisor.request.enter (.returned result)

/-- Run the services until all have ended, or time is up. -/
def runUntil (supervisor : ServiceSupervisor) : ServiceSupervisor :=
  if supervisor.services = [] then supervisor.leave (.error .noServices)
  else
    { supervisor with
      servicesStarted := supervisor.services.length
      servicesStopped := 0
      completionOrder := []
      shutdownStarted := none
      pendingFailure := none
      phase := .poll }

/-- The thread of this handle unwound. -/
def joinFails (supervisor : ServiceSupervisor) (handle : Option JoinHandle) : Bool :=
  handle.any fun handle => decide (handle.thread ∈ supervisor.unwound)

/-- Process the received event. -/
def receive (supervisor : ServiceSupervisor) (event : ServiceEvent) (queue : List ServiceEvent) :
    Option Completion × ServiceSupervisor :=
  match supervisor.services[event.index]? with
  | none => (none, supervisor.leave (.error .invalidServiceEvent))
  | some service =>
      if service.stopped then (none, supervisor.leave (.error .invalidServiceEvent))
      else if supervisor.joinFails service.handle ∧ event.outcome ≠ .panicked then
        (none, supervisor.leave (.error .invalidServiceEvent))
      else
        let completion : Completion :=
          ⟨event.index, service.name, event.outcome, supervisor.requested⟩
        (some completion, { supervisor with
          queue := queue
          services := supervisor.services.set event.index ⟨service.name, none, true⟩
          servicesStopped := supervisor.servicesStopped + 1
          completionOrder := supervisor.completionOrder ++ [service.name]
          pendingFailure := supervisor.pendingFailure.or completion.failure?
          phase := .announce })

/-- What `run_until` answers once every service has stopped. -/
def report (supervisor : ServiceSupervisor) : Except SupervisorError SupervisorReport :=
  match supervisor.pendingFailure with
  | none =>
      .ok ⟨supervisor.servicesStarted, supervisor.servicesStopped, supervisor.completionOrder⟩
  | some failure => .error failure.intoError

/-- The services that have not stopped. -/
def remaining (supervisor : ServiceSupervisor) : List String :=
  (supervisor.services.filter fun service => !service.stopped).map ServiceState.name

/-- The supervisor goes on to its next read of shared state. In the receive phase it waits
for an event as long as some thread holds a sender. -/
def proceed (supervisor : ServiceSupervisor) (external : Bool) :
    Option Completion × ServiceSupervisor :=
  match supervisor.phase with
  | .assembling => (none, supervisor)
  | .poll => (none, supervisor.enter (if supervisor.requested then .receive else .ask))
  | .ask =>
      (none, (if external then supervisor.beginShutdown else supervisor).enter .receive)
  | .receive =>
      match supervisor.queue with
      | event :: queue => supervisor.receive event queue
      | [] =>
          if supervisor.senders = [] then
            (none, { supervisor with
              pendingFailure := supervisor.pendingFailure.or (some .eventChannelClosed)
              phase := .announce })
          else (none, supervisor)
  | .announce =>
      (none, (if supervisor.pendingFailure.isSome ∧ supervisor.requested = false then
        supervisor.beginShutdown else supervisor).enter .count)
  | .count =>
      if supervisor.servicesStopped = supervisor.servicesStarted then
        (none, supervisor.leave supervisor.report)
      else
        (none, { supervisor with
          shutdownStarted :=
            if supervisor.requested ∧ supervisor.shutdownStarted = none then some supervisor.clock
            else supervisor.shutdownStarted
          phase := .grace })
  | .grace =>
      if supervisor.shutdownStarted.any fun started =>
          decide (supervisor.config.shutdownGrace ≤ supervisor.clock - started) then
        (none, supervisor.leave (.error
          (.shutdownTimeout (supervisor.pendingFailure.map PendingFailure.trigger)
            supervisor.remaining)))
      else (none, supervisor.enter .poll)
  | .returned _ => (none, supervisor)

/-- One step of the whole. -/
def step (supervisor : ServiceSupervisor) :
    SupervisorAction → Option Completion × ServiceSupervisor
  | .spawn name created =>
      match supervisor.phase with
      | .assembling => (none, (supervisor.spawn name created).2)
      | _ => (none, supervisor)
  | .runUntil =>
      match supervisor.phase with
      | .assembling => (none, supervisor.runUntil)
      | _ => (none, supervisor)
  | .exit index task => (none, supervisor.exit index task)
  | .request => (none, supervisor.request)
  | .tick nanos => (none, { supervisor with clock := supervisor.clock + nanos })
  | .timeout =>
      match supervisor.phase with
      | .receive => (none, supervisor.enter .count)
      | _ => (none, supervisor)
  | .proceed external => supervisor.proceed external

end ServiceSupervisor

end FaceAuth
