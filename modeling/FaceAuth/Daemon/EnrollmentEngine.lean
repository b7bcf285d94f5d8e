import Mathlib.Logic.Function.Basic
import FaceAuth.Management.Manager
import FaceAuth.Storage.Record

/-!
# The enrollment worker and its controller

The daemon as the enrollment side of it shares it: the state behind Manager1,
the controller bridge, the jobs with their update channels, and the supervised
worker, which runs one job at a time.
-/

namespace FaceAuth

open Foundation

/-- Room for the updates of one job. -/
def UPDATE_QUEUE_CAPACITY : Nat := 34

/-- How many progress updates one job may send. -/
def MAX_PROGRESS_UPDATES : Nat := 32

/-- Sanitized enrollment worker failure. -/
inductive EnrollmentEngineFailure where
  | cancelled | capture | inference | insufficientEvidence | storage | internal
deriving DecidableEq, Repr

/-- One operation-bound update from the worker. -/
inductive EnrollmentEngineUpdate where
  | progress (operationId : OperationId) (progress : ManagementProgress)
  | completed (operationId : OperationId) (result : Except EnrollmentEngineFailure Unit)

/-- The operation that an update is about. -/
def EnrollmentEngineUpdate.operationId : EnrollmentEngineUpdate → OperationId
  | .progress operationId _ => operationId
  | .completed operationId _ => operationId

/-- Where the receiving half of a job's channel is: in the bridge, with the thread that
took it, or gone. -/
inductive Receiver where
  | stored
  | taken (thread : Nat)
  | dropped
deriving DecidableEq, Repr

/-- One submitted job: its private cancellation signal and its update channel. -/
structure EnrollmentJob where
  operationId : OperationId
  targetUid : UInt32
  cancelled : Bool
  queue : List EnrollmentEngineUpdate
  receiver : Receiver
  senderAlive : Bool

/-- The operation that the bridge controls, with the number of its job. Its handle is in
the bridge as long as the receiver of the job is stored. -/
structure ControlledOperation where
  operationId : OperationId
  job : Nat
deriving DecidableEq, Repr

/-- Why the service ends. -/
inductive EnrollmentEngineServiceError where
  | requestChannelClosed
  | resultReceiverClosed
deriving DecidableEq, Repr

/-- Where the worker stands in its service loop. -/
inductive WorkerPhase where
  | waiting
  | starting (job : Nat)
  | enrolling (job count : Nat)
  | reporting (job count : Nat) (progress : ManagementProgress)
  | returned (job : Nat) (result : Except EnrollmentEngineFailure TemplateRecord)
  | committing (job : Nat) (record : TemplateRecord)
  | sending (job : Nat) (result : Except EnrollmentEngineFailure Unit)
  | releasing (job : Nat) (sent : Bool)
  | stopped (result : Except EnrollmentEngineServiceError Unit)

/-- The shared state of the enrollment side. `updates` holds every update of the
coordinator, in the order of its lock, `signals` what was emitted, `templates`
what was committed, and `issued` the identifiers generated so far. -/
structure EnrollmentDaemon where
  clock : Nat
  management : ManagementState
  bridge : Option ControlledOperation
  jobs : Nat → EnrollmentJob
  jobCount : Nat
  active : Bool
  requests : Option Nat
  worker : WorkerPhase
  shutdown : Bool
  issued : List OperationId
  templates : List (OperationId × TemplateRecord)
  updates : List ManagementUpdate
  signals : List ManagementUpdate

namespace EnrollmentDaemon

variable (daemon : EnrollmentDaemon)

/-- Change one job. -/
def setJob (number : Nat) (change : EnrollmentJob → EnrollmentJob) : EnrollmentDaemon :=
  { daemon with jobs := Function.update daemon.jobs number (change (daemon.jobs number)) }

/-- Keep the outcome of a section under the management lock. -/
def settle (outcome : Except ManagementError ManagementUpdate × ManagementState) :
    EnrollmentDaemon :=
  { daemon with
    management := outcome.2
    updates := daemon.updates ++ outcome.1.toOption.toList }

/-- Emit an update as a signal, which the bus accepts or not. -/
def emit (accepted : Bool) (update : ManagementUpdate) : EnrollmentDaemon :=
  if accepted then { daemon with signals := daemon.signals ++ [update] } else daemon

/-- Whether cancellation of the job or daemon shutdown was observed. -/
def isCancelled (number : Nat) : Bool := (daemon.jobs number).cancelled || daemon.shutdown

/-- A send to the job's channel that does not block: it fails when the queue is full or
nobody is left to receive. -/
def canSend (number : Nat) : Bool :=
  decide ((daemon.jobs number).queue.length < UPDATE_QUEUE_CAPACITY) &&
    decide ((daemon.jobs number).receiver ≠ .dropped)

/-- Append to the queue of a job. -/
def send (number : Nat) (update : EnrollmentEngineUpdate) : EnrollmentDaemon :=
  daemon.setJob number fun job => { job with queue := job.queue ++ [update] }

section Fields

variable (number : Nat) (change : EnrollmentJob → EnrollmentJob)
  (outcome : Except ManagementError ManagementUpdate × ManagementState) (accepted : Bool)
  (update : ManagementUpdate)

/-- Changing a job leaves the bridge. -/
@[simp] theorem bridge_setJob : (daemon.setJob number change).bridge = daemon.bridge := rfl

/-- Changing a job leaves the worker. -/
@[simp] theorem worker_setJob : (daemon.setJob number change).worker = daemon.worker := rfl

/-- The job that was changed. -/
@[simp] theorem jobs_setJob_self :
    (daemon.setJob number change).jobs number = change (daemon.jobs number) :=
  Function.update_self ..

/-- The other jobs stay. -/
theorem jobs_setJob_of_ne {other : Nat} (distinct : other ≠ number) :
    (daemon.setJob number change).jobs other = daemon.jobs other :=
  Function.update_of_ne distinct ..

/-- The coordinator is what its operation left. -/
@[simp] theorem management_settle : (daemon.settle outcome).management = outcome.2 := rfl

/-- An update that the coordinator made is the last one. -/
@[simp] theorem updates_settle :
    (daemon.settle outcome).updates = daemon.updates ++ outcome.1.toOption.toList := rfl

/-- Emitting changes nothing but the signals. -/
theorem emit_eq : daemon.emit accepted update =
    { daemon with signals := daemon.signals ++ if accepted then [update] else [] } := by
  cases accepted
  · simp [emit]
  · rfl

end Fields

/-! ## The controller bridge -/

/-- The operation is not the one that the bridge controls. -/
def notActive : BackendError := ⟨"enrollment operation is not active"⟩

/-- The updates of the operation already have a reader. -/
def handleTaken : BackendError := ⟨"enrollment operation handle was already taken"⟩

/-- The bridge controls another operation. -/
def anotherActive : BackendError := ⟨"another enrollment operation is active"⟩

/-- The queue of the engine is full. -/
def engineBusy : BackendError := ⟨"enrollment engine is busy"⟩

/-- Nobody is left to take a request. -/
def workerStopped : BackendError := ⟨"enrollment engine worker has stopped"⟩

/-- The operation that the bridge controls, if it is this one. -/
def controlled (operationId : OperationId) : Option ControlledOperation :=
  daemon.bridge.filter fun operation => operation.operationId = operationId

/-- Submit one exact authorized operation, once the shared biometric resources are
leased. -/
def submit (operationId : OperationId) (targetUid : UInt32) (lease : Except BackendError Unit) :
    Except BackendError EnrollmentDaemon :=
  match lease with
  | .error error => .error error
  | .ok () =>
      if daemon.active then .error engineBusy
      else
        match daemon.worker, daemon.requests with
        | .stopped _, _ => .error workerStopped
        | _, some _ => .error workerStopped
        | _, none => .ok { daemon with
            active := true
            requests := some daemon.jobCount
            jobs := Function.update daemon.jobs daemon.jobCount
              ⟨operationId, targetUid, false, [], .stored, true⟩
            jobCount := daemon.jobCount + 1 }

/-- Start the worker on an operation and keep its handle and its cancellation. -/
def startController (operationId : OperationId) (targetUid : UInt32)
    (lease : Except BackendError Unit) : Except BackendError EnrollmentDaemon :=
  if daemon.bridge.isSome then .error anotherActive
  else
    match daemon.submit operationId targetUid lease with
    | .error error => .error error
    | .ok after => .ok { after with bridge := some ⟨operationId, daemon.jobCount⟩ }

/-- Take the worker update handle exactly once for the expected operation. -/
def takeHandle (thread : Nat) (operationId : OperationId) :
    Except BackendError (Nat × EnrollmentDaemon) :=
  match daemon.controlled operationId with
  | none => .error notActive
  | some operation =>
      if (daemon.jobs operation.job).receiver = .stored then
        .ok (operation.job,
          daemon.setJob operation.job fun job => { job with receiver := .taken thread })
      else .error handleTaken

/-- Clear private cancellation state. A handle that nobody took goes with it. -/
def finish (operationId : OperationId) : Except BackendError EnrollmentDaemon :=
  match daemon.controlled operationId with
  | none => .error notActive
  | some operation =>
      let daemon := { daemon with bridge := none }
      if (daemon.jobs operation.job).receiver = .stored then
        .ok (daemon.setJob operation.job fun job => { job with receiver := .dropped })
      else .ok daemon

/-- The job whose cancellation signal belongs to the operation. -/
def cancellationOf (operationId : OperationId) : Except BackendError Nat :=
  match daemon.controlled operationId with
  | none => .error notActive
  | some operation => .ok operation.job

/-- Signal cancellation to a job. -/
def raise (number : Nat) : EnrollmentDaemon :=
  daemon.setJob number fun job => { job with cancelled := true }

/-- Drop the receiving half of a job's channel. -/
def dropReceiver (number : Nat) : EnrollmentDaemon :=
  daemon.setJob number fun job => { job with receiver := .dropped }

/-! ## The worker -/

/-- What the worker finds outside the model, or that it goes on by itself. -/
inductive WorkerChoice where
  | stop
  | take
  | report (progress : ManagementProgress)
  | finish (result : Except EnrollmentEngineFailure TemplateRecord)
  | save (stored : Bool)
  | proceed

/-- The daemon with its worker elsewhere. -/
def withWorker (worker : WorkerPhase) : EnrollmentDaemon := { daemon with worker }

/-- What `run_job` does with the result of the engine. -/
def judge (number : Nat) :
    Except EnrollmentEngineFailure TemplateRecord → WorkerPhase
  | .error failure => .sending number (.error failure)
  | .ok record =>
      if daemon.isCancelled number then .sending number (.error .cancelled)
      else if record.uid ≠ (daemon.jobs number).targetUid ∨ record.validate ≠ .ok () then
        .sending number (.error .internal)
      else .committing number record

/-- One step of the worker: `run` and `run_job`. -/
def workerStep (choice : WorkerChoice) : Option EnrollmentDaemon :=
  match daemon.worker, choice with
  | .waiting, .stop =>
      if daemon.shutdown then
        match daemon.requests with
        | none => some (daemon.withWorker (.stopped (.ok ())))
        | some number => some (({ daemon with requests := none }.setJob number fun job =>
            { job with senderAlive := false }).withWorker (.stopped (.ok ())))
      else none
  | .waiting, .take =>
      daemon.requests.map fun number =>
        { daemon with requests := none }.withWorker (.starting number)
  | .starting number, .proceed =>
      if daemon.isCancelled number then
        some (daemon.withWorker (.returned number (.error .cancelled)))
      else some (daemon.withWorker (.enrolling number 0))
  | .enrolling number count, .report progress =>
      if daemon.isCancelled number || decide (MAX_PROGRESS_UPDATES ≤ count) then some daemon
      else some (daemon.withWorker (.reporting number count progress))
  | .enrolling number _, .finish result => some (daemon.withWorker (.returned number result))
  | .reporting number count progress, .proceed =>
      if daemon.canSend number then
        some ((daemon.send number (.progress (daemon.jobs number).operationId progress)).withWorker
          (.enrolling number (count + 1)))
      else some (daemon.withWorker (.enrolling number count))
  | .returned number result, .proceed => some (daemon.withWorker (daemon.judge number result))
  | .committing number record, .save stored =>
      if stored then
        some ({ daemon with
          templates := daemon.templates ++ [((daemon.jobs number).operationId, record)] }.withWorker
            (.sending number (.ok ())))
      else some (daemon.withWorker (.sending number (.error .storage)))
  | .sending number result, .proceed =>
      if (daemon.jobs number).receiver = .dropped then
        some (daemon.withWorker (.releasing number false))
      else if (daemon.jobs number).queue.length < UPDATE_QUEUE_CAPACITY then
        some ((daemon.send number (.completed (daemon.jobs number).operationId result)).withWorker
          (.releasing number true))
      else none
  | .releasing number sent, .proceed =>
      let daemon := { daemon with active := false }.setJob number fun job =>
        { job with senderAlive := false }
      some (daemon.withWorker
        (if sent then .waiting else .stopped (.error .resultReceiverClosed)))
  | _, _ => none

/-- What a step of the worker does. -/
inductive Worked (daemon : EnrollmentDaemon) : EnrollmentDaemon → Prop where
  | shut (waiting : daemon.worker = .waiting) (requested : daemon.shutdown = true)
      (empty : daemon.requests = none) : Worked daemon (daemon.withWorker (.stopped (.ok ())))
  | abandoned {number : Nat} (waiting : daemon.worker = .waiting)
      (requested : daemon.shutdown = true) (pending : daemon.requests = some number) :
      Worked daemon (({ daemon with requests := none }.setJob number fun job =>
        { job with senderAlive := false }).withWorker (.stopped (.ok ())))
  | took {number : Nat} (waiting : daemon.worker = .waiting)
      (pending : daemon.requests = some number) :
      Worked daemon ({ daemon with requests := none }.withWorker (.starting number))
  | declined {number : Nat} (starting : daemon.worker = .starting number)
      (cancelled : daemon.isCancelled number = true) :
      Worked daemon (daemon.withWorker (.returned number (.error .cancelled)))
  | began {number : Nat} (starting : daemon.worker = .starting number)
      (running : daemon.isCancelled number = false) :
      Worked daemon (daemon.withWorker (.enrolling number 0))
  | ignored {number count : Nat} (enrolling : daemon.worker = .enrolling number count) :
      Worked daemon daemon
  | reports {number count : Nat} (enrolling : daemon.worker = .enrolling number count)
      (progress : ManagementProgress) :
      Worked daemon (daemon.withWorker (.reporting number count progress))
  | returned {number count : Nat} (enrolling : daemon.worker = .enrolling number count)
      (result : Except EnrollmentEngineFailure TemplateRecord) :
      Worked daemon (daemon.withWorker (.returned number result))
  | reported {number count : Nat} {progress : ManagementProgress}
      (reporting : daemon.worker = .reporting number count progress) :
      Worked daemon ((daemon.send number
        (.progress (daemon.jobs number).operationId progress)).withWorker
          (.enrolling number (count + 1)))
  | unreported {number count : Nat} {progress : ManagementProgress}
      (reporting : daemon.worker = .reporting number count progress) :
      Worked daemon (daemon.withWorker (.enrolling number count))
  | judged {number : Nat} {result : Except EnrollmentEngineFailure TemplateRecord}
      (finished : daemon.worker = .returned number result) :
      Worked daemon (daemon.withWorker (daemon.judge number result))
  | saved {number : Nat} {record : TemplateRecord}
      (committing : daemon.worker = .committing number record) :
      Worked daemon ({ daemon with
        templates := daemon.templates ++ [((daemon.jobs number).operationId, record)] }.withWorker
          (.sending number (.ok ())))
  | unsaved {number : Nat} {record : TemplateRecord}
      (committing : daemon.worker = .committing number record) :
      Worked daemon (daemon.withWorker (.sending number (.error .storage)))
  | undelivered {number : Nat} {result : Except EnrollmentEngineFailure Unit}
      (sending : daemon.worker = .sending number result)
      (dropped : (daemon.jobs number).receiver = .dropped) :
      Worked daemon (daemon.withWorker (.releasing number false))
  | delivered {number : Nat} {result : Except EnrollmentEngineFailure Unit}
      (sending : daemon.worker = .sending number result)
      (listening : (daemon.jobs number).receiver ≠ .dropped) :
      Worked daemon ((daemon.send number
        (.completed (daemon.jobs number).operationId result)).withWorker (.releasing number true))
  | released {number : Nat} {sent : Bool} (releasing : daemon.worker = .releasing number sent) :
      Worked daemon (({ daemon with active := false }.setJob number fun job =>
        { job with senderAlive := false }).withWorker
          (if sent then .waiting else .stopped (.error .resultReceiverClosed)))

/-- What one step of the worker can do. -/
theorem workerStep_cases {daemon after : EnrollmentDaemon} {choice : WorkerChoice}
    (stepped : daemon.workerStep choice = some after) : Worked daemon after := by
  unfold workerStep at stepped
  split at stepped
  · next waiting =>
      split at stepped
      · next requested =>
          split at stepped <;> cases stepped
          · next empty => exact .shut waiting requested empty
          · next pending => exact .abandoned waiting requested pending
      · cases stepped
  · next waiting =>
      obtain ⟨number, pending, rfl⟩ := Option.map_eq_some_iff.mp stepped
      exact .took waiting pending
  · next starting =>
      split at stepped <;> cases stepped
      · next cancelled => exact .declined starting cancelled
      · next running => exact .began starting (by simpa using running)
  · next enrolling =>
      split at stepped <;> cases stepped
      · exact .ignored enrolling
      · exact .reports enrolling _
  · next enrolling =>
      cases stepped
      exact .returned enrolling _
  · next reporting =>
      split at stepped <;> cases stepped
      · exact .reported reporting
      · exact .unreported reporting
  · next finished =>
      cases stepped
      exact .judged finished
  · next committing =>
      split at stepped <;> cases stepped
      · exact .saved committing
      · exact .unsaved committing
  · next sending =>
      split at stepped
      · next dropped =>
          cases stepped
          exact .undelivered sending dropped
      · next listening =>
          split at stepped <;> cases stepped
          exact .delivered sending listening
  · next releasing =>
      cases stepped
      exact .released releasing
  · cases stepped

end EnrollmentDaemon

end FaceAuth
