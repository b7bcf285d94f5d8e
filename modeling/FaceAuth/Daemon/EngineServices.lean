import FaceAuth.Daemon.Resource
import FaceAuth.Foundation.Threads

/-!
# The two engine services

The authentication service and the enrollment service, each with one worker and
a queue for one request, over the arbiter that they share. Clients submit jobs
and read their updates while the workers run.
-/

namespace FaceAuth

open Foundation

namespace BiometricEngine

/-- What identifies a job. -/
@[reducible] def Id : BiometricEngine → Type
  | .authentication => TransactionId
  | .enrollment => OperationId

/-- What an engine tells on its way. -/
@[reducible] def Progress : BiometricEngine → Type
  | .authentication => ProgressCode
  | .enrollment => ManagementProgress

/-- What the engine of a service returns. -/
@[reducible] def Output : BiometricEngine → Type
  | .authentication => DerivedAuthenticationEvidence
  | .enrollment => TemplateRecord

/-- What a terminal update carries on success. No template crosses the channel. -/
@[reducible] def Success : BiometricEngine → Type
  | .authentication => DerivedAuthenticationEvidence
  | .enrollment => Unit

/-- How an engine can fail. -/
@[reducible] def Failure : BiometricEngine → Type
  | .authentication => AuthenticationEngineFailure
  | .enrollment => EnrollmentEngineFailure

/-- The failure of a cancelled job. -/
def cancelled : (engine : BiometricEngine) → engine.Failure
  | .authentication => AuthenticationEngineFailure.cancelled
  | .enrollment => EnrollmentEngineFailure.cancelled

end BiometricEngine

/-- One authorized job of a service, as it was submitted. -/
structure EngineRequest (engine : BiometricEngine) where
  id : engine.Id
  targetUid : UInt32

/-- The owner of the lease for a request. -/
def EngineRequest.owner : {engine : BiometricEngine} → EngineRequest engine → BiometricResourceOwner
  | .authentication, request => .authentication request.id
  | .enrollment, request => .enrollment request.id

/-- One bounded update from a worker. -/
inductive EngineUpdate (engine : BiometricEngine) where
  | progress (id : engine.Id) (progress : engine.Progress)
  | completed (id : engine.Id) (result : Except engine.Failure engine.Success)

/-- One submitted job: its request with its lease and its cancellation signal, what its
receiver has read, what its channel holds, and whether the receiver is still there. -/
structure EngineJob (engine : BiometricEngine) where
  request : EngineRequest engine
  lease : Nat
  cancelled : Bool
  received : List (EngineUpdate engine)
  queue : List (EngineUpdate engine)
  receiver : Bool

/-- Everything that was sent to the receiver of a job. -/
def EngineJob.sent {engine : BiometricEngine} (job : EngineJob engine) :
    List (EngineUpdate engine) := job.received ++ job.queue

/-- Why a service ends. -/
inductive EngineServiceError where
  | requestChannelClosed
  | resultReceiverClosed
deriving DecidableEq, Repr

/-- Where the worker of a service stands: `run` and `run_job`. -/
inductive EnginePhase (engine : BiometricEngine) where
  | waiting
  | starting (job : Nat)
  | running (job count : Nat)
  | reporting (job count : Nat) (progress : engine.Progress)
  | returned (job : Nat) (result : Except engine.Failure engine.Output)
  | storing (job : Nat) (record : engine.Output)
  | sending (job : Nat) (result : Except engine.Failure engine.Success)
  | clearing (job : Nat) (sent : Bool)
  | dropping (job : Nat) (sent : Bool)
  | abandoning (job : Nat) (result : Except EngineServiceError Unit)
  | stopped (result : Except EngineServiceError Unit)

/-- The job that a worker holds. -/
def EnginePhase.job {engine : BiometricEngine} : EnginePhase engine → Option Nat
  | .waiting | .stopped _ => none
  | .starting job | .running job _ | .reporting job _ _ | .returned job _ | .storing job _
  | .sending job _ | .clearing job _ | .dropping job _ | .abandoning job _ => some job

/-- The worker takes requests or runs a job. -/
def EnginePhase.isRunning {engine : BiometricEngine} : EnginePhase engine → Bool
  | .abandoning _ _ | .stopped _ => false
  | _ => true

/-- One service: the busy flag and the request queue that it shares with its clients, its
worker, its jobs, and the templates that it saved. -/
structure EngineLane (engine : BiometricEngine) where
  active : Bool
  requests : Option Nat
  worker : EnginePhase engine
  jobs : Nat → EngineJob engine
  jobCount : Nat
  saved : List (Nat × engine.Output)

/-- What a worker finds outside the model, or that it goes on by itself. -/
inductive EngineChoice (engine : BiometricEngine) where
  | stop
  | take
  | report (progress : engine.Progress)
  | finish (result : Except engine.Failure engine.Output)
  | save (stored : Bool)
  | proceed

/-- What `run_job` makes of the result of the engine. -/
inductive EngineVerdict (engine : BiometricEngine) where
  | terminal (result : Except engine.Failure engine.Success)
  | store (record : engine.Output)

/-- Evidence of another transaction is no evidence. -/
def judgeEvidence (request : EngineRequest .authentication) (cancelled : Bool)
    (result : Except AuthenticationEngineFailure DerivedAuthenticationEvidence) :
    EngineVerdict .authentication :=
  if cancelled then .terminal (.error .cancelled)
  else
    match result with
    | .ok evidence =>
        if evidence.transactionId = request.id then .terminal (.ok evidence)
        else .terminal (.error .invalidEvidence)
    | .error failure => .terminal (.error failure)

/-- A valid record for the target of the job goes to the sink. -/
def judgeRecord (request : EngineRequest .enrollment) (cancelled : Bool)
    (result : Except EnrollmentEngineFailure TemplateRecord) : EngineVerdict .enrollment :=
  match result with
  | .ok record =>
      if cancelled then .terminal (.error .cancelled)
      else if record.uid ≠ request.targetUid ∨ record.validate ≠ .ok () then
        .terminal (.error .internal)
      else .store record
  | .error failure => .terminal (.error failure)

/-- What the worker makes of the outcome of a job. -/
def judge : (engine : BiometricEngine) → EngineRequest engine → Bool →
    Except engine.Failure engine.Output → EngineVerdict engine
  | .authentication => judgeEvidence
  | .enrollment => judgeRecord

/-- What the sink makes of a record. Authentication has no sink. -/
def sinkResult : (engine : BiometricEngine) → Bool → Except engine.Failure engine.Success
  | .authentication, _ => .error .internal
  | .enrollment, true => .ok ()
  | .enrollment, false => .error .storage

namespace EngineLane

variable {engine : BiometricEngine} (lane : EngineLane engine)

/-- The jobs from their submission to the return of `run_job`. -/
def outstanding : List Nat := lane.requests.toList ++ lane.worker.job.toList

/-- The lane with its worker elsewhere. -/
def withWorker (worker : EnginePhase engine) : EngineLane engine := { lane with worker }

/-- Change one job. -/
def setJob (number : Nat) (change : EngineJob engine → EngineJob engine) : EngineLane engine :=
  { lane with jobs := Function.update lane.jobs number (change (lane.jobs number)) }

/-- Append to the channel of a job. -/
def send (number : Nat) (update : EngineUpdate engine) : EngineLane engine :=
  lane.setJob number fun job => { job with queue := job.queue ++ [update] }

/-- A send that does not block fails when the channel is full or nobody is left to receive. -/
def canSend (number : Nat) : Bool :=
  (lane.jobs number).receiver &&
    decide ((lane.jobs number).queue.length < engine.updateQueueCapacity)

/-- End the service. A request in the queue goes with it. -/
def stop (result : Except EngineServiceError Unit) : EngineLane engine :=
  match lane.requests with
  | none => lane.withWorker (.stopped result)
  | some number => { lane with requests := none }.withWorker (.abandoning number result)

/-- One step of the worker, with the lease that it drops. -/
def advance (shutdown : Bool) (choice : EngineChoice engine) :
    Option (EngineLane engine × Option Nat) :=
  match lane.worker, choice with
  | .waiting, .stop => if shutdown then some (lane.stop (.ok ()), none) else none
  | .waiting, .take =>
      lane.requests.map fun number =>
        ({ lane with requests := none }.withWorker (.starting number), none)
  | .starting number, .proceed =>
      if (lane.jobs number).cancelled || shutdown then
        some (lane.withWorker (.returned number (.error engine.cancelled)), none)
      else some (lane.withWorker (.running number 0), none)
  | .running number count, .report progress =>
      if (lane.jobs number).cancelled || shutdown || decide (engine.maxProgressUpdates ≤ count) then
        some (lane, none)
      else some (lane.withWorker (.reporting number count progress), none)
  | .running number _, .finish result => some (lane.withWorker (.returned number result), none)
  | .reporting number count progress, .proceed =>
      if lane.canSend number then
        some ((lane.send number (.progress (lane.jobs number).request.id progress)).withWorker
          (.running number (count + 1)), none)
      else some (lane.withWorker (.running number count), none)
  | .returned number result, .proceed =>
      match judge engine (lane.jobs number).request ((lane.jobs number).cancelled || shutdown)
        result with
      | .terminal result => some (lane.withWorker (.sending number result), none)
      | .store record => some (lane.withWorker (.storing number record), none)
  | .storing number record, .save stored =>
      some ({ lane with
        saved := if stored then lane.saved ++ [(number, record)] else lane.saved }.withWorker
          (.sending number (sinkResult engine stored)), none)
  | .sending number result, .proceed =>
      if (lane.jobs number).receiver then
        if (lane.jobs number).queue.length < engine.updateQueueCapacity then
          some ((lane.send number (.completed (lane.jobs number).request.id result)).withWorker
            (.clearing number true), none)
        else none
      else some (lane.withWorker (.clearing number false), none)
  | .clearing number sent, .proceed =>
      some ({ lane with active := false }.withWorker (.dropping number sent), none)
  | .dropping number sent, .proceed =>
      some (if sent then lane.withWorker .waiting else lane.stop (.error .resultReceiverClosed),
        some (lane.jobs number).lease)
  | .abandoning number result, .proceed =>
      some (lane.withWorker (.stopped result), some (lane.jobs number).lease)
  | _, _ => none

/-- What a step of the worker does, and the lease that it drops. -/
inductive Advances (lane : EngineLane engine) (shutdown : Bool) :
    EngineLane engine → Option Nat → Prop where
  | shut (waiting : lane.worker = .waiting) (requested : shutdown = true) :
      Advances lane shutdown (lane.stop (.ok ())) none
  | took {number : Nat} (waiting : lane.worker = .waiting) (queued : lane.requests = some number) :
      Advances lane shutdown ({ lane with requests := none }.withWorker (.starting number)) none
  | declined {number : Nat} (starting : lane.worker = .starting number) :
      Advances lane shutdown (lane.withWorker (.returned number (.error engine.cancelled))) none
  | began {number : Nat} (starting : lane.worker = .starting number) :
      Advances lane shutdown (lane.withWorker (.running number 0)) none
  | ignored {number count : Nat} (running : lane.worker = .running number count) :
      Advances lane shutdown lane none
  | reports {number count : Nat} (running : lane.worker = .running number count)
      (left : count < engine.maxProgressUpdates) (progress : engine.Progress) :
      Advances lane shutdown (lane.withWorker (.reporting number count progress)) none
  | returned {number count : Nat} (running : lane.worker = .running number count)
      (result : Except engine.Failure engine.Output) :
      Advances lane shutdown (lane.withWorker (.returned number result)) none
  | reported {number count : Nat} {progress : engine.Progress}
      (reporting : lane.worker = .reporting number count progress) :
      Advances lane shutdown
        ((lane.send number (.progress (lane.jobs number).request.id progress)).withWorker
          (.running number (count + 1))) none
  | unreported {number count : Nat} {progress : engine.Progress}
      (reporting : lane.worker = .reporting number count progress)
      (refused : lane.canSend number = false) :
      Advances lane shutdown (lane.withWorker (.running number count)) none
  | judged {number : Nat} {result : Except engine.Failure engine.Output}
      {outcome : Except engine.Failure engine.Success}
      (finished : lane.worker = .returned number result)
      (verdict : judge engine (lane.jobs number).request
        ((lane.jobs number).cancelled || shutdown) result = .terminal outcome) :
      Advances lane shutdown (lane.withWorker (.sending number outcome)) none
  | stores {number : Nat} {result : Except engine.Failure engine.Output} {record : engine.Output}
      (finished : lane.worker = .returned number result)
      (verdict : judge engine (lane.jobs number).request
        ((lane.jobs number).cancelled || shutdown) result = .store record) :
      Advances lane shutdown (lane.withWorker (.storing number record)) none
  | stored {number : Nat} {record : engine.Output} (storing : lane.worker = .storing number record)
      (kept : Bool) :
      Advances lane shutdown ({ lane with
        saved := if kept then lane.saved ++ [(number, record)] else lane.saved }.withWorker
          (.sending number (sinkResult engine kept))) none
  | completed {number : Nat} {result : Except engine.Failure engine.Success}
      (sending : lane.worker = .sending number result) :
      Advances lane shutdown
        ((lane.send number (.completed (lane.jobs number).request.id result)).withWorker
          (.clearing number true)) none
  | unheard {number : Nat} {result : Except engine.Failure engine.Success}
      (sending : lane.worker = .sending number result)
      (gone : (lane.jobs number).receiver = false) :
      Advances lane shutdown (lane.withWorker (.clearing number false)) none
  | cleared {number : Nat} {sent : Bool} (clearing : lane.worker = .clearing number sent) :
      Advances lane shutdown ({ lane with active := false }.withWorker (.dropping number sent)) none
  | finished {number : Nat} (dropping : lane.worker = .dropping number true) :
      Advances lane shutdown (lane.withWorker .waiting) (some (lane.jobs number).lease)
  | ended {number : Nat} (dropping : lane.worker = .dropping number false) :
      Advances lane shutdown (lane.stop (.error .resultReceiverClosed))
        (some (lane.jobs number).lease)
  | abandoned {number : Nat} {result : Except EngineServiceError Unit}
      (abandoning : lane.worker = .abandoning number result) :
      Advances lane shutdown (lane.withWorker (.stopped result)) (some (lane.jobs number).lease)

variable {lane}

/-- What one step of a worker can do. -/
theorem advance_cases {shutdown : Bool} {choice : EngineChoice engine} {after : EngineLane engine}
    {dropped : Option Nat} (advanced : lane.advance shutdown choice = some (after, dropped)) :
    lane.Advances shutdown after dropped := by
  unfold advance at advanced
  split at advanced
  · next waiting =>
      split at advanced <;> cases advanced
      next requested => exact .shut waiting requested
  · next waiting =>
      obtain ⟨number, queued, ⟨⟩⟩ := Option.map_eq_some_iff.mp advanced
      exact .took waiting queued
  · next starting =>
      split at advanced <;> cases advanced
      · exact .declined starting
      · exact .began starting
  · next running =>
      split at advanced <;> cases advanced
      · exact .ignored running
      · next open_ =>
          refine .reports running ?_ _
          simp only [Bool.or_eq_true, decide_eq_true_eq, not_or] at open_
          omega
  · next running =>
      cases advanced
      exact .returned running _
  · next reporting =>
      split at advanced <;> cases advanced
      · exact .reported reporting
      · next refused => exact .unreported reporting (by simpa using refused)
  · next finished =>
      split at advanced <;> cases advanced
      · next verdict => exact .judged finished verdict
      · next verdict => exact .stores finished verdict
  · next storing =>
      cases advanced
      exact .stored storing _
  · next sending =>
      split at advanced
      · split at advanced <;> cases advanced
        exact .completed sending
      · next gone =>
          cases advanced
          exact .unheard sending (by simpa using gone)
  · next clearing =>
      cases advanced
      exact .cleared clearing
  · next sent dropping =>
      cases advanced
      cases sent
      · exact .ended dropping
      · exact .finished dropping
  · next abandoning =>
      cases advanced
      exact .abandoned abandoning
  · cases advanced

/-- Put a request into the queue, if it is free and somebody reads it. -/
def push (lane : EngineLane engine) (request : EngineRequest engine) (lease : Nat) :
    Option (EngineLane engine) :=
  if lane.worker.isRunning ∧ lane.requests = none then
    some { lane with
      requests := some lane.jobCount
      jobs := Function.update lane.jobs lane.jobCount ⟨request, lease, false, [], [], true⟩
      jobCount := lane.jobCount + 1 }
  else none

end EngineLane

/-- Both services, their arbiter, and the daemon's shutdown. -/
structure EngineSystem where
  arbiter : ArbiterState
  lane : (engine : BiometricEngine) → EngineLane engine
  shutdown : Bool

/-- Why a request is not taken. -/
inductive EngineSubmitError where
  | busy | workerStopped | resourceUnavailable
deriving DecidableEq, Repr

/-- Where one `submit` stands. It returns the number of the job. -/
inductive Submission where
  | ready
  | leased (engine : BiometricEngine) (request : EngineRequest engine) (generation : Nat)
  | activated (engine : BiometricEngine) (request : EngineRequest engine) (generation : Nat)
  | refused (engine : BiometricEngine) (generation : Nat)
  | unsent (engine : BiometricEngine) (generation : Nat)
  | deactivating (engine : BiometricEngine)
  | returned (engine : BiometricEngine) (result : Except EngineSubmitError Nat)

/-- The lease that a submission holds. -/
def Submission.lease : Submission → Option Nat
  | .leased _ _ generation | .activated _ _ generation | .refused _ generation
  | .unsent _ generation => some generation
  | .ready | .deactivating _ | .returned _ _ => none

/-- What a caller may do next. -/
inductive SubmitChoice where
  | submit (engine : BiometricEngine) (request : EngineRequest engine)
  | proceed

/-- Events around the submissions: steps of the workers, cancellation, what the receivers
do, and shutdown. -/
inductive EngineEvent where
  | worker (engine : BiometricEngine) (choice : EngineChoice engine)
  | cancel (engine : BiometricEngine) (number : Nat)
  | receive (engine : BiometricEngine) (number : Nat)
  | dropHandle (engine : BiometricEngine) (number : Nat)
  | shutdown

namespace EngineSystem

variable (system : EngineSystem)

/-- The system with another lane for one engine. -/
def setLane (engine : BiometricEngine) (lane : EngineLane engine) : EngineSystem :=
  { system with lane := Function.update system.lane engine lane }

/-- Drop a lease. -/
def release (generation : Nat) : EngineSystem :=
  { system with arbiter := system.arbiter.release generation }

/-- One section of `submit`. A request that cannot be sent is dropped with its lease. -/
def submit (choice : SubmitChoice) : Submission → Option (EngineSystem × Submission)
  | .ready =>
      match choice with
      | .submit engine request =>
          match system.arbiter.tryAcquire request.owner with
          | .error (.busy _) => some (system, .returned engine (.error .busy))
          | .error .unavailable => some (system, .returned engine (.error .resourceUnavailable))
          | .ok (generation, arbiter) =>
              some ({ system with arbiter }, .leased engine request generation)
      | .proceed => none
  | .leased engine request generation =>
      if (system.lane engine).active then some (system, .refused engine generation)
      else
        some (system.setLane engine { system.lane engine with active := true },
          .activated engine request generation)
  | .activated engine request generation =>
      match (system.lane engine).push request generation with
      | some lane =>
          some (system.setLane engine lane, .returned engine (.ok (system.lane engine).jobCount))
      | none => some (system, .unsent engine generation)
  | .refused engine generation =>
      some (system.release generation, .returned engine (.error .busy))
  | .unsent engine generation => some (system.release generation, .deactivating engine)
  | .deactivating engine =>
      some (system.setLane engine { system.lane engine with active := false },
        .returned engine (.error .workerStopped))
  | .returned _ _ => none

/-- The job was submitted, and its handle is still there. -/
def Listens (engine : BiometricEngine) (number : Nat) : Prop :=
  number < (system.lane engine).jobCount ∧ ((system.lane engine).jobs number).receiver = true

instance (engine : BiometricEngine) (number : Nat) : Decidable (system.Listens engine number) :=
  inferInstanceAs (Decidable (_ ∧ _))

/-- What happens apart from the callers. -/
def occur : EngineEvent → Option EngineSystem
  | .worker engine choice =>
      ((system.lane engine).advance system.shutdown choice).map fun (lane, dropped) =>
        dropped.elim (system.setLane engine lane) (system.setLane engine lane).release
  | .cancel engine number =>
      if number < (system.lane engine).jobCount then
        some (system.setLane engine ((system.lane engine).setJob number fun job =>
          { job with cancelled := true }))
      else none
  | .receive engine number =>
      if system.Listens engine number then
        match ((system.lane engine).jobs number).queue with
        | [] => none
        | update :: queue =>
            some (system.setLane engine ((system.lane engine).setJob number fun job =>
              { job with received := job.received ++ [update], queue }))
      else none
  | .dropHandle engine number =>
      if system.Listens engine number then
        some (system.setLane engine ((system.lane engine).setJob number fun job =>
          { job with receiver := false }))
      else none
  | .shutdown => some { system with shutdown := true }

/-- A lane does not change the arbiter. -/
@[simp] theorem arbiter_setLane (engine : BiometricEngine) (lane : EngineLane engine) :
    (system.setLane engine lane).arbiter = system.arbiter := rfl

/-- A lane does not change whether the system shuts down. -/
@[simp] theorem shutdown_setLane (engine : BiometricEngine) (lane : EngineLane engine) :
    (system.setLane engine lane).shutdown = system.shutdown := rfl

/-- The lane that was put in. -/
@[simp] theorem lane_setLane_self (engine : BiometricEngine) (lane : EngineLane engine) :
    (system.setLane engine lane).lane engine = lane := Function.update_self ..

/-- The lanes of other engines stay. -/
theorem lane_setLane_of_ne {engine other : BiometricEngine} (lane : EngineLane engine)
    (distinct : other ≠ engine) : (system.setLane engine lane).lane other = system.lane other :=
  Function.update_of_ne distinct ..

/-- Releasing a lease leaves the lanes. -/
@[simp] theorem lane_release (generation : Nat) : (system.release generation).lane = system.lane :=
  rfl

/-- Releasing a lease does not change whether the system shuts down. -/
@[simp] theorem shutdown_release (generation : Nat) :
    (system.release generation).shutdown = system.shutdown := rfl

/-- Releasing a lease is left to the arbiter. -/
@[simp] theorem arbiter_release (generation : Nat) :
    (system.release generation).arbiter = system.arbiter.release generation := rfl

/-- What a section of a submission does. -/
inductive Submits (system : EngineSystem) : Submission → EngineSystem → Submission → Prop where
  | denied {engine : BiometricEngine} {request : EngineRequest engine}
      {error : BiometricResourceError} (outcome : EngineSubmitError)
      (refused : system.arbiter.tryAcquire request.owner = .error error) :
      Submits system .ready system (.returned engine (.error outcome))
  | acquired {engine : BiometricEngine} {request : EngineRequest engine}
      (free : system.arbiter.active = none)
      (fits : system.arbiter.nextGeneration + 1 ≤ U64_MAX) :
      Submits system .ready
        { system with arbiter := ⟨system.arbiter.nextGeneration + 1,
          some ⟨system.arbiter.nextGeneration + 1, request.owner⟩⟩ }
        (.leased engine request (system.arbiter.nextGeneration + 1))
  | contended {engine : BiometricEngine} {request : EngineRequest engine} {generation : Nat}
      (busy : (system.lane engine).active = true) :
      Submits system (.leased engine request generation) system (.refused engine generation)
  | activated {engine : BiometricEngine} {request : EngineRequest engine} {generation : Nat}
      (idle : (system.lane engine).active = false) :
      Submits system (.leased engine request generation)
        (system.setLane engine { system.lane engine with active := true })
        (.activated engine request generation)
  | enqueued {engine : BiometricEngine} {request : EngineRequest engine} {generation : Nat}
      (running : (system.lane engine).worker.isRunning = true)
      (empty : (system.lane engine).requests = none) :
      Submits system (.activated engine request generation)
        (system.setLane engine { system.lane engine with
          requests := some (system.lane engine).jobCount
          jobs := Function.update (system.lane engine).jobs (system.lane engine).jobCount
            ⟨request, generation, false, [], [], true⟩
          jobCount := (system.lane engine).jobCount + 1 })
        (.returned engine (.ok (system.lane engine).jobCount))
  | disconnected {engine : BiometricEngine} {request : EngineRequest engine} {generation : Nat}
      (failed : ¬ ((system.lane engine).worker.isRunning ∧ (system.lane engine).requests = none)) :
      Submits system (.activated engine request generation) system (.unsent engine generation)
  | gaveUp {engine : BiometricEngine} {generation : Nat} :
      Submits system (.refused engine generation) (system.release generation)
        (.returned engine (.error .busy))
  | dropped {engine : BiometricEngine} {generation : Nat} :
      Submits system (.unsent engine generation) (system.release generation) (.deactivating engine)
  | deactivated {engine : BiometricEngine} :
      Submits system (.deactivating engine)
        (system.setLane engine { system.lane engine with active := false })
        (.returned engine (.error .workerStopped))

variable {system}

/-- What one step of a caller can do. -/
theorem submit_cases {choice : SubmitChoice} {submission next : Submission} {after : EngineSystem}
    (submitted : system.submit choice submission = some (after, next)) :
    system.Submits submission after next := by
  unfold submit at submitted
  split at submitted
  · split at submitted
    · split at submitted <;> cases submitted
      · next refused => exact .denied _ refused
      · next refused => exact .denied _ refused
      · next acquired =>
          obtain ⟨free, fits, rfl, rfl⟩ := ArbiterState.tryAcquire_eq_ok_iff.mp acquired
          exact .acquired free fits
    · cases submitted
  · split at submitted <;> cases submitted
    · next busy => exact .contended busy
    · next idle => exact .activated (by simpa using idle)
  · unfold EngineLane.push at submitted
    split at submitted
    · next pushed =>
        split at pushed <;> cases pushed
        next open_ =>
          cases submitted
          exact .enqueued open_.1 open_.2
    · next pushed =>
        split at pushed <;> cases pushed
        next closed =>
          cases submitted
          exact .disconnected closed
  · cases submitted
    exact .gaveUp
  · cases submitted
    exact .dropped
  · cases submitted
    exact .deactivated
  · cases submitted

/-- What an event does. -/
inductive Occurs (system : EngineSystem) : EngineEvent → EngineSystem → Prop where
  | worked {engine : BiometricEngine} {choice : EngineChoice engine} {lane : EngineLane engine}
      {dropped : Option Nat}
      (advances : (system.lane engine).Advances system.shutdown lane dropped) :
      Occurs system (.worker engine choice)
        (dropped.elim (system.setLane engine lane) (system.setLane engine lane).release)
  | cancelled {engine : BiometricEngine} {number : Nat}
      (known : number < (system.lane engine).jobCount) :
      Occurs system (.cancel engine number)
        (system.setLane engine ((system.lane engine).setJob number fun job =>
          { job with cancelled := true }))
  | received {engine : BiometricEngine} {number : Nat} {update : EngineUpdate engine}
      {queue : List (EngineUpdate engine)} (listens : system.Listens engine number)
      (head : ((system.lane engine).jobs number).queue = update :: queue) :
      Occurs system (.receive engine number)
        (system.setLane engine ((system.lane engine).setJob number fun job =>
          { job with received := job.received ++ [update], queue }))
  | left {engine : BiometricEngine} {number : Nat} (listens : system.Listens engine number) :
      Occurs system (.dropHandle engine number)
        (system.setLane engine ((system.lane engine).setJob number fun job =>
          { job with receiver := false }))
  | shut : Occurs system .shutdown { system with shutdown := true }

/-- What can happen apart from the callers. -/
theorem occur_cases {event : EngineEvent} {after : EngineSystem}
    (occurred : system.occur event = some after) : system.Occurs event after := by
  cases event with
  | worker engine choice =>
      obtain ⟨⟨lane, dropped⟩, advanced, rfl⟩ := Option.map_eq_some_iff.mp occurred
      exact .worked (EngineLane.advance_cases advanced)
  | cancel engine number =>
      unfold occur at occurred
      dsimp only at occurred
      split at occurred <;> cases occurred
      next known => exact .cancelled known
  | receive engine number =>
      unfold occur at occurred
      dsimp only at occurred
      split at occurred
      · next listens =>
          split at occurred <;> cases occurred
          next head => exact .received listens head
      · cases occurred
  | dropHandle engine number =>
      unfold occur at occurred
      dsimp only at occurred
      split at occurred <;> cases occurred
      next listens => exact .left listens
  | shutdown =>
      cases occurred
      exact .shut

end EngineSystem

/-- The submissions of all clients, with the events around them. -/
def engineProgram : Program EngineSystem Submission SubmitChoice EngineEvent where
  advance _ choice system submission := system.submit choice submission
  occur event system := system.occur event

/-- Both services with the submissions of all clients. -/
abbrev Engines : Type := Threads EngineSystem Submission

/-- No job was submitted yet. -/
structure EngineLane.Idle {engine : BiometricEngine} (lane : EngineLane engine) : Prop where
  active : lane.active = false
  requests : lane.requests = none
  worker : lane.worker = .waiting
  jobCount : lane.jobCount = 0
  saved : lane.saved = []

/-- The services just started, and nobody has submitted anything. -/
structure Engines.Fresh (engines : Engines) : Prop where
  arbiter : engines.shared.arbiter = .default
  lanes : ∀ engine, (engines.shared.lane engine).Idle
  threads : ∀ index, engines.thread index = .ready

/-- A service before its first request. -/
def EngineLane.start {engine : BiometricEngine} (id : engine.Id) : EngineLane engine :=
  ⟨false, none, .waiting, fun _ => ⟨⟨id, 0⟩, 0, false, [], [], false⟩, 0, []⟩

/-- Both services before their first requests. -/
def Engines.start : Engines where
  shared :=
    { arbiter := .default
      lane := fun
        | .authentication => .start ⟨0⟩
        | .enrollment => .start ⟨0⟩
      shutdown := false }
  thread _ := .ready

/-- The system starts fresh. -/
theorem Engines.fresh_start : Engines.start.Fresh := by
  refine ⟨rfl, fun engine => ?_, fun _ => rfl⟩
  cases engine <;> exact ⟨rfl, rfl, rfl, rfl, rfl⟩

end FaceAuth
