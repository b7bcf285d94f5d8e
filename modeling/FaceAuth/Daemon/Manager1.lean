import FaceAuth.Daemon.EnrollmentEngine
import FaceAuth.Foundation.Threads

/-!
# Calls of the enrollment side

The D-Bus methods, the disconnect watcher, the expiry reaper and the relay of a
worker's updates, as threads over the shared daemon. A section is what one of
them does under one lock, or outside any lock in one atomic operation.
-/

namespace FaceAuth

open Foundation

/-- Where the cancellation for a vanished sender stands: `cancel_sender`. -/
inductive DisconnectPhase where
  | reading
  | looking (targetUid : UInt32) (operationId : OperationId)
  | raising (targetUid : UInt32) (operationId : OperationId) (job : Nat)
  | claiming (targetUid : UInt32) (operationId : OperationId)
  | settled (result : Except WorkerError (Option ManagementUpdate))

/-- Where `begin_enrollment` stands. -/
inductive BeginPhase where
  | checking
  | authorizing
  | admitting (authorization : AuthorizedEnrollment)
  | starting (operationId : OperationId) (authorization : AuthorizedEnrollment)
  | rollingBack (operationId : OperationId) (error : BackendError)
  | announcing (operationId : OperationId) (progress : ManagementProgress)
  | withdrawing (phase : DisconnectPhase)
  | returned (answer : Except FdoError OperationId)

/-- Where `cancel_enrollment` stands. -/
inductive CancelPhase where
  | checking
  | looking (operationId : OperationId)
  | raising (operationId : OperationId) (job : Nat)
  | claiming (operationId : OperationId)
  | emitting (update : ManagementUpdate)
  | returned (answer : Except FdoError Unit)

/-- Where the handling of one owner change stands. -/
inductive WatchPhase where
  | noticing
  | cancelling (phase : DisconnectPhase)
  | emitting (update : ManagementUpdate)
  | returned (answer : Except WorkerError (Option ManagementUpdate))
  | unsent (update : ManagementUpdate)

/-- Where the reaping of an expired operation stands. -/
inductive ReapPhase where
  | reaping
  | emitting (update : ManagementUpdate)
  | returned (answer : Option ManagementUpdate)

/-- Where the relay of one operation stands. -/
inductive RelayPhase where
  | taking
  | receiving (job : Nat)
  | handling (job : Nat) (update : EnrollmentEngineUpdate)
  | emitting (job : Nat) (update : ManagementUpdate)
  | finishing (job : Nat)
  | dropping (job : Nat) (answer : Except BackendError Unit)
  | returned (answer : Except BackendError Unit)

/-- One thread of the enrollment side. The operation of a cancellation is the one that
its text parses to, if any. -/
inductive Call where
  | idle
  | begin (sender : String) (targetUid : UInt32) (phase : BeginPhase)
  | cancel (sender : String) (targetUid : UInt32) (operationId : Option OperationId)
      (phase : CancelPhase)
  | ownerChange (name : String) (oldOwnerPresent newOwnerPresent : Bool) (phase : WatchPhase)
  | reap (phase : ReapPhase)
  | relay (targetUid : UInt32) (operationId : OperationId) (phase : RelayPhase)

/-- What a section finds outside the model, or that it goes on by itself. -/
inductive CallChoice where
  | invoke (call : Call)
  | caller (answer : Except BackendError UInt32)
  | authorization (answer : Except BackendError AuthorizedEnrollment)
  | generated (operationId : OperationId)
  | lease (answer : Except BackendError Unit)
  | emitted (accepted : Bool)
  | proceed

instance (accepted : Bool) : ∀ choice : CallChoice, Decidable (choice = .emitted accepted)
  | .emitted given => decidable_of_iff (given = accepted) (by simp)
  | .invoke _ | .caller _ | .authorization _ | .generated _ | .lease _ | .proceed => isFalse nofun

/-- Events around the calls: a step of the worker, time, and daemon shutdown. -/
inductive DaemonEvent where
  | worker (choice : EnrollmentDaemon.WorkerChoice)
  | tick (micros : Nat)
  | shutdown

/-- Calls that begin. -/
def Call.Fresh : Call → Prop
  | .begin _ _ .checking => True
  | .cancel _ _ _ .checking => True
  | .ownerChange _ _ _ .noticing => True
  | .reap .reaping => True
  | .relay _ _ .taking => True
  | _ => False

instance : DecidablePred Call.Fresh := fun call => by
  unfold Call.Fresh
  split <;> infer_instance

/-- The caller is not the account that it asks about. -/
def notTarget : FdoError := .accessDenied "caller is not the target account"

/-- The proof was given to another account. -/
def foreignProof : FdoError := .accessDenied "authorization proof is bound to another account"

/-- The coordinator ended an operation that was to begin. -/
def unexpectedTerminal : FdoError := .failed "unexpected terminal enrollment state"

/-- The worker has let go of the job. -/
def channelClosed : BackendError := ⟨"enrollment worker update channel closed"⟩

/-- The update is about another operation. -/
def misbound : BackendError := ⟨"enrollment worker update is misbound"⟩

/-- The signal was not sent. -/
def sinkFailed : BackendError := ⟨"enrollment signal sink failed"⟩

section Sections

variable (uniqueName : String → Bool) (daemon : EnrollmentDaemon)

/-- The account that the bus attests for the sender has to be the target. -/
def requireTarget (answer : Except BackendError UInt32) (targetUid : UInt32) :
    Except FdoError Unit :=
  match answer with
  | .error error => .error (mapBackendError error)
  | .ok callerUid => if callerUid = targetUid then .ok () else .error notTarget

/-- Cancel and consume the operation owned by a disconnected sender. -/
def cancelSender (sender : String) : DisconnectPhase → EnrollmentDaemon × DisconnectPhase
  | .reading =>
      match daemon.management.ownedBy sender with
      | none => (daemon, .settled (.ok none))
      | some (targetUid, operationId) => (daemon, .looking targetUid operationId)
  | .looking targetUid operationId =>
      match daemon.cancellationOf operationId with
      | .error error => (daemon, .settled (.error (.controller error.message)))
      | .ok job => (daemon, .raising targetUid operationId job)
  | .raising targetUid operationId job => (daemon.raise job, .claiming targetUid operationId)
  | .claiming targetUid operationId =>
      let outcome := daemon.management.cancel targetUid operationId daemon.clock
      match outcome.1 with
      | .ok update => (daemon.settle outcome, .settled (.ok (some update)))
      | .error error => (daemon.settle outcome, .settled (.error (.management error)))
  | .settled result => (daemon, .settled result)

/-- Begin a Polkit-authorized enrollment operation for the target account. -/
def beginEnrollment (sender : String) (targetUid : UInt32) :
    BeginPhase → CallChoice → Option (EnrollmentDaemon × BeginPhase)
  | .checking, .caller answer =>
      if uniqueName sender then
        match requireTarget answer targetUid with
        | .error error => some (daemon, .returned (.error error))
        | .ok () => some (daemon, .authorizing)
      else some (daemon, .returned (.error (.accessDenied "D-Bus sender is not a unique name")))
  | .authorizing, .authorization answer =>
      match answer with
      | .error error => some (daemon, .returned (.error (mapBackendError error)))
      | .ok authorization =>
          if authorization.targetUid = targetUid then some (daemon, .admitting authorization)
          else some (daemon, .returned (.error foreignProof))
  | .admitting authorization, .generated operationId =>
      if operationId ∈ daemon.issued then none
      else
        let outcome := daemon.management.begin targetUid operationId daemon.clock sender
          authorization
        let after := daemon.settle outcome
        match outcome.1 with
        | .ok (.progress started _) =>
            some ({ after with issued := started :: after.issued },
              .starting started authorization)
        | .ok (.completed _ _) => some (after, .returned (.error unexpectedTerminal))
        | .error error => some (after, .returned (.error (mapManagementError error)))
  | .starting operationId authorization, .lease answer =>
      match daemon.startController operationId authorization.targetUid answer with
      | .error error => some (daemon, .rollingBack operationId error)
      | .ok after => some (after, .announcing operationId .preparing)
  | .rollingBack operationId error, .proceed =>
      some (daemon.settle (daemon.management.rollBack targetUid operationId daemon.clock),
        .returned (.error (mapBackendError error)))
  | .announcing operationId progress, .emitted accepted =>
      some (daemon.emit accepted (.progress operationId progress),
        if accepted then .returned (.ok operationId) else .withdrawing .reading)
  | .withdrawing phase, .proceed =>
      match cancelSender daemon sender phase with
      | (after, .settled _) => some (after, .returned (.error .zbus))
      | (after, phase) => some (after, .withdrawing phase)
  | _, _ => none

/-- Cancel the exact operation owned by the target account. -/
def cancelEnrollment (sender : String) (targetUid : UInt32) (parsed : Option OperationId) :
    CancelPhase → CallChoice → Option (EnrollmentDaemon × CancelPhase)
  | .checking, .caller answer =>
      match requireTarget answer targetUid with
      | .error error => some (daemon, .returned (.error error))
      | .ok () =>
          match parsed with
          | none =>
              some (daemon, .returned (.error (mapManagementError .invalidOperationId)))
          | some operationId => some (daemon, .looking operationId)
  | .looking operationId, .proceed =>
      match daemon.cancellationOf operationId with
      | .error error => some (daemon, .returned (.error (mapBackendError error)))
      | .ok job => some (daemon, .raising operationId job)
  | .raising operationId job, .proceed => some (daemon.raise job, .claiming operationId)
  | .claiming operationId, .proceed =>
      match daemon.management.cancelOwned targetUid operationId daemon.clock sender with
      | (.ok update, management) =>
          some (daemon.settle (.ok update, management), .emitting update)
      | (.error error, management) =>
          some ({ daemon with management }, .returned (.error error))
  | .emitting update, .emitted accepted =>
      some (daemon.emit accepted update,
        .returned (if accepted then .ok () else .error .zbus))
  | _, _ => none

/-- Handle one change of a bus name's owner, and emit the update that it leads to. -/
def handleOwnerChange (name : String) (oldOwnerPresent newOwnerPresent : Bool) :
    WatchPhase → CallChoice → Option (EnrollmentDaemon × WatchPhase)
  | .noticing, .proceed =>
      if oldOwnerPresent = false ∨ newOwnerPresent = true ∨ uniqueName name = false then
        some (daemon, .returned (.ok none))
      else some (daemon, .cancelling .reading)
  | .cancelling phase, .proceed =>
      match cancelSender daemon name phase with
      | (after, .settled (.ok (some update))) => some (after, .emitting update)
      | (after, .settled result) => some (after, .returned result)
      | (after, phase) => some (after, .cancelling phase)
  | .emitting update, .emitted accepted =>
      some (daemon.emit accepted update,
        if accepted then .returned (.ok (some update)) else .unsent update)
  | _, _ => none

/-- Reap an operation whose deadline elapsed, and emit its timeout. -/
def reapExpired : ReapPhase → CallChoice → Option (EnrollmentDaemon × ReapPhase)
  | .reaping, .proceed =>
      match daemon.management.expire daemon.clock with
      | (some update, management) =>
          some (daemon.settle (.ok update, management), .emitting update)
      | (none, management) => some ({ daemon with management }, .returned none)
  | .emitting update, .emitted accepted =>
      some (daemon.emit accepted update, .returned (some update))
  | _, _ => none

/-- The public result of a worker's terminal update. -/
def managementResult : Except EnrollmentEngineFailure Unit → ManagementResult
  | .ok () => .completed
  | .error .cancelled => .cancelled
  | .error _ => .failed

/-- The relay goes on with an answer of the coordinator. -/
def relayAnswer (job : Nat) (outcome : Except ManagementError ManagementUpdate × ManagementState) :
    EnrollmentDaemon × RelayPhase :=
  (daemon.settle outcome,
    match outcome.1 with
    | .ok update => .emitting job update
    | .error .noActiveOperation => .finishing job
    | .error error => .dropping job (.error ⟨error.message⟩))

/-- Relay the exact worker stream through the coordinator and the signal sink. -/
def relay (thread : Nat) (targetUid : UInt32) (operationId : OperationId) :
    RelayPhase → CallChoice → Option (EnrollmentDaemon × RelayPhase)
  | .taking, .proceed =>
      match daemon.takeHandle thread operationId with
      | .error error => some (daemon, .returned (.error error))
      | .ok (job, after) => some (after, .receiving job)
  | .receiving job, .proceed =>
      match (daemon.jobs job).queue with
      | update :: queue =>
          some (daemon.setJob job fun job => { job with queue }, .handling job update)
      | [] =>
          if (daemon.jobs job).senderAlive then none
          else some (daemon, .dropping job (.error channelClosed))
  | .handling job (.progress actual progress), .proceed =>
      if actual = operationId then
        some (relayAnswer daemon job
          (daemon.management.progress targetUid operationId daemon.clock progress))
      else some (daemon, .dropping job (.error misbound))
  | .handling job (.completed actual result), .proceed =>
      if actual = operationId then
        some (relayAnswer daemon job
          (daemon.management.complete targetUid operationId daemon.clock
            (managementResult result)))
      else some (daemon, .dropping job (.error misbound))
  | .emitting job update, .emitted accepted =>
      some (daemon.emit accepted update,
        if accepted then if update.IsTerminal then .finishing job else .receiving job
        else .dropping job (.error sinkFailed))
  | .finishing job, .proceed =>
      match daemon.finish operationId with
      | .error error => some (daemon, .dropping job (.error error))
      | .ok after => some (after, .dropping job (.ok ()))
  | .dropping job answer, .proceed => some (daemon.dropReceiver job, .returned answer)
  | _, _ => none

/-- The next section of a call. -/
def advanceCall (thread : Nat) (choice : CallChoice) : Call → Option (EnrollmentDaemon × Call)
  | .idle =>
      match choice with
      | .invoke call => if call.Fresh then some (daemon, call) else none
      | _ => none
  | .begin sender targetUid phase =>
      (beginEnrollment uniqueName daemon sender targetUid phase choice).map fun next =>
        (next.1, .begin sender targetUid next.2)
  | .cancel sender targetUid operationId phase =>
      (cancelEnrollment daemon sender targetUid operationId phase choice).map fun next =>
        (next.1, .cancel sender targetUid operationId next.2)
  | .ownerChange name oldOwnerPresent newOwnerPresent phase =>
      (handleOwnerChange uniqueName daemon name oldOwnerPresent newOwnerPresent phase choice).map
        fun next => (next.1, .ownerChange name oldOwnerPresent newOwnerPresent next.2)
  | .reap phase => (reapExpired daemon phase choice).map fun next => (next.1, .reap next.2)
  | .relay targetUid operationId phase =>
      (relay daemon thread targetUid operationId phase choice).map fun next =>
        (next.1, .relay targetUid operationId next.2)

/-- The daemon after an event. -/
def occurEvent : DaemonEvent → Option EnrollmentDaemon
  | .worker choice => daemon.workerStep choice
  | .tick micros => some { daemon with clock := daemon.clock + micros }
  | .shutdown => some { daemon with shutdown := true }

end Sections

/-- The enrollment side of the daemon. -/
def manager1 (uniqueName : String → Bool) :
    Program EnrollmentDaemon Call CallChoice DaemonEvent where
  advance thread choice daemon call := advanceCall uniqueName daemon thread choice call
  occur event daemon := occurEvent daemon event

/-- The daemon with the calls on it. -/
abbrev Manager1 := Threads EnrollmentDaemon Call

/-- The daemon before its first operation, at some time. -/
def EnrollmentDaemon.initial (config : ManagementConfig) (clock : Nat) : EnrollmentDaemon where
  clock := clock
  management := ⟨⟨config, none⟩, none⟩
  bridge := none
  jobs := fun _ => ⟨⟨0⟩, 0, false, [], .dropped, false⟩
  jobCount := 0
  active := false
  requests := none
  worker := .waiting
  shutdown := false
  issued := []
  templates := []
  updates := []
  signals := []

/-- No call has begun. -/
def Manager1.initial (config : ManagementConfig) (clock : Nat) : Manager1 :=
  ⟨.initial config clock, fun _ => .idle⟩

/-! ## What a section can do -/

/-- What a section of `begin_enrollment` does. -/
inductive Begun (daemon : EnrollmentDaemon) (sender : String) (targetUid : UInt32) :
    BeginPhase → EnrollmentDaemon → BeginPhase → Prop where
  | refused {phase : BeginPhase} (error : FdoError) :
      Begun daemon sender targetUid phase daemon (.returned (.error error))
  | checked : Begun daemon sender targetUid .checking daemon .authorizing
  | authorized {authorization : AuthorizedEnrollment}
      (bound : authorization.targetUid = targetUid) :
      Begun daemon sender targetUid .authorizing daemon (.admitting authorization)
  | admitted {authorization : AuthorizedEnrollment} {operationId : OperationId}
      (fresh : operationId ∉ daemon.issued)
      (empty : daemon.management.coordinator.active = none) :
      Begun daemon sender targetUid (.admitting authorization)
        { daemon with
          management := ⟨{ daemon.management.coordinator with
            active := some (daemon.management.coordinator.opened authorization operationId
              daemon.clock) }, some ⟨sender, targetUid, operationId⟩⟩
          updates := daemon.updates ++ [.progress operationId .preparing]
          issued := operationId :: daemon.issued }
        (.starting operationId authorization)
  | unstarted {operationId : OperationId} {authorization : AuthorizedEnrollment}
      (error : BackendError) :
      Begun daemon sender targetUid (.starting operationId authorization) daemon
        (.rollingBack operationId error)
  | started {operationId : OperationId} {authorization : AuthorizedEnrollment}
      (idle : daemon.bridge = none) (inactive : daemon.active = false)
      (unrequested : daemon.requests = none)
      (alive : ∀ result, daemon.worker ≠ .stopped result) :
      Begun daemon sender targetUid (.starting operationId authorization)
        { daemon with
          active := true
          requests := some daemon.jobCount
          jobs := Function.update daemon.jobs daemon.jobCount
            ⟨operationId, authorization.targetUid, false, [], .stored, true⟩
          jobCount := daemon.jobCount + 1
          bridge := some ⟨operationId, daemon.jobCount⟩ }
        (.announcing operationId .preparing)
  | rolledBack {operationId : OperationId} {error : BackendError} :
      Begun daemon sender targetUid (.rollingBack operationId error)
        (daemon.settle (daemon.management.rollBack targetUid operationId daemon.clock))
        (.returned (.error (mapBackendError error)))
  | announced {operationId : OperationId} {progress : ManagementProgress} :
      Begun daemon sender targetUid (.announcing operationId progress)
        (daemon.emit true (.progress operationId progress)) (.returned (.ok operationId))
  | unannounced {operationId : OperationId} {progress : ManagementProgress} :
      Begun daemon sender targetUid (.announcing operationId progress) daemon
        (.withdrawing .reading)
  | withdrawing {phase next : DisconnectPhase} {after : EnrollmentDaemon}
      (answered : cancelSender daemon sender phase = (after, next)) :
      Begun daemon sender targetUid (.withdrawing phase) after (.withdrawing next)
  | withdrawn {phase : DisconnectPhase} {after : EnrollmentDaemon}
      {result : Except WorkerError (Option ManagementUpdate)}
      (answered : cancelSender daemon sender phase = (after, .settled result)) :
      Begun daemon sender targetUid (.withdrawing phase) after (.returned (.error .zbus))

/-- What a section of the relay does. -/
inductive Relayed (daemon : EnrollmentDaemon) (thread : Nat) (targetUid : UInt32)
    (operationId : OperationId) : RelayPhase → EnrollmentDaemon → RelayPhase → Prop where
  | absent (error : BackendError) :
      Relayed daemon thread targetUid operationId .taking daemon (.returned (.error error))
  | took {operation : ControlledOperation}
      (controlled : daemon.controlled operationId = some operation)
      (stored : (daemon.jobs operation.job).receiver = .stored) :
      Relayed daemon thread targetUid operationId .taking
        (daemon.setJob operation.job fun job => { job with receiver := .taken thread })
        (.receiving operation.job)
  | received {job : Nat} {update : EnrollmentEngineUpdate} {queue : List EnrollmentEngineUpdate}
      (queued : (daemon.jobs job).queue = update :: queue) :
      Relayed daemon thread targetUid operationId (.receiving job)
        (daemon.setJob job fun job => { job with queue }) (.handling job update)
  | closed {job : Nat} (empty : (daemon.jobs job).queue = [])
      (gone : (daemon.jobs job).senderAlive = false) :
      Relayed daemon thread targetUid operationId (.receiving job) daemon
        (.dropping job (.error channelClosed))
  | progressed {job : Nat} {progress : ManagementProgress} :
      Relayed daemon thread targetUid operationId (.handling job (.progress operationId progress))
        (relayAnswer daemon job
          (daemon.management.progress targetUid operationId daemon.clock progress)).1
        (relayAnswer daemon job
          (daemon.management.progress targetUid operationId daemon.clock progress)).2
  | completed {job : Nat} {result : Except EnrollmentEngineFailure Unit} :
      Relayed daemon thread targetUid operationId (.handling job (.completed operationId result))
        (relayAnswer daemon job (daemon.management.complete targetUid operationId daemon.clock
          (managementResult result))).1
        (relayAnswer daemon job (daemon.management.complete targetUid operationId daemon.clock
          (managementResult result))).2
  | misbound {job : Nat} {update : EnrollmentEngineUpdate}
      (other : update.operationId ≠ operationId) :
      Relayed daemon thread targetUid operationId (.handling job update) daemon
        (.dropping job (.error misbound))
  | emitted {job : Nat} {update : ManagementUpdate} :
      Relayed daemon thread targetUid operationId (.emitting job update)
        (daemon.emit true update)
        (if update.IsTerminal then .finishing job else .receiving job)
  | unsent {job : Nat} {update : ManagementUpdate} :
      Relayed daemon thread targetUid operationId (.emitting job update) daemon
        (.dropping job (.error sinkFailed))
  | lost {job : Nat} (free : daemon.controlled operationId = none) :
      Relayed daemon thread targetUid operationId (.finishing job) daemon
        (.dropping job (.error EnrollmentDaemon.notActive))
  | finished {job : Nat} {operation : ControlledOperation} {after : EnrollmentDaemon}
      (controlled : daemon.controlled operationId = some operation)
      (finishes : daemon.finish operationId = .ok after) :
      Relayed daemon thread targetUid operationId (.finishing job) after (.dropping job (.ok ()))
  | dropped {job : Nat} {answer : Except BackendError Unit} :
      Relayed daemon thread targetUid operationId (.dropping job answer)
        (daemon.dropReceiver job) (.returned answer)

section Cases

variable {uniqueName : String → Bool} {daemon after : EnrollmentDaemon}

/-- A refusal changes nothing. -/
theorem settle_refused (error : ManagementError) :
    daemon.settle (.error error, daemon.management) = daemon := by
  simp [EnrollmentDaemon.settle, Except.toOption]

/-- Starting a job is refused, or adds it with the bridge on it. -/
theorem startController_cases {operationId : OperationId} {targetUid : UInt32}
    {lease : Except BackendError Unit}
    (starts : daemon.startController operationId targetUid lease = .ok after) :
    daemon.bridge = none ∧ daemon.active = false ∧ daemon.requests = none ∧
      (∀ result, daemon.worker ≠ .stopped result) ∧
      after = { daemon with
        active := true
        requests := some daemon.jobCount
        jobs := Function.update daemon.jobs daemon.jobCount
          ⟨operationId, targetUid, false, [], .stored, true⟩
        jobCount := daemon.jobCount + 1
        bridge := some ⟨operationId, daemon.jobCount⟩ } := by
  unfold EnrollmentDaemon.startController EnrollmentDaemon.submit at starts
  split at starts
  · cases starts
  · next idle =>
      split at starts
      · cases starts
      · next submitted =>
          cases starts
          split at submitted
          · cases submitted
          · split at submitted
            · cases submitted
            · next inactive =>
                split at submitted
                · cases submitted
                · cases submitted
                · next unrequested alive =>
                    cases submitted
                    exact ⟨by simpa using idle, by simpa using inactive, unrequested, alive, rfl⟩

/-- What one section of a beginning call can do. -/
theorem beginEnrollment_cases {sender : String} {targetUid : UInt32} {phase next : BeginPhase}
    {choice : CallChoice}
    (advanced : beginEnrollment uniqueName daemon sender targetUid phase choice =
      some (after, next)) : Begun daemon sender targetUid phase after next := by
  unfold beginEnrollment at advanced
  split at advanced
  · split at advanced
    · split at advanced <;> cases advanced
      · exact .refused _
      · exact .checked
    · cases advanced
      exact .refused _
  · split at advanced
    · cases advanced
      exact .refused _
    · split at advanced <;> cases advanced
      · next bound => exact .authorized bound
      · exact .refused _
  · next authorization operationId =>
      split at advanced
      · cases advanced
      · next fresh =>
          rcases daemon.management.begin_cases targetUid operationId daemon.clock sender
            authorization with ⟨error, refused⟩ | ⟨empty, started⟩
          · rw [refused] at advanced
            dsimp only at advanced
            rw [settle_refused] at advanced
            cases advanced
            exact .refused _
          · rw [started] at advanced
            cases advanced
            exact .admitted fresh empty
  · split at advanced
    · next error _ =>
        cases advanced
        exact .unstarted error
    · next starts =>
        cases advanced
        obtain ⟨idle, inactive, unrequested, alive, rfl⟩ := startController_cases starts
        exact .started idle inactive unrequested alive
  · cases advanced
    exact .rolledBack
  · next accepted =>
      cases advanced
      cases accepted
      · exact .unannounced
      · exact .announced
  · split at advanced
    · next answered =>
        cases advanced
        exact .withdrawn answered
    · next answered =>
        cases advanced
        exact .withdrawing answered
  · cases advanced

/-- What one section of a relay can do. -/
theorem relay_cases {thread : Nat} {targetUid : UInt32} {operationId : OperationId}
    {phase next : RelayPhase} {choice : CallChoice}
    (advanced : relay daemon thread targetUid operationId phase choice = some (after, next)) :
    Relayed daemon thread targetUid operationId phase after next := by
  unfold relay at advanced
  split at advanced
  · unfold EnrollmentDaemon.takeHandle at advanced
    split at advanced
    · cases advanced
      exact .absent _
    · next taken =>
        cases advanced
        split at taken
        · cases taken
        · next controlled =>
            split at taken <;> cases taken
            next stored => exact .took controlled stored
  · split at advanced
    · next queued =>
        cases advanced
        exact .received queued
    · next empty =>
        split at advanced <;> cases advanced
        next gone => exact .closed empty (by simpa using gone)
  · split at advanced
    · next same =>
        subst same
        cases advanced
        exact .progressed
    · next other =>
        cases advanced
        exact .misbound other
  · split at advanced
    · next same =>
        subst same
        cases advanced
        exact .completed
    · next other =>
        cases advanced
        exact .misbound other
  · next accepted =>
      cases advanced
      cases accepted
      · exact .unsent
      · exact .emitted
  · split at advanced
    · next error refused =>
        cases advanced
        unfold EnrollmentDaemon.finish at refused
        split at refused
        · next free =>
            cases refused
            exact .lost free
        · dsimp only at refused
          split at refused <;> cases refused
    · next finishes =>
        cases advanced
        cases controlled : daemon.controlled operationId with
        | none =>
            rw [EnrollmentDaemon.finish, controlled] at finishes
            cases finishes
        | some operation => exact .finished controlled finishes
  · cases advanced
    exact .dropped
  · cases advanced

/-- A section of a call is one of its kind. -/
inductive Advanced (uniqueName : String → Bool) (daemon : EnrollmentDaemon) (thread : Nat)
    (choice : CallChoice) : Call → EnrollmentDaemon → Call → Prop where
  | invoked {call : Call} (fresh : call.Fresh) :
      Advanced uniqueName daemon thread choice .idle daemon call
  | begin {sender : String} {targetUid : UInt32} {phase next : BeginPhase}
      {after : EnrollmentDaemon}
      (taken : beginEnrollment uniqueName daemon sender targetUid phase choice =
        some (after, next)) :
      Advanced uniqueName daemon thread choice (.begin sender targetUid phase) after
        (.begin sender targetUid next)
  | cancel {sender : String} {targetUid : UInt32} {parsed : Option OperationId}
      {phase next : CancelPhase} {after : EnrollmentDaemon}
      (taken : cancelEnrollment daemon sender targetUid parsed phase choice =
        some (after, next)) :
      Advanced uniqueName daemon thread choice (.cancel sender targetUid parsed phase) after
        (.cancel sender targetUid parsed next)
  | ownerChange {name : String} {oldOwnerPresent newOwnerPresent : Bool}
      {phase next : WatchPhase} {after : EnrollmentDaemon}
      (taken : handleOwnerChange uniqueName daemon name oldOwnerPresent newOwnerPresent phase
        choice = some (after, next)) :
      Advanced uniqueName daemon thread choice
        (.ownerChange name oldOwnerPresent newOwnerPresent phase) after
        (.ownerChange name oldOwnerPresent newOwnerPresent next)
  | reap {phase next : ReapPhase} {after : EnrollmentDaemon}
      (taken : reapExpired daemon phase choice = some (after, next)) :
      Advanced uniqueName daemon thread choice (.reap phase) after (.reap next)
  | relay {targetUid : UInt32} {operationId : OperationId} {phase next : RelayPhase}
      {after : EnrollmentDaemon}
      (taken : relay daemon thread targetUid operationId phase choice = some (after, next)) :
      Advanced uniqueName daemon thread choice (.relay targetUid operationId phase) after
        (.relay targetUid operationId next)

/-- What one section of a call can do. -/
theorem advanceCall_cases {thread : Nat} {choice : CallChoice} {call own : Call}
    (advanced : advanceCall uniqueName daemon thread choice call = some (after, own)) :
    Advanced uniqueName daemon thread choice call after own := by
  cases call with
  | idle =>
      unfold advanceCall at advanced
      dsimp only at advanced
      split at advanced
      · split at advanced
        · next fresh =>
            cases advanced
            exact .invoked fresh
        · cases advanced
      · cases advanced
  | begin sender targetUid phase =>
      obtain ⟨⟨_, next⟩, taken, same⟩ := Option.map_eq_some_iff.mp advanced
      cases same
      exact .begin taken
  | cancel sender targetUid parsed phase =>
      obtain ⟨⟨_, next⟩, taken, same⟩ := Option.map_eq_some_iff.mp advanced
      cases same
      exact .cancel taken
  | ownerChange name oldOwnerPresent newOwnerPresent phase =>
      obtain ⟨⟨_, next⟩, taken, same⟩ := Option.map_eq_some_iff.mp advanced
      cases same
      exact .ownerChange taken
  | reap phase =>
      obtain ⟨⟨_, next⟩, taken, same⟩ := Option.map_eq_some_iff.mp advanced
      cases same
      exact .reap taken
  | relay targetUid operationId phase =>
      obtain ⟨⟨_, next⟩, taken, same⟩ := Option.map_eq_some_iff.mp advanced
      cases same
      exact .relay taken

/-- A call begins in the first phase of its kind. -/
theorem fresh_cases {call : Call} (fresh : call.Fresh) :
    (∃ sender targetUid, call = .begin sender targetUid .checking) ∨
    (∃ sender targetUid parsed, call = .cancel sender targetUid parsed .checking) ∨
    (∃ name oldOwnerPresent newOwnerPresent,
      call = .ownerChange name oldOwnerPresent newOwnerPresent .noticing) ∨
    call = .reap .reaping ∨ ∃ targetUid operationId,
      call = .relay targetUid operationId .taking := by
  unfold Call.Fresh at fresh
  split at fresh
  · exact .inl ⟨_, _, rfl⟩
  · exact .inr (.inl ⟨_, _, _, rfl⟩)
  · exact .inr (.inr (.inl ⟨_, _, _, rfl⟩))
  · exact .inr (.inr (.inr (.inl rfl)))
  · exact .inr (.inr (.inr (.inr ⟨_, _, rfl⟩)))
  · exact fresh.elim

end Cases

end FaceAuth
