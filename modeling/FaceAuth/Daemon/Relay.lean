import FaceAuth.Daemon.Publication

/-!
# Completion of a relay

What a relay does with the updates of its job once the worker has sent the last of
them, and when it returns with the operation over for the bridge, for the
coordinator and for the clients.
-/

namespace FaceAuth

open Foundation

/-- The job whose channel a relay receives from. -/
def RelayPhase.job : RelayPhase → Option Nat
  | .receiving job | .handling job _ | .emitting job _
    | .finishing job | .dropping job _ => some job
  | .taking | .returned _ => none

variable {uniqueName : String → Bool} {daemon after : EnrollmentDaemon} {call own : Call}

open EnrollmentDaemon

/-! ## A relay that is not hindered -/

/-- The end of a cancelled job. -/
def EnrollmentEngineUpdate.IsCancelled : EnrollmentEngineUpdate → Prop
  | .completed _ (.error .cancelled) => True
  | _ => False

instance : DecidablePred EnrollmentEngineUpdate.IsCancelled := fun update => by
  unfold EnrollmentEngineUpdate.IsCancelled
  split <;> infer_instance

/-- The sink accepts every update. A relay takes to the coordinator no end of a cancelled
job, and the coordinator then holds its operation or none. -/
def Manager1.Relayable (state : Manager1) : Turn CallChoice DaemonEvent → Prop
  | .thread index choice =>
      choice ≠ .emitted false ∧
      match state.thread index with
      | .relay targetUid operationId (.handling _ update) =>
          ¬ update.IsCancelled ∧ (state.shared.management.coordinator.active = none ∨
            state.shared.HoldsFor targetUid operationId)
      | _ => True
  | .event _ => True

instance (state : Manager1) : DecidablePred state.Relayable
  | .thread index choice =>
      decidable_of_iff (choice ≠ .emitted false ∧ (match state.thread index with
        | .relay targetUid operationId (.handling _ update) =>
            decide (¬ update.IsCancelled ∧ (state.shared.management.coordinator.active = none ∨
              state.shared.HoldsFor targetUid operationId))
        | _ => true) = true) <| by
        unfold Manager1.Relayable
        dsimp only
        split
        · rw [decide_eq_true_iff]
        · exact and_congr_right' (iff_of_true rfl trivial)
  | .event _ => isTrue trivial

/-- A turn that a relay needs is one that accepts signals. -/
theorem Manager1.Relayable.accepting {state : Manager1} {turn : Turn CallChoice DaemonEvent}
    (relayable : state.Relayable turn) : state.Accepting turn := by
  cases turn with
  | thread index choice => exact relayable.1
  | event event => trivial

/-- What a section of a relay does that is not hindered. -/
inductive Served (daemon : EnrollmentDaemon) (thread : Nat) (operationId : OperationId) :
    RelayPhase → EnrollmentDaemon → RelayPhase → Prop where
  | absent (error : BackendError) :
      Served daemon thread operationId .taking daemon (.returned (.error error))
  | took {job : Nat} (stored : (daemon.jobs job).receiver = .stored) :
      Served daemon thread operationId .taking
        (daemon.setJob job fun job => { job with receiver := .taken thread }) (.receiving job)
  | received {job : Nat} {update : EnrollmentEngineUpdate} {queue : List EnrollmentEngineUpdate}
      (queued : (daemon.jobs job).queue = update :: queue) :
      Served daemon thread operationId (.receiving job)
        (daemon.setJob job fun job => { job with queue }) (.handling job update)
  | closed {job : Nat} (empty : (daemon.jobs job).queue = [])
      (gone : (daemon.jobs job).senderAlive = false) :
      Served daemon thread operationId (.receiving job) daemon
        (.dropping job (.error channelClosed))
  | spoken {job : Nat} {code : ManagementProgress} {after : EnrollmentDaemon}
      (jobs : after.jobs = daemon.jobs) :
      Served daemon thread operationId (.handling job (.progress operationId code)) after
        (.emitting job (.progress operationId code))
  | ended {job : Nat} {update : EnrollmentEngineUpdate} {result : ManagementResult}
      {after : EnrollmentDaemon} (jobs : after.jobs = daemon.jobs)
      (free : ¬ after.Holds operationId) :
      Served daemon thread operationId (.handling job update) after
        (.emitting job (.completed operationId result))
  | passed {job : Nat} {update : EnrollmentEngineUpdate} {after : EnrollmentDaemon}
      (jobs : after.jobs = daemon.jobs) (free : ¬ after.Holds operationId) :
      Served daemon thread operationId (.handling job update) after (.finishing job)
  | told {job : Nat} {code : ManagementProgress} :
      Served daemon thread operationId (.emitting job (.progress operationId code))
        (daemon.emit true (.progress operationId code)) (.receiving job)
  | concluded {job : Nat} {result : ManagementResult} :
      Served daemon thread operationId (.emitting job (.completed operationId result))
        (daemon.emit true (.completed operationId result)) (.finishing job)
  | finished {job : Nat} :
      Served daemon thread operationId (.finishing job) { daemon with bridge := none }
        (.dropping job (.ok ()))
  | dropped {job : Nat} {answer : Except BackendError Unit} :
      Served daemon thread operationId (.dropping job answer) (daemon.dropReceiver job)
        (.returned answer)

/-- Where a relay goes on after an answer that ends its operation or finds none. -/
theorem served_of_answer {thread job : Nat} {operationId : OperationId}
    {update : EnrollmentEngineUpdate}
    {outcome : Except ManagementError ManagementUpdate × ManagementState}
    (answered : (∃ result, outcome.1 = .ok (.completed operationId result)) ∨
      outcome.1 = .error .noActiveOperation)
    (empty : outcome.2.coordinator.active = none) :
    Served daemon thread operationId (.handling job update) (relayAnswer daemon job outcome).1
      (relayAnswer daemon job outcome).2 := by
  have free : ¬ (daemon.settle outcome).Holds operationId := not_holds_of_empty empty operationId
  unfold relayAnswer
  rcases answered with ⟨result, ended⟩ | refused
  · rw [ended]
    exact .ended rfl free
  · rw [refused]
    exact .passed rfl free

/-- Progress that a relay handles is served as the coordinator says. -/
theorem served_progress {thread job : Nat} {targetUid : UInt32} {operationId : OperationId}
    {code : ManagementProgress}
    (free : daemon.management.coordinator.active = none ∨ daemon.HoldsFor targetUid operationId) :
    Served daemon thread operationId (.handling job (.progress operationId code))
      (relayAnswer daemon job
        (daemon.management.progress targetUid operationId daemon.clock code)).1
      (relayAnswer daemon job
        (daemon.management.progress targetUid operationId daemon.clock code)).2 := by
  rcases free with empty | ⟨active, bound⟩
  · have foreign : daemon.management.coordinator.Foreign targetUid operationId :=
      ManagementCoordinator.foreign_of_empty empty
    have answer := ManagementState.progress_of_foreign foreign daemon.clock code
    rw [ManagementCoordinator.refusal_eq_noActiveOperation_iff.mpr empty] at answer
    rw [answer]
    exact served_of_answer (.inr rfl) empty
  · rw [ManagementState.progress_of_bound bound]
    by_cases late : active.deadlineMicros ≤ daemon.clock
    · rw [if_pos late]
      exact served_of_answer (.inl ⟨_, rfl⟩) rfl
    · rw [if_neg late]
      exact .spoken rfl

/-- A terminal that a relay handles is served as the coordinator says. -/
theorem served_complete {thread job : Nat} {targetUid : UInt32} {operationId : OperationId}
    {result : Except EnrollmentEngineFailure Unit}
    (public_ : ¬ (EnrollmentEngineUpdate.completed operationId result).IsCancelled)
    (free : daemon.management.coordinator.active = none ∨ daemon.HoldsFor targetUid operationId) :
    Served daemon thread operationId (.handling job (.completed operationId result))
      (relayAnswer daemon job (daemon.management.complete targetUid operationId daemon.clock
        (managementResult result))).1
      (relayAnswer daemon job (daemon.management.complete targetUid operationId daemon.clock
        (managementResult result))).2 := by
  have kept : ManagementCoordinator.reserved (managementResult result) = false := by
    cases result with
    | ok value => rfl
    | error failure =>
        cases failure with
        | cancelled => exact absurd trivial public_
        | _ => rfl
  rcases free with empty | ⟨active, bound⟩
  · have foreign : daemon.management.coordinator.Foreign targetUid operationId :=
      ManagementCoordinator.foreign_of_empty empty
    have answer := ManagementState.complete_of_foreign foreign kept daemon.clock
    rw [ManagementCoordinator.refusal_eq_noActiveOperation_iff.mpr empty] at answer
    rw [answer]
    exact served_of_answer (.inr rfl) empty
  · rw [ManagementState.complete_of_bound bound kept]
    exact served_of_answer (.inl ⟨_, rfl⟩) rfl

/-- The sink refused the update of a relay that gives up over it. -/
theorem choice_of_sinkFailed {thread job : Nat} {targetUid : UInt32} {operationId : OperationId}
    {update : ManagementUpdate} {choice : CallChoice}
    (advanced : relay daemon thread targetUid operationId (.emitting job update) choice =
      some (after, .dropping job (.error sinkFailed))) : choice = .emitted false := by
  cases choice with
  | emitted accepted =>
      cases accepted with
      | false => rfl
      | true =>
          have goesOn := congrArg Prod.snd (Option.some.inj advanced)
          dsimp only at goesOn
          rw [if_pos rfl] at goesOn
          split at goesOn <;> cases goesOn
  | _ => cases advanced

/-- One section of a relay serves its operation. -/
theorem relay_served {state : Manager1} {index : Nat} {targetUid : UInt32}
    {operationId : OperationId} {phase next : RelayPhase} {choice : CallChoice}
    (seated : state.shared.Seated index operationId phase)
    (at_ : state.thread index = .relay targetUid operationId phase)
    (relayable : state.Relayable (.thread index choice))
    (advanced : relay state.shared index targetUid operationId phase choice =
      some (after, next)) : Served state.shared index operationId phase after next := by
  obtain ⟨accepted, handles⟩ := relayable
  rw [at_] at handles
  cases relay_cases advanced with
  | absent error => exact .absent error
  | took controlled stored => exact .took stored
  | received queued => exact .received queued
  | closed empty gone => exact .closed empty gone
  | progressed => exact served_progress handles.2
  | completed => exact served_complete handles.1 handles.2
  | misbound other =>
      cases seated with
      | progressing attends controls owed => exact absurd rfl other
      | completing attends controls sent truthful => exact absurd rfl other
  | emitted =>
      cases seated with
      | speaking attends controls owed => exact .told
      | ending attends controls => exact .concluded
  | unsent => exact absurd (choice_of_sinkFailed advanced) accepted
  | lost free =>
      cases seated with
      | finishing attends controls =>
          exact absurd rfl (controlled_eq_none_iff.mp free _ controls)
  | finished controlled finishes =>
      cases seated with
      | finishing attends controls =>
          obtain ⟨held, -⟩ := controlled_eq_some controlled
          rw [controls] at held
          cases held
          rcases finish_cases controlled finishes with ⟨stored, -⟩ | ⟨-, rfl⟩
          · rw [attends.taken] at stored
            cases stored
          · exact .finished
  | dropped => exact .dropped

/-! ## What a relay leaves behind -/

namespace EnrollmentDaemon

/-- What a relay in its last phases knows of its operation: the coordinator does not hold it,
and in the end the bridge does not control it. A relay gives up only when its channel is
closed. -/
def Resolved (daemon : EnrollmentDaemon) (operationId : OperationId) : RelayPhase → Prop
  | .emitting _ (.completed _ _) | .finishing _ => ¬ daemon.Holds operationId
  | .dropping _ (.ok ()) =>
      ¬ daemon.Holds operationId ∧ daemon.controlled operationId = none
  | .dropping job (.error _) => (daemon.jobs job).senderAlive = false
  | .returned (.ok ()) =>
      ¬ daemon.Holds operationId ∧ daemon.controlled operationId = none ∧
        ∃ number < daemon.jobCount, (daemon.jobs number).operationId = operationId
  | _ => True

/-- The relays of a state know what their phases say. -/
def Settled (daemon : EnrollmentDaemon) : Call → Prop
  | .relay _ operationId phase => daemon.Resolved operationId phase
  | _ => True

/-- An operation that a relay attends to was issued. -/
theorem Attends.issued {thread number : Nat} {operationId : OperationId}
    (attends : daemon.Attends thread operationId number) (workshop : daemon.Workshop) :
    operationId ∈ daemon.issued :=
  attends.named ▸ workshop.known number attends.numbered

/-- What a relay has resolved stays so whatever the others do. -/
theorem Resolved.persist {thread : Nat} {operationId : OperationId} {phase : RelayPhase}
    (resolved : daemon.Resolved operationId phase) (workshop : daemon.Workshop)
    (seated : daemon.Seated thread operationId phase) (persists : daemon.Persists after) :
    after.Resolved operationId phase := by
  have released {number : Nat} (attends : daemon.Attends thread operationId number)
      (free : ¬ daemon.Holds operationId) : ¬ after.Holds operationId :=
    mt (persists.holds operationId (attends.issued workshop)) free
  cases seated with
  | ending attends controls => exact released attends resolved
  | finishing attends controls => exact released attends resolved
  | @dropping number answer attends =>
      cases answer with
      | ok value =>
          refine ⟨released attends resolved.1, ?_⟩
          have freed := persists.freed number attends.numbered
          rw [attends.named] at freed
          exact freed resolved.2
      | error error => exact persists.senderAlive number attends.numbered resolved
  | @returned answer =>
      cases answer with
      | ok value =>
          obtain ⟨free, freed, number, smaller, rfl⟩ := resolved
          refine ⟨mt (persists.holds _ (workshop.known number smaller)) free,
            persists.freed number smaller freed, number,
            Nat.lt_of_lt_of_le smaller persists.jobCount, persists.operationId number smaller⟩
      | error error => trivial
  | _ => trivial

end EnrollmentDaemon

/-- A relay that serves keeps its operation resolved. -/
theorem Served.resolved {thread : Nat} {operationId : OperationId} {phase next : RelayPhase}
    (served : Served daemon thread operationId phase after next)
    (seated : daemon.Seated thread operationId phase)
    (resolved : daemon.Resolved operationId phase) : after.Resolved operationId next := by
  cases served with
  | absent error => trivial
  | took stored => trivial
  | @received job update queue queued =>
      cases update <;> trivial
  | closed empty gone => exact gone
  | spoken jobs => trivial
  | ended jobs free => exact free
  | passed jobs free => exact free
  | told => trivial
  | concluded => exact resolved
  | finished => exact ⟨resolved, rfl⟩
  | @dropped job answer =>
      cases answer with
      | ok value =>
          cases seated with
          | dropping attends =>
              refine ⟨resolved.1, resolved.2, job, attends.numbered, ?_⟩
              rw [dropReceiver, jobs_receive]
              exact attends.named
      | error error => trivial

/-- A section of a call that is not hindered leaves its relay with what it knows. -/
theorem advanceCall_settled {state : Manager1} {mover : Nat} {choice : CallChoice}
    (station : state.shared.Station mover (state.thread mover))
    (settled : state.shared.Settled (state.thread mover))
    (relayable : state.Relayable (.thread mover choice))
    (advanced : advanceCall uniqueName state.shared mover choice (state.thread mover) =
      some (after, own)) : after.Settled own := by
  generalize at_ : state.thread mover = call at advanced station settled
  cases advanceCall_cases advanced with
  | invoked fresh =>
      rcases fresh_cases fresh with ⟨_, _, rfl⟩ | ⟨_, _, _, rfl⟩ | ⟨_, _, _, rfl⟩ | rfl |
        ⟨_, _, rfl⟩ <;> trivial
  | relay taken => exact (relay_served station at_ relayable taken).resolved station settled
  | _ => trivial

/-- What a call knows it goes on knowing. -/
theorem EnrollmentDaemon.Settled.persist {thread : Nat} (settled : daemon.Settled call)
    (workshop : daemon.Workshop) (station : daemon.Station thread call)
    (persists : daemon.Persists after) : after.Settled call := by
  cases call with
  | relay targetUid operationId phase =>
      exact EnrollmentDaemon.Resolved.persist settled workshop station persists
  | _ => trivial

/-- In a run with relays that are not hindered, every relay knows what its phase says. -/
theorem Manager1.settled {config : ManagementConfig} {clock : Nat} {state : Manager1}
    (reached : (manager1 uniqueName).Reaches Manager1.Relayable (Manager1.initial config clock)
      state) (index : Nat) : state.shared.Settled (state.thread index) := by
  have known : ∀ state : Manager1, (manager1 uniqueName).Reaches Manager1.Relayable
      (Manager1.initial config clock) state → state.shared.Workshop ∧
        ∀ index, state.shared.Station index (state.thread index) :=
    fun _ earlier => Manager1.stations earlier
  have stable : (manager1 uniqueName).Stable (fun (state : Manager1) turn =>
      state.Relayable turn ∧ state.shared.Workshop ∧
        ∀ index, state.shared.Station index (state.thread index))
      (fun _ => True) fun _ daemon call => daemon.Settled call := by
    refine ⟨?_, ?_⟩
    · rintro state mover choice after own - settled ⟨relayable, workshop, stations⟩ advanced
      have persists := advanceCall_persists (stations mover) advanced
      exact ⟨trivial, advanceCall_settled (stations mover) (settled mover) relayable advanced,
        fun other _ => (settled other).persist workshop (stations other) persists⟩
    · rintro state event after - settled ⟨-, workshop, stations⟩ occurred
      exact ⟨trivial, fun other => (settled other).persist workshop (stations other)
        (occurEvent_persists occurred)⟩
  have begins : ∀ index, (EnrollmentDaemon.initial config clock).Settled
      ((Manager1.initial config clock).thread index) := fun _ => trivial
  exact (stable.reaches trivial begins (reached.attach known)).2 index

/-! ## The job in the hand of the worker -/

/-- The job that the worker has in hand, to the release of its sender. -/
def WorkerPhase.inHand : WorkerPhase → Option Nat
  | .starting number | .enrolling number _ | .reporting number _ _ | .returned number _
  | .committing number _ | .sending number _ | .releasing number _ => some number
  | .waiting | .stopped _ => none

namespace EnrollmentDaemon

/-- The job that is requested or in hand is one of the jobs, and its channel is open. -/
def Manned (daemon : EnrollmentDaemon) : Prop :=
  ∀ number, daemon.requests = some number ∨ daemon.worker.inHand = some number →
    number < daemon.jobCount ∧ (daemon.jobs number).senderAlive = true

/-- The job that is judged is in the worker's hand. -/
theorem inHand_judge (number : Nat) (result : Except EnrollmentEngineFailure TemplateRecord) :
    (daemon.judge number result).inHand = some number := by
  unfold judge
  split
  · rfl
  · split
    · rfl
    · split <;> rfl

/-- A daemon stays manned when no other job is asked for or in hand. -/
theorem Manned.congr (manned : daemon.Manned) (jobCount : after.jobCount = daemon.jobCount)
    (senderAlive : ∀ number, (after.jobs number).senderAlive = (daemon.jobs number).senderAlive)
    (given : ∀ number, after.requests = some number ∨ after.worker.inHand = some number →
      daemon.requests = some number ∨ daemon.worker.inHand = some number) : after.Manned := by
  intro number given_
  rw [jobCount, senderAlive]
  exact manned number (given number given_)

/-- What leaves the work leaves the daemon manned. -/
theorem Manned.same (manned : daemon.Manned) (same : daemon.SameWork after) : after.Manned :=
  manned.congr same.jobCount same.senderAlive fun _ given => by
    rwa [same.requests, same.worker] at given

/-- A submission leaves the daemon manned. -/
theorem Manned.submit (manned : daemon.Manned) (operationId : OperationId) (targetUid : UInt32) :
    (daemon.submitted operationId targetUid).Manned := by
  rintro number (requested | working)
  · cases requested
    rw [jobs_submitted]
    exact ⟨Nat.lt_succ_self _, rfl⟩
  · obtain ⟨smaller, alive⟩ := manned number (.inr working)
    rw [jobs_submitted_of_lt _ _ smaller]
    exact ⟨Nat.lt_succ_of_lt smaller, alive⟩

/-- The worker leaves the daemon manned. -/
theorem Manned.work (manned : daemon.Manned) (workshop : daemon.Workshop)
    (worked : daemon.Worked after) : after.Manned := by
  cases worked with
  | shut waiting requested empty =>
      rintro number (given | given)
      · exact manned number (.inl given)
      · cases given
  | abandoned waiting requested pending =>
      rintro number (given | given) <;> cases given
  | took waiting pending =>
      rintro number (given | given) <;> cases given
      exact manned _ (.inl pending)
  | ignored enrolling => exact manned
  | @reported job count progress reporting =>
      refine manned.congr rfl ?_ ?_
      · intro number
        exact (congrArg EnrollmentJob.senderAlive (@jobs_send daemon job number _)).trans rfl
      · rintro number (given | given)
        · exact .inl given
        · exact .inr (by rw [reporting]; exact given)
  | @delivered job result sends listening =>
      refine manned.congr rfl ?_ ?_
      · intro number
        exact (congrArg EnrollmentJob.senderAlive (@jobs_send daemon job number _)).trans rfl
      · rintro number (given | given)
        · exact .inl given
        · exact .inr (by rw [sends]; exact given)
  | @released job sent releasing =>
      have busy : daemon.worker.Busy := by
        rw [releasing]
        exact ⟨nofun, nofun⟩
      rintro number (given | given)
      · exact absurd busy (workshop.apart number given)
      · cases sent <;> cases given
  | @judged job result finished =>
      refine manned.congr rfl (fun _ => rfl) ?_
      rintro number (given | given)
      · exact .inl given
      · have same := (inHand_judge job result).symm.trans given
        exact .inr (by rw [finished]; exact same)
  | declined at_ | began at_ | reports at_ | returned at_ | unreported at_ | saved at_ | unsaved at_
  | undelivered at_ =>
      refine manned.congr rfl (fun _ => rfl) ?_
      rintro number (given | given)
      · exact .inl given
      · exact .inr (by rw [at_]; exact given)

end EnrollmentDaemon

/-- In every run the worker's job is one whose channel is open. -/
theorem Manager1.manned {allowed : Manager1 → Turn CallChoice DaemonEvent → Prop}
    {config : ManagementConfig} {clock : Nat} {state : Manager1}
    (reached : (manager1 uniqueName).Reaches allowed (Manager1.initial config clock) state) :
    state.shared.Manned := by
  have begins : (Manager1.initial config clock).shared.Manned := by
    rintro number (given | given) <;> cases given
  have attached := reached.attach fun _ earlier => Manager1.stations earlier
  refine attached.shared begins ?_ ?_
  · rintro state mover choice after own manned ⟨-, workshop, stations⟩ advanced
    have station := stations mover
    generalize state.thread mover = call at advanced station
    cases advanceCall_cases advanced with
    | invoked fresh => exact manned
    | begin taken =>
        rcases (beginEnrollment_cases taken).work with same |
          ⟨operationId, authorization, rfl, rfl, idle, inactive, unrequested, alive, rfl⟩
        · exact manned.same same
        · exact manned.submit operationId authorization.targetUid
    | cancel taken => exact manned.same (cancelEnrollment_sameWork taken)
    | ownerChange taken => exact manned.same (handleOwnerChange_sameWork taken)
    | reap taken => exact manned.same (reapExpired_sameWork taken)
    | relay taken =>
        have relayed := relay_cases taken
        have consumes := relayed.consumes station
        refine manned.congr consumes.jobCount relayed.senderAlive ?_
        intro number given
        rwa [consumes.requests, consumes.worker] at given
  · rintro state event after manned ⟨-, workshop, -⟩ occurred
    cases event with
    | worker choice => exact manned.work workshop (EnrollmentDaemon.workerStep_cases occurred)
    | tick micros =>
        cases occurred
        exact manned
    | shutdown =>
        cases occurred
        exact manned

/-! ## Once the last update is sent -/

namespace EnrollmentDaemon

/-- The last update of the job is sent: a handle that nobody took has it in its queue. -/
structure Delivered (daemon : EnrollmentDaemon) (number : Nat) : Prop where
  numbered : number < daemon.jobCount
  stored : (daemon.jobs number).receiver = .stored → daemon.Queued number

/-- A relay of the job that has not received its last update will find it in the queue, and
none has given the job up. -/
def Carries (daemon : EnrollmentDaemon) (number : Nat) : Call → Prop
  | .relay _ _ (.receiving job) => job = number → daemon.Queued number
  | .relay _ _ (.handling job (.progress _ _)) => job = number → daemon.Queued number
  | .relay _ _ (.emitting job (.progress _ _)) => job = number → daemon.Queued number
  | .relay _ _ (.dropping job (.error _)) => job ≠ number
  | _ => True

/-- A queued terminal depends on the operation and the queue of its job. -/
theorem Queued.congr {number : Nat} (queued : daemon.Queued number)
    (operationId : (after.jobs number).operationId = (daemon.jobs number).operationId)
    (queue : (after.jobs number).queue = (daemon.jobs number).queue) : after.Queued number := by
  rw [Queued, operationId, queue]
  exact queued

/-- A job whose terminal update is sent gets no further update. -/
theorem Worked.queue (worked : daemon.Worked after) {number : Nat}
    (sent : ¬ daemon.Unsent number) :
    (after.jobs number).queue = (daemon.jobs number).queue := by
  cases worked with
  | @abandoned job waiting requested pending =>
      exact (congrArg EnrollmentJob.queue
        (@jobs_closeSender { daemon with requests := none } job number)).trans rfl
  | @reported job count progress reporting =>
      have elsewhere : number ≠ job := by
        rintro rfl
        exact sent (.inr (by rw [reporting]; rfl))
      refine (congrArg EnrollmentJob.queue (@jobs_send daemon job number _)).trans ?_
      simp [elsewhere]
  | @delivered job result sends listening =>
      have elsewhere : number ≠ job := by
        rintro rfl
        exact sent (.inr (by rw [sends]; rfl))
      refine (congrArg EnrollmentJob.queue (@jobs_send daemon job number _)).trans ?_
      simp [elsewhere]
  | @released job sent releasing =>
      exact (congrArg EnrollmentJob.queue
        (@jobs_closeSender { daemon with active := false } job number)).trans rfl
  | _ => rfl

/-- What was delivered stays so when updates are consumed. -/
theorem Delivered.consume {number : Nat} (delivered : daemon.Delivered number)
    (consumes : daemon.Consumes after) : after.Delivered number where
  numbered := consumes.jobCount ▸ delivered.numbered
  stored held := by
    obtain ⟨before, queue⟩ := consumes.stored number held
    exact (delivered.stored before).congr (consumes.operationId number) queue

/-- What was delivered stays so when a job is submitted. -/
theorem Delivered.submit {number : Nat} (delivered : daemon.Delivered number)
    (operationId : OperationId) (targetUid : UInt32) :
    (daemon.submitted operationId targetUid).Delivered number where
  numbered := Nat.lt_succ_of_lt delivered.numbered
  stored held := by
    have jobs := jobs_submitted_of_lt operationId targetUid delivered.numbered
    rw [jobs] at held
    exact (delivered.stored held).congr (by rw [jobs]) (by rw [jobs])

/-- What was delivered stays so whatever the worker does. -/
theorem Delivered.work {number : Nat} (delivered : daemon.Delivered number)
    (worked : daemon.Worked after) : after.Delivered number where
  numbered := worked.kept.1 ▸ delivered.numbered
  stored held := worked.queued (delivered.stored (worked.receiver number ▸ held))

/-- What a relay of the job waits for stays in its queue. -/
theorem Carries.keep {thread number : Nat} (carries : daemon.Carries number call)
    (station : daemon.Station thread call)
    (kept : ∀ operationId, daemon.Attends thread operationId number →
      daemon.Queued number → after.Queued number) : after.Carries number call := by
  cases call with
  | relay targetUid operationId phase =>
      have seated : daemon.Seated thread operationId phase := station
      cases seated with
      | receiving attends controls owed =>
          rintro rfl
          exact kept _ attends (carries rfl)
      | progressing attends controls owed =>
          rintro rfl
          exact kept _ attends (carries rfl)
      | speaking attends controls owed =>
          rintro rfl
          exact kept _ attends (carries rfl)
      | @dropping job answer attends =>
          cases answer with
          | ok value => trivial
          | error error => exact carries
      | _ => trivial
  | _ => trivial

end EnrollmentDaemon

/-- A relay carries its terminal on. -/
theorem Served.carries {thread number : Nat} {targetUid : UInt32} {operationId : OperationId}
    {phase next : RelayPhase} (served : Served daemon thread operationId phase after next)
    (delivered : daemon.Delivered number)
    (carries : daemon.Carries number (.relay targetUid operationId phase)) :
    after.Carries number (.relay targetUid operationId next) := by
  cases served with
  | absent error => trivial
  | took stored =>
      rintro rfl
      exact (delivered.stored stored).congr (by rw [jobs_receive]) (by rw [jobs_receive])
  | @received job update queue queued =>
      cases update with
      | progress actual code =>
          rintro rfl
          obtain ⟨result, member⟩ := carries rfl
          refine ⟨result, ?_⟩
          rw [queued] at member
          rw [jobs_tail]
          dsimp only
          rw [if_pos rfl]
          exact (List.mem_cons.mp member).resolve_left nofun
      | completed actual result => trivial
  | closed empty gone =>
      rintro rfl
      obtain ⟨result, member⟩ := carries rfl
      rw [empty] at member
      cases member
  | spoken jobs =>
      rintro rfl
      exact (carries rfl).congr (by rw [jobs]) (by rw [jobs])
  | told =>
      rintro rfl
      exact carries rfl
  | @dropped job answer => trivial
  | _ => trivial

/-- A section leaves the job of another relay as it is, up to its cancellation flag. -/
theorem advanceCall_attended {mover index number : Nat} {choice : CallChoice}
    {operationId : OperationId} (station : daemon.Station mover call)
    (advanced : advanceCall uniqueName daemon mover choice call = some (after, own))
    (attends : daemon.Attends index operationId number) (distinct : index ≠ mover) :
    (after.jobs number).operationId = (daemon.jobs number).operationId ∧
      (after.jobs number).queue = (daemon.jobs number).queue := by
  have kept (same : daemon.SameWork after) :
      (after.jobs number).operationId = (daemon.jobs number).operationId ∧
        (after.jobs number).queue = (daemon.jobs number).queue :=
    ⟨same.operationId number, same.queue number⟩
  cases advanceCall_cases advanced with
  | invoked fresh => exact ⟨rfl, rfl⟩
  | begin taken =>
      rcases (beginEnrollment_cases taken).work with same |
        ⟨operationId, authorization, rfl, rfl, idle, inactive, unrequested, alive, rfl⟩
      · exact kept same
      · rw [jobs_submitted_of_lt _ _ attends.numbered]
        exact ⟨rfl, rfl⟩
  | cancel taken => exact kept (cancelEnrollment_sameWork taken)
  | ownerChange taken => exact kept (handleOwnerChange_sameWork taken)
  | reap taken => exact kept (reapExpired_sameWork taken)
  | relay taken =>
      rw [(relay_cases taken).jobs_attended station distinct attends]
      exact ⟨rfl, rfl⟩

/-- What was delivered stays so when a call goes on. -/
theorem advanceCall_delivered {mover number : Nat} {choice : CallChoice}
    (station : daemon.Station mover call) (delivered : daemon.Delivered number)
    (advanced : advanceCall uniqueName daemon mover choice call = some (after, own)) :
    after.Delivered number := by
  have kept (same : daemon.SameWork after) : after.Delivered number :=
    delivered.consume same.consumes
  cases advanceCall_cases advanced with
  | invoked fresh => exact delivered
  | begin taken =>
      rcases (beginEnrollment_cases taken).work with same |
        ⟨operationId, authorization, rfl, rfl, idle, inactive, unrequested, alive, rfl⟩
      · exact kept same
      · exact delivered.submit operationId authorization.targetUid
  | cancel taken => exact kept (cancelEnrollment_sameWork taken)
  | ownerChange taken => exact kept (handleOwnerChange_sameWork taken)
  | reap taken => exact kept (reapExpired_sameWork taken)
  | relay taken => exact delivered.consume ((relay_cases taken).consumes station)

/-- What was delivered stays so whatever happens apart from the calls. -/
theorem occurEvent_delivered {event : DaemonEvent} {number : Nat}
    (delivered : daemon.Delivered number) (occurred : occurEvent daemon event = some after) :
    after.Delivered number := by
  cases event with
  | worker choice => exact delivered.work (workerStep_cases occurred)
  | tick micros =>
      cases occurred
      exact ⟨delivered.numbered, delivered.stored⟩
  | shutdown =>
      cases occurred
      exact ⟨delivered.numbered, delivered.stored⟩

/-- A queued terminal stays so whatever happens apart from the calls. -/
theorem occurEvent_queued {event : DaemonEvent} {number : Nat} (queued : daemon.Queued number)
    (occurred : occurEvent daemon event = some after) : after.Queued number := by
  cases event with
  | worker choice => exact (workerStep_cases occurred).queued queued
  | tick micros =>
      cases occurred
      exact queued
  | shutdown =>
      cases occurred
      exact queued

/-- A call that carries a terminal carries it on. -/
theorem advanceCall_carries {state : Manager1} {mover number : Nat} {choice : CallChoice}
    (station : state.shared.Station mover (state.thread mover))
    (delivered : state.shared.Delivered number)
    (carries : state.shared.Carries number (state.thread mover))
    (relayable : state.Relayable (.thread mover choice))
    (advanced : advanceCall uniqueName state.shared mover choice (state.thread mover) =
      some (after, own)) : after.Carries number own := by
  generalize at_ : state.thread mover = call at advanced station carries
  cases advanceCall_cases advanced with
  | invoked fresh =>
      rcases fresh_cases fresh with ⟨_, _, rfl⟩ | ⟨_, _, _, rfl⟩ | ⟨_, _, _, rfl⟩ | rfl |
        ⟨_, _, rfl⟩ <;> trivial
  | relay taken => exact (relay_served station at_ relayable taken).carries delivered carries
  | _ => trivial

/-- One turn keeps the terminal delivered and with its relay. -/
theorem Manager1.carries_step {state next : Manager1} {turn : Turn CallChoice DaemonEvent}
    {number : Nat} (stations : ∀ index, state.shared.Station index (state.thread index))
    (delivered : state.shared.Delivered number)
    (carries : ∀ index, state.shared.Carries number (state.thread index))
    (relayable : state.Relayable turn) (taken : (manager1 uniqueName).step state turn = some next) :
    next.shared.Delivered number ∧ ∀ index, next.shared.Carries number (next.thread index) := by
  cases turn with
  | event event =>
      obtain ⟨after, occurred, rfl⟩ := Program.step_event_eq_some_iff.mp taken
      exact ⟨occurEvent_delivered delivered occurred, fun index =>
        (carries index).keep (stations index) fun _ _ queued => occurEvent_queued queued occurred⟩
  | thread mover choice =>
      obtain ⟨after, own, advanced, rfl⟩ := Program.step_thread_eq_some_iff.mp taken
      refine ⟨advanceCall_delivered (stations mover) delivered advanced, fun index => ?_⟩
      dsimp only
      by_cases moved : index = mover
      · subst moved
        rw [Function.update_self]
        exact advanceCall_carries (stations index) delivered (carries index) relayable advanced
      · rw [Function.update_of_ne moved]
        refine (carries index).keep (stations index) fun operationId attends queued => ?_
        obtain ⟨named, queue⟩ := advanceCall_attended (stations mover) advanced attends moved
        exact queued.congr named queue

/-- When the worker has just sent the last update of its job, the job is delivered. -/
theorem Manager1.carries_of_sent {config : ManagementConfig} {clock : Nat} {state : Manager1}
    {number : Nat} (reached : (manager1 uniqueName).Reaches Manager1.Relayable
      (Manager1.initial config clock) state)
    (sends : state.shared.worker = .releasing number true) :
    state.shared.Delivered number ∧
      ∀ index, state.shared.Carries number (state.thread index) := by
  obtain ⟨workshop, stations⟩ := Manager1.stations reached
  obtain ⟨smaller, alive⟩ := Manager1.manned reached number (.inr (by rw [sends]; rfl))
  have busy : state.shared.worker.Busy := by
    rw [sends]
    exact ⟨nofun, nofun⟩
  have sent : ¬ state.shared.Unsent number := by
    rintro (requested | working)
    · exact workshop.apart number requested busy
    · rw [sends] at working
      cases working
  have queued (owed : state.shared.Owed number) : state.shared.Queued number :=
    queued_of_owed busy.2 sent owed
  refine ⟨⟨smaller, fun held => queued (workshop.stored number smaller held)⟩, ?_⟩
  intro index
  have station := stations index
  have settled := Manager1.settled reached index
  generalize state.thread index = call at station settled
  cases call with
  | relay targetUid operationId phase =>
      have seated : state.shared.Seated index operationId phase := station
      cases seated with
      | receiving attends controls owed =>
          rintro rfl
          exact queued owed
      | progressing attends controls owed =>
          rintro rfl
          exact queued owed
      | speaking attends controls owed =>
          rintro rfl
          exact queued owed
      | @dropping job answer attends =>
          cases answer with
          | ok value => trivial
          | error error =>
              rintro rfl
              rw [show (state.shared.jobs job).senderAlive = false from settled] at alive
              cases alive
      | _ => trivial
  | _ => trivial

/-! ## To the end -/

/-- The sections that a relay still has before it, at most. -/
def EnrollmentDaemon.rank (daemon : EnrollmentDaemon) : RelayPhase → Nat
  | .taking => 0
  | .receiving job => 3 * (daemon.jobs job).queue.length + 3
  | .handling job (.progress _ _) => 3 * (daemon.jobs job).queue.length + 5
  | .emitting job (.progress _ _) => 3 * (daemon.jobs job).queue.length + 4
  | .handling _ (.completed _ _) => 4
  | .emitting _ (.completed _ _) => 3
  | .finishing _ => 2
  | .dropping _ _ => 1
  | .returned _ => 0

/-- The relay has the job in its hands, or has returned with success. -/
def RelayPhase.Handles (number : Nat) (phase : RelayPhase) : Prop :=
  phase.job = some number ∨ phase = .returned (.ok ())

/-- Each section of a relay brings it nearer to its end. -/
theorem Served.rank {thread number : Nat} {targetUid : UInt32} {operationId : OperationId}
    {phase next : RelayPhase} (served : Served daemon thread operationId phase after next)
    (carries : daemon.Carries number (.relay targetUid operationId phase))
    (handles : phase.Handles number) :
    1 + after.rank next ≤ daemon.rank phase ∧ next.Handles number := by
  rcases handles with job | rfl
  · cases served with
    | absent error => cases job
    | took stored => cases job
    | @received job_ update queue queued =>
        refine ⟨?_, .inl job⟩
        cases update <;> simp [EnrollmentDaemon.rank, queued] <;> omega
    | closed empty gone => exact ⟨by simp [EnrollmentDaemon.rank, empty], .inl job⟩
    | spoken jobs =>
        refine ⟨?_, .inl job⟩
        simp only [EnrollmentDaemon.rank, jobs]
        omega
    | @ended job_ update result after jobs free =>
        refine ⟨?_, .inl job⟩
        cases update <;> simp [EnrollmentDaemon.rank]
    | @passed job_ update after jobs free =>
        refine ⟨?_, .inl job⟩
        cases update <;> simp [EnrollmentDaemon.rank]
    | told =>
        refine ⟨?_, .inl job⟩
        simp only [EnrollmentDaemon.rank, emit_eq]
        omega
    | concluded => exact ⟨by simp [EnrollmentDaemon.rank], .inl job⟩
    | finished => exact ⟨by simp [EnrollmentDaemon.rank], .inl job⟩
    | @dropped job_ answer =>
        cases job
        refine ⟨by simp [EnrollmentDaemon.rank], .inr ?_⟩
        cases answer with
        | ok value => rfl
        | error error => exact absurd rfl carries
  · cases served

/-- The rank of a relay depends on the queue of its job. -/
theorem rank_congr {number : Nat} {targetUid : UInt32} {operationId : OperationId}
    {phase : RelayPhase} (carries : daemon.Carries number (.relay targetUid operationId phase))
    (handles : phase.Handles number)
    (kept : phase.job = some number → daemon.Queued number →
      (after.jobs number).queue = (daemon.jobs number).queue) :
    after.rank phase = daemon.rank phase := by
  rcases handles with job | rfl
  · specialize kept job
    cases phase with
    | receiving job_ =>
        cases job
        simp only [EnrollmentDaemon.rank, kept (carries rfl)]
    | handling job_ update =>
        cases job
        cases update with
        | progress actual code => simp only [EnrollmentDaemon.rank, kept (carries rfl)]
        | completed actual result => rfl
    | emitting job_ update =>
        cases job
        cases update with
        | progress actual code => simp only [EnrollmentDaemon.rank, kept (carries rfl)]
        | completed actual result => rfl
    | _ => rfl
  · rfl

/-- A relay that has the job in its hands always has a next section. -/
theorem relay_enabled {thread number : Nat} {targetUid : UInt32} {operationId : OperationId}
    {phase : RelayPhase} (carries : daemon.Carries number (.relay targetUid operationId phase))
    (job : phase.job = some number) :
    ∃ choice, (relay daemon thread targetUid operationId phase choice).isSome := by
  cases phase with
  | taking => cases job
  | receiving job_ =>
      cases job
      refine ⟨.proceed, ?_⟩
      obtain ⟨result, member⟩ := carries rfl
      obtain ⟨update, queue, queued⟩ := List.exists_cons_of_ne_nil (List.ne_nil_of_mem member)
      simp [relay, queued]
  | handling job_ update =>
      refine ⟨.proceed, ?_⟩
      cases update <;> unfold relay <;> dsimp only <;> split <;> rfl
  | emitting job_ update => exact ⟨.emitted true, rfl⟩
  | finishing job_ =>
      refine ⟨.proceed, ?_⟩
      unfold relay
      dsimp only
      split <;> rfl
  | dropping job_ answer => exact ⟨.proceed, rfl⟩
  | returned answer => cases job

/-- The sections that the relay of a thread still has before it, at most. -/
def Manager1.relayRank (state : Manager1) (index : Nat) : Nat :=
  match state.thread index with
  | .relay _ _ phase => state.shared.rank phase
  | _ => 0

/-- A thread relays an operation, with the delivered job in its hands or successful. -/
structure Manager1.Relays (state : Manager1) (index number : Nat) (targetUid : UInt32)
    (operationId : OperationId) : Prop where
  delivered : state.shared.Delivered number
  carries : ∀ index, state.shared.Carries number (state.thread index)
  handles : ∃ phase, state.thread index = .relay targetUid operationId phase ∧
    phase.Handles number

/-- Each turn leaves a relay with its job, and its own turns bring it nearer to its end. -/
theorem Manager1.Relays.step {state next : Manager1} {turn : Turn CallChoice DaemonEvent}
    {index number : Nat} {targetUid : UInt32} {operationId : OperationId}
    (relays : state.Relays index number targetUid operationId)
    (workshop : state.shared.Workshop)
    (stations : ∀ index, state.shared.Station index (state.thread index))
    (relayable : state.Relayable turn) (taken : (manager1 uniqueName).step state turn = some next) :
    next.Relays index number targetUid operationId ∧
      (turn.isOf index).toNat + next.relayRank index ≤ state.relayRank index := by
  obtain ⟨phase, at_, handles⟩ := relays.handles
  obtain ⟨delivered, carries⟩ :=
    Manager1.carries_step stations relays.delivered relays.carries relayable taken
  have mine := relays.carries index
  have station := stations index
  rw [at_] at mine station
  have rest (thread : next.thread index = state.thread index) (other : turn.isOf index = false)
      (kept : phase.job = some number → state.shared.Queued number →
        (next.shared.jobs number).queue = (state.shared.jobs number).queue) :
      next.Relays index number targetUid operationId ∧
        (turn.isOf index).toNat + next.relayRank index ≤ state.relayRank index := by
    refine ⟨⟨delivered, carries, phase, thread.trans at_, handles⟩, ?_⟩
    rw [other, relayRank, thread, at_, relayRank, at_]
    dsimp only
    rw [rank_congr mine handles kept]
    simp
  cases turn with
  | event event =>
      obtain ⟨after, occurred, rfl⟩ := Program.step_event_eq_some_iff.mp taken
      refine rest rfl rfl fun _ queued => ?_
      cases event with
      | worker choice =>
          have sent : ¬ state.shared.Unsent number :=
            fun unsent => workshop.unqueued number unsent queued
          exact (workerStep_cases occurred).queue sent
      | tick micros =>
          cases occurred
          rfl
      | shutdown =>
          cases occurred
          rfl
  | thread mover choice =>
      obtain ⟨after, own, advanced, rfl⟩ := Program.step_thread_eq_some_iff.mp taken
      by_cases moved : index = mover
      · subst moved
        have station := stations index
        rw [show (manager1 uniqueName).advance index choice state.shared (state.thread index) =
          advanceCall uniqueName state.shared index choice (state.thread index) from rfl, at_]
          at advanced
        cases advanceCall_cases advanced with
        | @relay _ _ _ next after relayed =>
            rw [at_] at station
            have served := relay_served station at_ relayable relayed
            obtain ⟨lower, goesOn⟩ := served.rank mine handles
            refine ⟨⟨delivered, carries, next, Function.update_self .., goesOn⟩, ?_⟩
            rw [relayRank, relayRank, at_]
            dsimp only
            rw [Function.update_self]
            simpa [Turn.isOf] using lower
      · have thread : Function.update state.thread mover own index = state.thread index :=
          Function.update_of_ne moved ..
        refine rest thread (by simp [Turn.isOf, Ne.symm moved]) fun job _ => ?_
        have seated : state.shared.Seated index operationId phase := station
        have attends : state.shared.Attends index operationId number := by
          cases seated with
          | taking => cases job
          | returned => cases job
          | receiving attends _ _ | progressing attends _ _ | completing attends _ _ _
          | speaking attends _ _ | ending attends _ | finishing attends _ | dropping attends =>
              cases job
              exact attends
        exact (advanceCall_attended (stations mover) advanced attends moved).2

/-- Once the worker has sent the last update of a job, the relay that has the job in its
hands is never stuck and has a bounded number of sections before it. It can only end with
success: then the bridge does not control the operation, the coordinator does not hold it,
and one terminal update of it was published. -/
theorem Manager1.relay_completes {config : ManagementConfig} {clock : Nat}
    {sent state : Manager1} {number index : Nat} {targetUid : UInt32}
    {operationId : OperationId} {phase : RelayPhase} {turns : List (Turn CallChoice DaemonEvent)}
    (reached : (manager1 uniqueName).Reaches Manager1.Relayable (Manager1.initial config clock)
      sent) (sends : sent.shared.worker = .releasing number true)
    (later : (manager1 uniqueName).Reaches Manager1.Relayable sent state)
    (relays : state.thread index = .relay targetUid operationId phase)
    (holds : phase.job = some number)
    (obeys : (manager1 uniqueName).Obeys Manager1.Relayable state turns) :
    ∃ next, ((manager1 uniqueName).after state turns).thread index =
        .relay targetUid operationId next ∧
      turns.countP (Turn.isOf index) +
          ((manager1 uniqueName).after state turns).shared.rank next ≤ state.shared.rank phase ∧
      (next.job = some number ∧
          (∃ choice, ((manager1 uniqueName).step ((manager1 uniqueName).after state turns)
            (.thread index choice)).isSome) ∨
        next = .returned (.ok ()) ∧
          ((manager1 uniqueName).after state turns).shared.controlled operationId = none ∧
          ¬ ((manager1 uniqueName).after state turns).shared.Holds operationId ∧
          Manager1.PublishedOnce ((manager1 uniqueName).after state turns) operationId) := by
  have carried : state.shared.Delivered number ∧
      ∀ index, state.shared.Carries number (state.thread index) := by
    have known : ∀ state : Manager1, (manager1 uniqueName).Reaches Manager1.Relayable sent state →
        ∀ index, state.shared.Station index (state.thread index) :=
      fun _ run => (Manager1.stations (reached.trans run)).2
    have kept : ∀ (state : Manager1) turn (next : Manager1),
        (state.shared.Delivered number ∧
          ∀ index, state.shared.Carries number (state.thread index)) →
        (state.Relayable turn ∧ ∀ index, state.shared.Station index (state.thread index)) →
        (manager1 uniqueName).step state turn = some next →
          next.shared.Delivered number ∧
            ∀ index, next.shared.Carries number (next.thread index) :=
      fun _ _ _ carried fits taken =>
        Manager1.carries_step fits.2 carried.1 carried.2 fits.1 taken
    exact (later.attach known).invariant (Manager1.carries_of_sent reached sends) kept
  have begins : state.Relays index number targetUid operationId :=
    ⟨carried.1, carried.2, phase, relays, .inl holds⟩
  have kept : ∀ (state : Manager1) turn (next : Manager1),
      ((manager1 uniqueName).Reaches Manager1.Relayable (Manager1.initial config clock) state ∧
        state.Relays index number targetUid operationId) → state.Relayable turn →
      (manager1 uniqueName).step state turn = some next →
        ((manager1 uniqueName).Reaches Manager1.Relayable (Manager1.initial config clock) next ∧
          next.Relays index number targetUid operationId) ∧
        (turn.isOf index).toNat + next.relayRank index ≤ state.relayRank index := by
    rintro state turn next ⟨run, relays⟩ relayable taken
    obtain ⟨workshop, stations⟩ := Manager1.stations run
    obtain ⟨goesOn, lower⟩ := relays.step workshop stations relayable taken
    exact ⟨⟨.next run relayable taken, goesOn⟩, lower⟩
  obtain ⟨⟨run, goesOn⟩, bound⟩ :=
    Program.Obeys.countP_add_le kept ⟨reached.trans later, begins⟩ obeys
  generalize (manager1 uniqueName).after state turns = final at run goesOn bound ⊢
  obtain ⟨next, at_, handles⟩ := goesOn.handles
  rw [relayRank, at_, relayRank, relays] at bound
  refine ⟨next, at_, bound, ?_⟩
  rcases handles with job | rfl
  · have carries := goesOn.carries index
    rw [at_] at carries
    obtain ⟨choice, possible⟩ := @relay_enabled final.shared index number _ _ _ carries job
    refine .inl ⟨job, choice, ?_⟩
    rw [Program.step, Option.isSome_map, at_]
    exact (Option.isSome_map ..).trans possible
  · have settled := Manager1.settled run index
    rw [at_] at settled
    obtain ⟨free, freed, job, smaller, named⟩ := settled
    have accepting : (manager1 uniqueName).Reaches Manager1.Accepting
        (Manager1.initial config clock) final := run.mono fun _ _ => Manager1.Relayable.accepting
    have published := Manager1.publishedOnce accepting smaller (by rwa [named])
    rw [named] at published
    exact .inr ⟨rfl, freed, free, published⟩

/-- The relay waits for its job. -/
def waitingTurns : List (Turn CallChoice DaemonEvent) :=
  begunTurns ++ [.thread 0 (.emitted true),
    .thread 1 (.invoke (.relay 1000 ⟨1⟩ .taking)), .thread 1 .proceed, .event (.worker .take)]

/-- The job fails, and the worker sends its last update. -/
def failedTurns : List (Turn CallChoice DaemonEvent) :=
  waitingTurns ++ [.event (.worker .proceed), .event (.worker (.finish (.error .capture))),
    .event (.worker .proceed), .event (.worker .proceed)]

/-- The relay takes the terminal, handles it and emits what is settled. -/
def endingTurns : List (Turn CallChoice DaemonEvent) :=
  [.thread 1 .proceed, .thread 1 .proceed, .thread 1 (.emitted true), .thread 1 .proceed,
    .thread 1 .proceed]

/-- A job that fails has its terminal published. -/
theorem Manager1.relay_completes_test :
    Manager1.PublishedOnce ((manager1 fun _ => true).after
      ((manager1 fun _ => true).after (Manager1.initial .default 0) failedTurns)
      endingTurns) ⟨1⟩ := by
  have sent : (manager1 fun _ => true).Obeys Manager1.Relayable (Manager1.initial .default 0)
      failedTurns := by decide
  have ending : (manager1 fun _ => true).Obeys Manager1.Relayable
      ((manager1 fun _ => true).after (Manager1.initial .default 0) failedTurns)
      endingTurns := by decide
  obtain ⟨next, at_, -, stays | ⟨-, -, -, published⟩⟩ := @Manager1.relay_completes
    (fun _ => true) .default 0 _ _ 0 1 1000 ⟨1⟩ (.receiving 0) _ sent.reaches rfl .start rfl rfl
    ending
  · have returned : RelayPhase.returned (.ok ()) = next := by injection at_
    rw [← returned] at stays
    cases stays.1
  · exact published

/-- The owner cancels, and the worker sends that the job was cancelled. -/
def cancelledTurns : List (Turn CallChoice DaemonEvent) :=
  waitingTurns ++ [.thread 2 (.invoke (.cancel ":1.1" 1000 (some ⟨1⟩) .checking)),
    .thread 2 (.caller (.ok 1000)), .thread 2 .proceed, .thread 2 .proceed, .thread 2 .proceed,
    .thread 2 (.emitted true), .event (.worker .proceed), .event (.worker .proceed),
    .event (.worker .proceed)]

/-- The relay takes the end of a cancelled job to the coordinator, which reserves that
result: the relay fails, and the bridge goes on controlling the operation. -/
theorem Manager1.relay_hindered :
    ∃ sent state : Manager1, (manager1 fun _ => true).Reaches Manager1.Accepting
        (Manager1.initial .default 0) sent ∧
      sent.shared.worker = .releasing 0 true ∧
      sent.thread 1 = .relay 1000 ⟨1⟩ (.receiving 0) ∧
      (manager1 fun _ => true).Reaches Manager1.Accepting sent state ∧
      state.thread 1 = .relay 1000 ⟨1⟩
        (.returned (.error ⟨ManagementError.message .reservedResult⟩)) ∧
      state.shared.controlled ⟨1⟩ = some ⟨⟨1⟩, 0⟩ := by
  have sent : (manager1 fun _ => true).Obeys Manager1.Accepting (Manager1.initial .default 0)
      cancelledTurns := by decide
  have hindered : (manager1 fun _ => true).Obeys Manager1.Accepting
      ((manager1 fun _ => true).after (Manager1.initial .default 0) cancelledTurns)
      [.thread 1 .proceed, .thread 1 .proceed, .thread 1 .proceed] := by decide
  exact ⟨_, _, sent.reaches, rfl, rfl, hindered.reaches, rfl, rfl⟩

end FaceAuth
