import FaceAuth.Daemon.Ledger

/-!
# Jobs, their channels and their commits

Which calls touch the jobs of the worker, and what holds in every run of the
bridge, the update channels, the worker and the committed templates.
-/

namespace FaceAuth

open Foundation

/-- The job that the worker has in hand and whose terminal update is still to be sent. -/
def WorkerPhase.unsent : WorkerPhase → Option Nat
  | .starting number | .enrolling number _ | .reporting number _ _ | .returned number _
  | .committing number _ | .sending number _ => some number
  | .waiting | .releasing _ _ | .stopped _ => none

/-- The worker has a job in hand. -/
def WorkerPhase.Busy (worker : WorkerPhase) : Prop :=
  worker ≠ .waiting ∧ ∀ result, worker ≠ .stopped result

namespace EnrollmentDaemon

/-- The terminal update of a job is still to be sent. -/
def Unsent (daemon : EnrollmentDaemon) (number : Nat) : Prop :=
  daemon.requests = some number ∨ daemon.worker.unsent = some number

/-- The template of an operation was committed. -/
def Saved (daemon : EnrollmentDaemon) (operationId : OperationId) : Prop :=
  ∃ record, (operationId, record) ∈ daemon.templates

/-- The two states have the same jobs, up to their cancellation flags, and the same
worker. -/
structure SameWork (daemon after : EnrollmentDaemon) : Prop where
  jobCount : after.jobCount = daemon.jobCount
  bridge : after.bridge = daemon.bridge
  active : after.active = daemon.active
  requests : after.requests = daemon.requests
  worker : after.worker = daemon.worker
  templates : after.templates = daemon.templates
  operationId : ∀ number, (after.jobs number).operationId = (daemon.jobs number).operationId
  queue : ∀ number, (after.jobs number).queue = (daemon.jobs number).queue
  receiver : ∀ number, (after.jobs number).receiver = (daemon.jobs number).receiver
  senderAlive : ∀ number, (after.jobs number).senderAlive = (daemon.jobs number).senderAlive
  issued : ∀ operationId ∈ daemon.issued, operationId ∈ after.issued

variable {daemon after : EnrollmentDaemon}

/-- The work is the same when the jobs, the worker, the templates and the requests are. -/
theorem SameWork.of_jobs (jobs : after.jobs = daemon.jobs)
    (jobCount : after.jobCount = daemon.jobCount) (bridge : after.bridge = daemon.bridge)
    (active : after.active = daemon.active) (requests : after.requests = daemon.requests)
    (worker : after.worker = daemon.worker) (templates : after.templates = daemon.templates)
    (issued : ∀ operationId ∈ daemon.issued, operationId ∈ after.issued) :
    daemon.SameWork after where
  jobCount := jobCount
  bridge := bridge
  active := active
  requests := requests
  worker := worker
  templates := templates
  operationId number := by rw [jobs]
  queue number := by rw [jobs]
  receiver number := by rw [jobs]
  senderAlive number := by rw [jobs]
  issued := issued

/-- Doing nothing leaves the work. -/
theorem SameWork.refl (daemon : EnrollmentDaemon) : daemon.SameWork daemon :=
  .of_jobs rfl rfl rfl rfl rfl rfl rfl fun _ known => known

/-- Settling an outcome leaves the work. -/
theorem sameWork_settle
    (outcome : Except ManagementError ManagementUpdate × ManagementState) :
    daemon.SameWork (daemon.settle outcome) :=
  .of_jobs rfl rfl rfl rfl rfl rfl rfl fun _ known => known

/-- Emitting a signal leaves the work. -/
theorem sameWork_emit (accepted : Bool) (update : ManagementUpdate) :
    daemon.SameWork (daemon.emit accepted update) := by
  rw [emit_eq]
  exact .of_jobs rfl rfl rfl rfl rfl rfl rfl fun _ known => known

/-- Raising a flag cancels one job. -/
theorem raise_job (number other : Nat) :
    (daemon.raise number).jobs other =
      { daemon.jobs other with
        cancelled := (daemon.jobs other).cancelled || decide (other = number) } := by
  by_cases same : other = number
  · subst same
    simp [raise]
  · rw [raise, jobs_setJob_of_ne _ _ _ same]
    simp [same]

/-- Raising a flag leaves the work. -/
theorem sameWork_raise (number : Nat) : daemon.SameWork (daemon.raise number) where
  jobCount := rfl
  bridge := rfl
  active := rfl
  requests := rfl
  worker := rfl
  templates := rfl
  operationId other := by rw [raise_job]
  queue other := by rw [raise_job]
  receiver other := by rw [raise_job]
  senderAlive other := by rw [raise_job]
  issued _ known := known

end EnrollmentDaemon

open EnrollmentDaemon

section Sections

variable {uniqueName : String → Bool} {daemon after : EnrollmentDaemon}

/-- Cancelling for a sender leaves the work. -/
theorem cancelSender_sameWork (sender : String) (phase : DisconnectPhase) :
    daemon.SameWork (cancelSender daemon sender phase).1 := by
  cases phase with
  | reading =>
      unfold cancelSender
      dsimp only
      split <;> exact .refl daemon
  | looking targetUid operationId =>
      unfold cancelSender
      dsimp only
      split <;> exact .refl daemon
  | raising targetUid operationId job => exact sameWork_raise job
  | claiming targetUid operationId =>
      unfold cancelSender
      dsimp only
      split <;> exact sameWork_settle _
  | settled result => exact .refl daemon

/-- A call that cancels leaves the work. -/
theorem cancelEnrollment_sameWork {sender : String} {targetUid : UInt32}
    {parsed : Option OperationId} {phase next : CancelPhase} {choice : CallChoice}
    (advanced : cancelEnrollment daemon sender targetUid parsed phase choice =
      some (after, next)) : daemon.SameWork after := by
  unfold cancelEnrollment at advanced
  split at advanced
  · split at advanced
    · cases advanced
      exact .refl daemon
    · split at advanced <;> cases advanced <;> exact .refl daemon
  · split at advanced <;> cases advanced <;> exact .refl daemon
  · cases advanced
    exact sameWork_raise _
  · split at advanced <;> cases advanced
    · exact sameWork_settle _
    · exact .of_jobs rfl rfl rfl rfl rfl rfl rfl fun _ known => known
  · cases advanced
    exact sameWork_emit _ _
  · cases advanced

/-- A sender that goes away leaves the work. -/
theorem handleOwnerChange_sameWork {name : String} {oldOwnerPresent newOwnerPresent : Bool}
    {phase next : WatchPhase} {choice : CallChoice}
    (advanced : handleOwnerChange uniqueName daemon name oldOwnerPresent newOwnerPresent phase
      choice = some (after, next)) : daemon.SameWork after := by
  unfold handleOwnerChange at advanced
  split at advanced
  · split at advanced <;> cases advanced <;> exact .refl daemon
  · next inner =>
      have same := @cancelSender_sameWork daemon name inner
      split at advanced
      · next answered =>
          cases advanced
          rwa [answered] at same
      · next answered =>
          cases advanced
          rwa [answered] at same
      · next answered =>
          cases advanced
          rwa [answered] at same
  · cases advanced
    exact sameWork_emit _ _
  · cases advanced

/-- Reaping leaves the work. -/
theorem reapExpired_sameWork {phase next : ReapPhase} {choice : CallChoice}
    (advanced : reapExpired daemon phase choice = some (after, next)) :
    daemon.SameWork after := by
  unfold reapExpired at advanced
  split at advanced
  · split at advanced <;> cases advanced
    · exact sameWork_settle _
    · exact .of_jobs rfl rfl rfl rfl rfl rfl rfl fun _ known => known
  · cases advanced
    exact sameWork_emit _ _
  · cases advanced

/-- The daemon after a job was submitted for an operation. -/
def EnrollmentDaemon.submitted (daemon : EnrollmentDaemon) (operationId : OperationId)
    (targetUid : UInt32) : EnrollmentDaemon :=
  { daemon with
    active := true
    requests := some daemon.jobCount
    jobs := Function.update daemon.jobs daemon.jobCount
      ⟨operationId, targetUid, false, [], .stored, true⟩
    jobCount := daemon.jobCount + 1
    bridge := some ⟨operationId, daemon.jobCount⟩ }

/-- Of a `begin_enrollment`, only the start of the controller touches the jobs. -/
theorem Begun.work {sender : String} {targetUid : UInt32} {phase next : BeginPhase}
    (begun : Begun daemon sender targetUid phase after next) :
    daemon.SameWork after ∨
      ∃ operationId authorization, phase = .starting operationId authorization ∧
        next = .announcing operationId .preparing ∧ daemon.bridge = none ∧
        daemon.active = false ∧ daemon.requests = none ∧
        (∀ result, daemon.worker ≠ .stopped result) ∧
        after = daemon.submitted operationId authorization.targetUid := by
  cases begun with
  | refused error => exact .inl (.refl daemon)
  | checked => exact .inl (.refl daemon)
  | authorized bound => exact .inl (.refl daemon)
  | admitted fresh empty =>
      exact .inl (.of_jobs rfl rfl rfl rfl rfl rfl rfl fun _ known => List.mem_cons_of_mem _ known)
  | unstarted error => exact .inl (.refl daemon)
  | started idle inactive unrequested alive =>
      exact .inr ⟨_, _, rfl, rfl, idle, inactive, unrequested, alive, rfl⟩
  | rolledBack => exact .inl (sameWork_settle _)
  | announced => exact .inl (sameWork_emit _ _)
  | unannounced => exact .inl (.refl daemon)
  | @withdrawing inner next after answered =>
      have same := @cancelSender_sameWork daemon sender inner
      rw [answered] at same
      exact .inl same
  | @withdrawn inner after result answered =>
      have same := @cancelSender_sameWork daemon sender inner
      rw [answered] at same
      exact .inl same

end Sections

/-! ## The jobs in every run -/

namespace EnrollmentDaemon

/-- The terminal update of a job is in its queue. -/
def Queued (daemon : EnrollmentDaemon) (number : Nat) : Prop :=
  ∃ result, .completed (daemon.jobs number).operationId result ∈ (daemon.jobs number).queue

/-- The terminal update of a job is to come, unless the worker stopped before it. -/
def Owed (daemon : EnrollmentDaemon) (number : Nat) : Prop :=
  daemon.Unsent number ∨ (∃ result, daemon.worker = .stopped result) ∨ daemon.Queued number

/-- What holds of the bridge, the channels, the worker and the commits in every run. -/
structure Workshop (daemon : EnrollmentDaemon) : Prop where
  idle : daemon.active = false → daemon.requests = none ∧ ¬ daemon.worker.Busy
  apart : ∀ number, daemon.requests = some number → ¬ daemon.worker.Busy
  numbered : ∀ number, daemon.Unsent number → number < daemon.jobCount
  known : ∀ number < daemon.jobCount, (daemon.jobs number).operationId ∈ daemon.issued
  distinct : ∀ first < daemon.jobCount, ∀ second < daemon.jobCount,
    (daemon.jobs first).operationId = (daemon.jobs second).operationId → first = second
  bridged : ∀ operation, daemon.bridge = some operation → operation.job < daemon.jobCount ∧
    (daemon.jobs operation.job).operationId = operation.operationId
  bound : ∀ number, ∀ update ∈ (daemon.jobs number).queue,
    update.operationId = (daemon.jobs number).operationId
  unqueued : ∀ number, daemon.Unsent number → ¬ daemon.Queued number
  truthful : ∀ number < daemon.jobCount, ∀ result,
    .completed (daemon.jobs number).operationId result ∈ (daemon.jobs number).queue →
      (result = .ok () ↔ daemon.Saved (daemon.jobs number).operationId)
  unsaved : ∀ number, daemon.Unsent number → (∀ result, daemon.worker ≠ .sending number result) →
    ¬ daemon.Saved (daemon.jobs number).operationId
  sending : ∀ number result, daemon.worker = .sending number result →
    (result = .ok () ↔ daemon.Saved (daemon.jobs number).operationId)
  recorded : ∀ operationId, daemon.Saved operationId →
    ∃ number < daemon.jobCount, (daemon.jobs number).operationId = operationId
  stored : ∀ number < daemon.jobCount, (daemon.jobs number).receiver = .stored →
    daemon.Owed number

/-- The worker is as before, and from the queues at most something was taken. -/
structure Consumes (daemon after : EnrollmentDaemon) : Prop where
  jobCount : after.jobCount = daemon.jobCount
  active : after.active = daemon.active
  requests : after.requests = daemon.requests
  worker : after.worker = daemon.worker
  templates : after.templates = daemon.templates
  bridge : ∀ operation, after.bridge = some operation → daemon.bridge = some operation
  operationId : ∀ number, (after.jobs number).operationId = (daemon.jobs number).operationId
  queue : ∀ number, ∀ update ∈ (after.jobs number).queue, update ∈ (daemon.jobs number).queue
  stored : ∀ number, (after.jobs number).receiver = .stored →
    (daemon.jobs number).receiver = .stored ∧
      (after.jobs number).queue = (daemon.jobs number).queue
  issued : ∀ operationId ∈ daemon.issued, operationId ∈ after.issued

variable {daemon after : EnrollmentDaemon}

/-- Leaving the work consumes nothing but updates. -/
theorem SameWork.consumes (same : daemon.SameWork after) : daemon.Consumes after where
  jobCount := same.jobCount
  active := same.active
  requests := same.requests
  worker := same.worker
  templates := same.templates
  bridge _ held := same.bridge ▸ held
  operationId := same.operationId
  queue number _ queued := same.queue number ▸ queued
  stored number held := ⟨same.receiver number ▸ held, same.queue number⟩
  issued := same.issued

/-- Consuming updates sends no terminal. -/
theorem Consumes.unsent (consumes : daemon.Consumes after) (number : Nat) :
    after.Unsent number ↔ daemon.Unsent number := by
  rw [Unsent, consumes.requests, consumes.worker, Unsent]

/-- Consuming updates saves nothing. -/
theorem Consumes.saved (consumes : daemon.Consumes after) (operationId : OperationId) :
    after.Saved operationId ↔ daemon.Saved operationId := by
  rw [Saved, consumes.templates, Saved]

/-- A terminal that is queued afterwards was queued before. -/
theorem Consumes.queued (consumes : daemon.Consumes after) {number : Nat}
    (queued : after.Queued number) : daemon.Queued number := by
  obtain ⟨result, member⟩ := queued
  rw [consumes.operationId] at member
  exact ⟨result, consumes.queue number _ member⟩

/-- Consuming keeps the workshop in order. -/
theorem Workshop.consume (workshop : daemon.Workshop) (consumes : daemon.Consumes after) :
    after.Workshop where
  idle inactive := by
    rw [consumes.active] at inactive
    rw [consumes.requests, consumes.worker]
    exact workshop.idle inactive
  apart number requested := by
    rw [consumes.requests] at requested
    rw [consumes.worker]
    exact workshop.apart number requested
  numbered number unsent := by
    rw [consumes.jobCount]
    exact workshop.numbered number ((consumes.unsent number).mp unsent)
  known number smaller := by
    rw [consumes.jobCount] at smaller
    rw [consumes.operationId]
    exact consumes.issued _ (workshop.known number smaller)
  distinct first smaller second smaller_ same := by
    rw [consumes.jobCount] at smaller smaller_
    rw [consumes.operationId, consumes.operationId] at same
    exact workshop.distinct first smaller second smaller_ same
  bridged operation held := by
    rw [consumes.jobCount, consumes.operationId]
    exact workshop.bridged operation (consumes.bridge operation held)
  bound number update queued := by
    rw [consumes.operationId]
    exact workshop.bound number update (consumes.queue number update queued)
  unqueued number unsent queued :=
    workshop.unqueued number ((consumes.unsent number).mp unsent) (consumes.queued queued)
  truthful number smaller result queued := by
    rw [consumes.jobCount] at smaller
    rw [consumes.operationId] at queued ⊢
    rw [consumes.saved]
    exact workshop.truthful number smaller result (consumes.queue number _ queued)
  unsaved number unsent elsewhere := by
    rw [consumes.worker] at elsewhere
    rw [consumes.operationId, consumes.saved]
    exact workshop.unsaved number ((consumes.unsent number).mp unsent) elsewhere
  sending number result sends := by
    rw [consumes.worker] at sends
    rw [consumes.operationId, consumes.saved]
    exact workshop.sending number result sends
  recorded operationId saved := by
    obtain ⟨number, smaller, named⟩ :=
      workshop.recorded operationId ((consumes.saved operationId).mp saved)
    rw [consumes.jobCount]
    exact ⟨number, smaller, by rw [consumes.operationId, named]⟩
  stored number smaller held := by
    rw [consumes.jobCount] at smaller
    obtain ⟨before, queue⟩ := consumes.stored number held
    rw [Owed, consumes.unsent, consumes.worker, Queued, consumes.operationId, queue]
    exact workshop.stored number smaller before

/-- A worker that is not busy has no terminal to send. -/
theorem unsent_of_not_busy {worker : WorkerPhase} (quiet : ¬ worker.Busy) :
    worker.unsent = none := by
  cases worker <;> first | rfl | exact absurd ⟨nofun, nofun⟩ quiet

/-- A worker with a terminal to send is busy. -/
theorem busy_of_unsent {worker : WorkerPhase} {number : Nat}
    (unsent : worker.unsent = some number) : worker.Busy := by
  by_contra quiet
  rw [unsent_of_not_busy quiet] at unsent
  cases unsent

/-- The only job whose terminal update a busy worker owes is the one in its hand. -/
theorem Workshop.unsent_iff (workshop : daemon.Workshop) (busy : daemon.worker.Busy)
    (number : Nat) : daemon.Unsent number ↔ daemon.worker.unsent = some number := by
  refine or_iff_right ?_
  intro requested
  exact workshop.apart number requested busy

/-- One job at most waits for its terminal. -/
theorem Workshop.unsent_unique (workshop : daemon.Workshop) {first second : Nat}
    (one : daemon.worker.unsent = some first) (two : daemon.Unsent second) : second = first := by
  have two := (workshop.unsent_iff (busy_of_unsent one) second).mp two
  rw [one] at two
  exact (Option.some.inj two).symm

/-- The job that was submitted. -/
theorem jobs_submitted (operationId : OperationId) (targetUid : UInt32) :
    (daemon.submitted operationId targetUid).jobs daemon.jobCount =
      ⟨operationId, targetUid, false, [], .stored, true⟩ :=
  Function.update_self ..

/-- Submitting leaves the other jobs. -/
theorem jobs_submitted_of_ne (operationId : OperationId) (targetUid : UInt32) {number : Nat}
    (other : number ≠ daemon.jobCount) :
    (daemon.submitted operationId targetUid).jobs number = daemon.jobs number :=
  Function.update_of_ne other ..

/-- Submitting leaves the earlier jobs. -/
theorem jobs_submitted_of_lt (operationId : OperationId) (targetUid : UInt32) {number : Nat}
    (smaller : number < daemon.jobCount) :
    (daemon.submitted operationId targetUid).jobs number = daemon.jobs number :=
  jobs_submitted_of_ne operationId targetUid (Nat.ne_of_lt smaller)

/-- After a submission a job is an earlier one or the new one. -/
theorem lt_or_eq_of_submitted {operationId : OperationId} {targetUid : UInt32} {number : Nat}
    (smaller : number < (daemon.submitted operationId targetUid).jobCount) :
    number < daemon.jobCount ∨ number = daemon.jobCount :=
  Nat.lt_succ_iff_lt_or_eq.mp smaller

/-- After a submission to an idle worker only the new job waits for its terminal. -/
theorem unsent_submitted {operationId : OperationId} {targetUid : UInt32}
    (quiet : ¬ daemon.worker.Busy) (number : Nat) :
    (daemon.submitted operationId targetUid).Unsent number ↔ number = daemon.jobCount := by
  have unsent : (daemon.submitted operationId targetUid).worker.unsent = none :=
    unsent_of_not_busy quiet
  rw [Unsent, unsent]
  simp [submitted, eq_comm]

/-- Submitting a job for an operation that has none keeps the workshop in order. -/
theorem Workshop.submit (workshop : daemon.Workshop) {operationId : OperationId}
    {targetUid : UInt32} (inactive : daemon.active = false)
    (issued : operationId ∈ daemon.issued)
    (fresh : ∀ number < daemon.jobCount, (daemon.jobs number).operationId ≠ operationId) :
    (daemon.submitted operationId targetUid).Workshop where
  idle impossible := by cases impossible
  apart _ _ := (workshop.idle inactive).2
  numbered number unsent := by
    rw [(unsent_submitted (workshop.idle inactive).2 number).mp unsent]
    exact Nat.lt_succ_self _
  known number smaller := by
    rcases lt_or_eq_of_submitted smaller with earlier | rfl
    · rw [jobs_submitted_of_lt _ _ earlier]
      exact workshop.known number earlier
    · rw [jobs_submitted]
      exact issued
  distinct first smaller second smaller_ same := by
    rcases lt_or_eq_of_submitted smaller with one | rfl <;>
      rcases lt_or_eq_of_submitted smaller_ with two | rfl
    · rw [jobs_submitted_of_lt _ _ one, jobs_submitted_of_lt _ _ two] at same
      exact workshop.distinct first one second two same
    · rw [jobs_submitted_of_lt _ _ one, jobs_submitted] at same
      exact absurd same (fresh first one)
    · rw [jobs_submitted, jobs_submitted_of_lt _ _ two] at same
      exact absurd same.symm (fresh second two)
    · rfl
  bridged operation held := by
    cases held
    rw [jobs_submitted]
    exact ⟨Nat.lt_succ_self _, rfl⟩
  bound number update queued := by
    by_cases same : number = daemon.jobCount
    · subst same
      rw [jobs_submitted] at queued
      cases queued
    · rw [jobs_submitted_of_ne _ _ same] at queued ⊢
      exact workshop.bound number update queued
  unqueued number unsent queued := by
    obtain ⟨result, member⟩ := queued
    rw [(unsent_submitted (workshop.idle inactive).2 number).mp unsent, jobs_submitted] at member
    cases member
  truthful number smaller result queued := by
    rcases lt_or_eq_of_submitted smaller with earlier | rfl
    · rw [jobs_submitted_of_lt _ _ earlier] at queued ⊢
      exact workshop.truthful number earlier result queued
    · rw [jobs_submitted] at queued
      cases queued
  unsaved number unsent _ := by
    rw [(unsent_submitted (workshop.idle inactive).2 number).mp unsent, jobs_submitted]
    intro saved
    obtain ⟨other, smaller, named⟩ := workshop.recorded operationId saved
    exact fresh other smaller named
  sending number result sends := by
    have busy : daemon.worker.Busy := by
      rw [show daemon.worker = .sending number result from sends]
      exact ⟨nofun, nofun⟩
    exact absurd busy (workshop.idle inactive).2
  recorded other saved := by
    obtain ⟨number, smaller, named⟩ := workshop.recorded other saved
    refine ⟨number, Nat.lt_succ_of_lt smaller, ?_⟩
    rw [jobs_submitted_of_lt _ _ smaller, named]
  stored number smaller held := by
    rcases lt_or_eq_of_submitted smaller with earlier | rfl
    · rw [jobs_submitted_of_lt _ _ earlier] at held
      rcases workshop.stored number earlier held with unsent | stopped | queued
      · rcases unsent with requested | working
        · rw [(workshop.idle inactive).1] at requested
          cases requested
        · exact absurd (busy_of_unsent working) (workshop.idle inactive).2
      · exact .inr (.inl stopped)
      · refine .inr (.inr ?_)
        rw [Queued, jobs_submitted_of_lt _ _ earlier]
        exact queued
    · exact .inl (.inl rfl)

/-- The worker goes on with its job, before it has a terminal update to send. -/
theorem Workshop.rephase (workshop : daemon.Workshop) {number : Nat} {worker : WorkerPhase}
    (before : daemon.worker.unsent = some number)
    (unfinished : ∀ result, daemon.worker ≠ .sending number result)
    (later : worker.unsent = some number)
    (honest : ∀ result, worker = .sending number result →
      (result = .ok () ↔ daemon.Saved (daemon.jobs number).operationId)) :
    (daemon.withWorker worker).Workshop := by
  have busy := busy_of_unsent before
  have unsent : ∀ other, (daemon.withWorker worker).Unsent other ↔ daemon.Unsent other := by
    intro other
    rw [Unsent, Unsent, before, ← later]
    rfl
  have unrequested : ∀ other, daemon.requests ≠ some other :=
    fun other requested => workshop.apart other requested busy
  refine { workshop with
    idle := ?_, apart := ?_, numbered := ?_, unqueued := ?_, unsaved := ?_, sending := ?_,
    stored := ?_ }
  · intro inactive
    exact absurd busy (workshop.idle inactive).2
  · intro other requested
    exact absurd requested (unrequested other)
  · intro other owed
    exact workshop.numbered other ((unsent other).mp owed)
  · intro other owed
    exact workshop.unqueued other ((unsent other).mp owed)
  · intro other owed _
    have same := workshop.unsent_unique before ((unsent other).mp owed)
    subst same
    exact workshop.unsaved other ((unsent other).mp owed) unfinished
  · intro other result sends
    have at_ : worker = .sending other result := sends
    rw [at_] at later
    cases later
    exact honest result at_
  · intro other smaller held
    rcases workshop.stored other smaller held with owed | ⟨result, stopped⟩ | queued
    · exact .inl ((unsent other).mpr owed)
    · exact absurd stopped (busy.2 result)
    · exact .inr (.inr queued)

/-- Sending an update adds it to the queue of its job. -/
theorem jobs_send (number other : Nat) (update : EnrollmentEngineUpdate) :
    (daemon.send number update).jobs other =
      { daemon.jobs other with
        queue := (daemon.jobs other).queue ++ if other = number then [update] else [] } := by
  by_cases same : other = number
  · subst same
    simp [send]
  · rw [send, jobs_setJob_of_ne _ _ _ same]
    simp [same]

/-- Progress is no terminal. -/
theorem queued_send_progress {number other : Nat} {operationId : OperationId}
    {code : ManagementProgress} :
    (daemon.send number (.progress operationId code)).Queued other ↔ daemon.Queued other := by
  rw [Queued, jobs_send, Queued]
  simp

/-- A progress update of the job in hand keeps the workshop in order. -/
theorem Workshop.send_progress (workshop : daemon.Workshop) {number : Nat}
    (code : ManagementProgress) :
    (daemon.send number (.progress (daemon.jobs number).operationId code)).Workshop where
  idle := workshop.idle
  apart := workshop.apart
  numbered := workshop.numbered
  known other smaller := by
    rw [jobs_send]
    exact workshop.known other smaller
  distinct first smaller second smaller_ same := by
    rw [jobs_send, jobs_send] at same
    exact workshop.distinct first smaller second smaller_ same
  bridged operation held := by
    rw [jobs_send]
    exact workshop.bridged operation held
  bound other update queued := by
    rw [jobs_send] at queued ⊢
    rcases List.mem_append.mp queued with old | new
    · exact workshop.bound other update old
    · split at new
      · next same =>
          subst same
          cases List.mem_singleton.mp new
          rfl
      · cases new
  unqueued other unsent queued :=
    workshop.unqueued other unsent (queued_send_progress.mp queued)
  truthful other smaller result queued := by
    rw [jobs_send] at queued ⊢
    rcases List.mem_append.mp queued with old | new
    · exact workshop.truthful other smaller result old
    · split at new
      · cases List.mem_singleton.mp new
      · cases new
  unsaved other unsent elsewhere := by
    rw [jobs_send]
    exact workshop.unsaved other unsent elsewhere
  sending other result sends := by
    rw [jobs_send]
    exact workshop.sending other result sends
  recorded operationId saved := by
    obtain ⟨other, smaller, named⟩ := workshop.recorded operationId saved
    exact ⟨other, smaller, by rw [jobs_send]; exact named⟩
  stored other smaller held := by
    rw [jobs_send] at held
    rcases workshop.stored other smaller held with unsent | stopped | queued
    · exact .inl unsent
    · exact .inr (.inl stopped)
    · exact .inr (.inr (queued_send_progress.mpr queued))

/-- A busy worker has no further request. -/
theorem Workshop.unrequested (workshop : daemon.Workshop) (busy : daemon.worker.Busy) :
    daemon.requests = none := by
  cases requested : daemon.requests with
  | none => rfl
  | some number => exact absurd busy (workshop.apart number requested)

/-- The daemon after the worker has put its job, or its request, out of its hands. -/
def released (daemon : EnrollmentDaemon) (worker : WorkerPhase) : EnrollmentDaemon :=
  { daemon with requests := none }.withWorker worker

/-- Without a request a worker that lets go changes nothing else. -/
theorem released_eq {worker : WorkerPhase} (requests : daemon.requests = none) :
    daemon.released worker = daemon.withWorker worker := by
  rw [released, ← requests]

/-- After the worker let go no job waits for its terminal. -/
theorem unsent_released {worker : WorkerPhase} (later : worker.unsent = none) (number : Nat) :
    ¬ (daemon.released worker).Unsent number := by
  rintro (requested | working)
  · cases requested
  · rw [show worker.unsent = some number from working] at later
    cases later

/-- Letting go keeps the workshop in order. -/
theorem Workshop.release (workshop : daemon.Workshop) {worker : WorkerPhase}
    (later : worker.unsent = none) (idle : daemon.active = false → ¬ worker.Busy)
    (stored : ∀ number < daemon.jobCount, (daemon.jobs number).receiver = .stored →
      (∃ result, worker = .stopped result) ∨ daemon.Queued number) :
    (daemon.released worker).Workshop := by
  have unsent : ∀ number, ¬ (daemon.released worker).Unsent number := unsent_released later
  refine { workshop with
    idle := ?_, apart := nofun, numbered := ?_, unqueued := ?_, unsaved := ?_, sending := ?_,
    stored := ?_ }
  · intro inactive
    exact ⟨rfl, idle inactive⟩
  · intro number owed
    exact absurd owed (unsent number)
  · intro number owed
    exact absurd owed (unsent number)
  · intro number owed
    exact absurd owed (unsent number)
  · intro number result sends
    rw [show worker = .sending number result from sends] at later
    cases later
  · intro number smaller held
    exact .inr (stored number smaller held)

/-- The worker is free for another job. -/
theorem Workshop.deactivate (workshop : daemon.Workshop) (requests : daemon.requests = none)
    (quiet : ¬ daemon.worker.Busy) : { daemon with active := false }.Workshop :=
  { workshop with idle := fun _ => ⟨requests, quiet⟩ }

/-- The worker lets go of the channel of one job. -/
theorem jobs_closeSender (number other : Nat) :
    (daemon.setJob number fun job => { job with senderAlive := false }).jobs other =
      { daemon.jobs other with
        senderAlive := (daemon.jobs other).senderAlive && !decide (other = number) } := by
  by_cases same : other = number
  · subst same
    simp
  · rw [jobs_setJob_of_ne _ _ _ same]
    simp [same]

/-- Letting go of a channel consumes nothing but updates. -/
theorem consumes_closeSender (number : Nat) :
    daemon.Consumes (daemon.setJob number fun job => { job with senderAlive := false }) := by
  refine ⟨rfl, rfl, rfl, rfl, rfl, fun _ held => held, ?_, ?_, ?_, fun _ known => known⟩
  · intro other
    rw [jobs_closeSender]
  · intro other update queued
    rw [jobs_closeSender] at queued
    exact queued
  · intro other held
    rw [jobs_closeSender] at held ⊢
    exact ⟨held, rfl⟩

/-- A job that is neither requested nor in hand owes nothing: its terminal update is in
its queue, as long as the worker lives. -/
theorem queued_of_owed {number : Nat} (alive : ∀ result, daemon.worker ≠ .stopped result)
    (sent : ¬ daemon.Unsent number) (owed : daemon.Owed number) : daemon.Queued number := by
  rcases owed with unsent | ⟨result, stopped⟩ | queued
  · exact absurd unsent sent
  · exact absurd stopped (alive result)
  · exact queued

/-- The worker takes the job that was requested. -/
theorem Workshop.take (workshop : daemon.Workshop) {number : Nat}
    (waiting : daemon.worker = .waiting) (pending : daemon.requests = some number) :
    ({ daemon with requests := none }.withWorker (.starting number)).Workshop := by
  have unsent : ∀ other,
      ({ daemon with requests := none }.withWorker (.starting number)).Unsent other ↔
        daemon.Unsent other := by
    intro other
    unfold Unsent
    rw [pending, waiting]
    simp [withWorker, WorkerPhase.unsent]
  refine { workshop with
    idle := ?_, apart := nofun, numbered := ?_, unqueued := ?_, unsaved := ?_, sending := nofun,
    stored := ?_ }
  · intro inactive
    rw [(workshop.idle inactive).1] at pending
    cases pending
  · intro other owed
    exact workshop.numbered other ((unsent other).mp owed)
  · intro other owed
    exact workshop.unqueued other ((unsent other).mp owed)
  · intro other owed _
    exact workshop.unsaved other ((unsent other).mp owed) (by rw [waiting]; nofun)
  · intro other smaller held
    rcases workshop.stored other smaller held with owed | ⟨result, stopped⟩ | queued
    · exact .inl ((unsent other).mpr owed)
    · rw [waiting] at stopped
      cases stopped
    · exact .inr (.inr queued)

/-- The worker commits the template of its job. -/
theorem Workshop.save (workshop : daemon.Workshop) {number : Nat} {record : TemplateRecord}
    (committing : daemon.worker = .committing number record) :
    ({ daemon with
      templates := daemon.templates ++ [((daemon.jobs number).operationId, record)] }.withWorker
        (.sending number (.ok ()))).Workshop := by
  have before : daemon.worker.unsent = some number := by rw [committing]; rfl
  have busy := busy_of_unsent before
  have mine : daemon.Unsent number := .inr before
  have saved : ∀ operationId, ({ daemon with
      templates := daemon.templates ++ [((daemon.jobs number).operationId, record)] }.withWorker
        (.sending number (.ok ()))).Saved operationId ↔
      daemon.Saved operationId ∨ operationId = (daemon.jobs number).operationId := by
    intro operationId
    simp only [Saved, withWorker, List.mem_append, List.mem_singleton, Prod.mk.injEq]
    constructor
    · rintro ⟨other, earlier | ⟨same, rfl⟩⟩
      · exact .inl ⟨other, earlier⟩
      · exact .inr same
    · rintro (⟨other, earlier⟩ | same)
      · exact ⟨other, .inl earlier⟩
      · exact ⟨record, .inr ⟨same, rfl⟩⟩
  have unsent : ∀ other, ({ daemon with
      templates := daemon.templates ++ [((daemon.jobs number).operationId, record)] }.withWorker
        (.sending number (.ok ()))).Unsent other → other = number := by
    rintro other (requested | working)
    · exact absurd busy (workshop.apart other requested)
    · exact (Option.some.inj working).symm
  refine { workshop with
    idle := ?_, apart := ?_, numbered := ?_, unqueued := ?_, truthful := ?_, unsaved := ?_,
    sending := ?_, recorded := ?_, stored := ?_ }
  · intro inactive
    exact absurd busy (workshop.idle inactive).2
  · intro other requested
    exact absurd busy (workshop.apart other requested)
  · intro other owed
    rw [unsent other owed]
    exact workshop.numbered number mine
  · intro other owed
    rw [unsent other owed]
    exact workshop.unqueued number mine
  · intro other smaller result queued
    have elsewhere : other ≠ number := by
      rintro rfl
      exact workshop.unqueued other mine ⟨result, queued⟩
    have apart : (daemon.jobs other).operationId ≠ (daemon.jobs number).operationId :=
      fun same => elsewhere
        (workshop.distinct other smaller number (workshop.numbered number mine) same)
    rw [saved]
    exact (workshop.truthful other smaller result queued).trans (or_iff_left apart).symm
  · intro other owed unfinished
    rw [unsent other owed] at unfinished
    exact absurd rfl (unfinished (.ok ()))
  · intro other result sends
    cases sends
    rw [saved]
    exact iff_of_true rfl (.inr rfl)
  · intro operationId member
    rcases (saved operationId).mp member with earlier | rfl
    · exact workshop.recorded operationId earlier
    · exact ⟨number, workshop.numbered number mine, rfl⟩
  · intro other smaller held
    rcases workshop.stored other smaller held with owed | ⟨result, stopped⟩ | queued
    · rw [workshop.unsent_unique before owed]
      exact .inl (.inr rfl)
    · exact absurd stopped (busy.2 result)
    · exact .inr (.inr queued)

/-- The worker sends the terminal update of its job. -/
theorem Workshop.deliver (workshop : daemon.Workshop) {number : Nat}
    {result : Except EnrollmentEngineFailure Unit}
    (sends : daemon.worker = .sending number result) :
    ((daemon.send number (.completed (daemon.jobs number).operationId result)).withWorker
      (.releasing number true)).Workshop := by
  have before : daemon.worker.unsent = some number := by rw [sends]; rfl
  have busy := busy_of_unsent before
  have requests := workshop.unrequested busy
  have unsent : ∀ other,
      ¬ ((daemon.send number (.completed (daemon.jobs number).operationId result)).withWorker
        (.releasing number true)).Unsent other := by
    rintro other (requested | working)
    · exact workshop.apart other requested busy
    · cases working
  have jobs : ∀ other,
      ((daemon.send number (.completed (daemon.jobs number).operationId result)).withWorker
        (.releasing number true)).jobs other = _ := fun other => jobs_send number other _
  refine ⟨?_, ?_, ?_, ?_, ?_, ?_, ?_, ?_, ?_, ?_, nofun, ?_, ?_⟩
  · intro inactive
    exact absurd busy (workshop.idle inactive).2
  · intro other requested
    exact absurd busy (workshop.apart other requested)
  · intro other owed
    exact absurd owed (unsent other)
  · intro other smaller
    rw [jobs]
    exact workshop.known other smaller
  · intro first smaller second smaller_ same
    rw [jobs, jobs] at same
    exact workshop.distinct first smaller second smaller_ same
  · intro operation held
    rw [jobs]
    exact workshop.bridged operation held
  · intro other update queued
    rw [jobs] at queued ⊢
    rcases List.mem_append.mp queued with old | new
    · exact workshop.bound other update old
    · split at new
      · next same =>
          subst same
          cases List.mem_singleton.mp new
          rfl
      · cases new
  · intro other owed
    exact absurd owed (unsent other)
  · intro other smaller answer queued
    rw [jobs] at queued ⊢
    rcases List.mem_append.mp queued with old | new
    · exact workshop.truthful other smaller answer old
    · split at new
      · next same =>
          subst same
          cases List.mem_singleton.mp new
          exact workshop.sending other _ sends
      · cases new
  · intro other owed
    exact absurd owed (unsent other)
  · intro operationId member
    obtain ⟨other, smaller, named⟩ := workshop.recorded operationId member
    exact ⟨other, smaller, by rw [jobs]; exact named⟩
  · intro other smaller held
    rw [jobs] at held
    refine .inr (.inr ?_)
    by_cases same : other = number
    · subst same
      refine ⟨result, ?_⟩
      rw [jobs]
      simp
    · have queued : daemon.Queued other := by
        rcases workshop.stored other smaller held with owed | ⟨answer, stopped⟩ | queued
        · exact absurd (workshop.unsent_unique before owed) same
        · exact absurd stopped (busy.2 answer)
        · exact queued
      obtain ⟨answer, member⟩ := queued
      refine ⟨answer, ?_⟩
      rw [jobs]
      exact List.mem_append_left _ member

/-- The job that is judged waits for its terminal. -/
theorem unsent_judge (number : Nat) (result : Except EnrollmentEngineFailure TemplateRecord) :
    (daemon.judge number result).unsent = some number := by
  unfold judge
  split
  · rfl
  · split
    · rfl
    · split <;> rfl

/-- What the worker has judged is not stored yet. -/
theorem judge_ne_sending_ok (number other : Nat)
    (result : Except EnrollmentEngineFailure TemplateRecord) :
    daemon.judge number result ≠ .sending other (.ok ()) := by
  unfold judge
  split
  · nofun
  · split
    · nofun
    · split <;> nofun

/-- A step of the worker keeps the workshop in order. -/
theorem Workshop.work (workshop : daemon.Workshop) (worked : daemon.Worked after) :
    after.Workshop := by
  cases worked with
  | shut waiting requested empty =>
      rw [← released_eq empty]
      exact workshop.release rfl (fun _ busy => busy.2 _ rfl) fun _ _ _ => .inl ⟨_, rfl⟩
  | @abandoned number waiting requested pending =>
      have closed := workshop.consume (consumes_closeSender number)
      exact closed.release rfl (fun _ busy => busy.2 _ rfl) fun _ _ _ => .inl ⟨_, rfl⟩
  | took waiting pending => exact workshop.take waiting pending
  | @declined number starting cancelled =>
      have before : daemon.worker.unsent = some number := by rw [starting]; rfl
      exact workshop.rephase before (by rw [starting]; nofun) rfl nofun
  | @began number starting running =>
      have before : daemon.worker.unsent = some number := by rw [starting]; rfl
      exact workshop.rephase before (by rw [starting]; nofun) rfl nofun
  | ignored enrolling => exact workshop
  | @reports number count enrolling progress =>
      have before : daemon.worker.unsent = some number := by rw [enrolling]; rfl
      exact workshop.rephase before (by rw [enrolling]; nofun) rfl nofun
  | @returned number count enrolling result =>
      have before : daemon.worker.unsent = some number := by rw [enrolling]; rfl
      exact workshop.rephase before (by rw [enrolling]; nofun) rfl nofun
  | @reported number count progress reporting =>
      have sent : (daemon.send number _).Workshop := workshop.send_progress progress
      have before : (daemon.send number
          (.progress (daemon.jobs number).operationId progress)).worker.unsent = some number := by
        rw [send, worker_setJob, reporting]
        rfl
      exact sent.rephase before (by rw [send, worker_setJob, reporting]; nofun) rfl nofun
  | @unreported number count progress reporting =>
      have before : daemon.worker.unsent = some number := by rw [reporting]; rfl
      exact workshop.rephase before (by rw [reporting]; nofun) rfl nofun
  | @judged number result finished =>
      have before : daemon.worker.unsent = some number := by rw [finished]; rfl
      have unfinished : ∀ result, daemon.worker ≠ .sending number result := by
        rw [finished]
        nofun
      have unsaved := workshop.unsaved number (.inr before) unfinished
      refine workshop.rephase before unfinished (unsent_judge number result) ?_
      intro answer sends
      refine iff_of_false ?_ unsaved
      rintro rfl
      exact judge_ne_sending_ok number number result sends
  | saved committing => exact workshop.save committing
  | @unsaved number record committing =>
      have before : daemon.worker.unsent = some number := by rw [committing]; rfl
      have unfinished : ∀ result, daemon.worker ≠ .sending number result := by
        rw [committing]
        nofun
      refine workshop.rephase before unfinished rfl ?_
      intro result sends
      cases sends
      exact iff_of_false nofun (workshop.unsaved number (.inr before) unfinished)
  | @undelivered number result sends dropped =>
      have before : daemon.worker.unsent = some number := by rw [sends]; rfl
      have busy := busy_of_unsent before
      rw [← released_eq (workshop.unrequested busy)]
      refine workshop.release rfl (fun inactive => absurd busy (workshop.idle inactive).2) ?_
      intro other smaller held
      refine .inr (queued_of_owed busy.2 ?_ (workshop.stored other smaller held))
      intro owed
      rw [workshop.unsent_unique before owed, dropped] at held
      cases held
  | delivered sends listening => exact workshop.deliver sends
  | @released number sent releasing =>
      have busy : daemon.worker.Busy := by
        rw [releasing]
        exact ⟨nofun, nofun⟩
      have requests := workshop.unrequested busy
      have quiet : ¬ (if sent then WorkerPhase.waiting
          else .stopped (.error .resultReceiverClosed)).Busy := by
        split
        · exact fun busy => busy.1 rfl
        · exact fun busy => busy.2 _ rfl
      have closed := workshop.consume (consumes_closeSender number)
      have freed := closed.release (unsent_of_not_busy quiet) (fun _ => quiet) fun other smaller
          held => .inr (by
        refine queued_of_owed busy.2 ?_ (closed.stored other smaller held)
        rintro (requested | working)
        · exact workshop.apart other requested busy
        · rw [worker_setJob, releasing] at working
          cases working)
      rw [released_eq (by exact requests)] at freed
      exact freed.deactivate requests quiet

end EnrollmentDaemon

end FaceAuth
