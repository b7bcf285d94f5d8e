import FaceAuth.Daemon.Stations

/-!
# What is over stays over

Identifiers are issued once and jobs are numbered, so that an operation that the
coordinator or the bridge has let go of never comes back to it.
-/

namespace FaceAuth

open Foundation

variable {uniqueName : String → Bool} {daemon after : EnrollmentDaemon} {call own : Call}

namespace EnrollmentDaemon

/-- What is over in one state is over in the other: operations that the coordinator does not
hold, that no owner record names or that the bridge does not control, closed channels and
raised flags. -/
structure Persists (daemon after : EnrollmentDaemon) : Prop where
  issued : ∀ operationId ∈ daemon.issued, operationId ∈ after.issued
  said : ∀ update ∈ daemon.updates, update ∈ after.updates
  holds : ∀ operationId ∈ daemon.issued, after.Holds operationId → daemon.Holds operationId
  recorded : ∀ operationId ∈ daemon.issued,
    after.Recorded operationId → daemon.Recorded operationId
  jobCount : daemon.jobCount ≤ after.jobCount
  operationId : ∀ number < daemon.jobCount,
    (after.jobs number).operationId = (daemon.jobs number).operationId
  senderAlive : ∀ number < daemon.jobCount, (daemon.jobs number).senderAlive = false →
    (after.jobs number).senderAlive = false
  cancelled : ∀ number < daemon.jobCount, (daemon.jobs number).cancelled = true →
    (after.jobs number).cancelled = true
  freed : ∀ number < daemon.jobCount,
    daemon.controlled (daemon.jobs number).operationId = none →
      after.controlled (daemon.jobs number).operationId = none

/-- No operation is controlled but the one on the bridge. -/
theorem controlled_eq_none_iff {operationId : OperationId} :
    daemon.controlled operationId = none ↔
      ∀ operation, daemon.bridge = some operation → operation.operationId ≠ operationId := by
  simp [controlled]

/-- A bridge that controls nothing new. -/
theorem freed_of_bridge {operationId : OperationId}
    (bridge : ∀ operation, after.bridge = some operation → daemon.bridge = some operation)
    (free : daemon.controlled operationId = none) : after.controlled operationId = none := by
  rw [controlled_eq_none_iff] at free ⊢
  exact fun operation held => free operation (bridge operation held)

/-- No cancellation flag is taken back. -/
def Flagged (daemon after : EnrollmentDaemon) : Prop :=
  ∀ number, (daemon.jobs number).cancelled = true → (after.jobs number).cancelled = true

/-- The flags depend on the jobs only. -/
theorem Flagged.of_jobs (jobs : after.jobs = daemon.jobs) : daemon.Flagged after := by
  intro number raised
  rwa [jobs]

/-- Raising one flag lowers none. -/
theorem flagged_raise (number : Nat) : daemon.Flagged (daemon.raise number) := by
  intro other raised
  rw [raise_job]
  simp [raised]

/-- The coordinator reopens nothing; what is left is about the jobs. -/
theorem Persists.of_governs (governs : Governs daemon call after)
    (jobCount : daemon.jobCount ≤ after.jobCount)
    (operationId : ∀ number < daemon.jobCount,
      (after.jobs number).operationId = (daemon.jobs number).operationId)
    (senderAlive : ∀ number < daemon.jobCount, (daemon.jobs number).senderAlive = false →
      (after.jobs number).senderAlive = false)
    (cancelled : ∀ number < daemon.jobCount, (daemon.jobs number).cancelled = true →
      (after.jobs number).cancelled = true)
    (freed : ∀ number < daemon.jobCount,
      daemon.controlled (daemon.jobs number).operationId = none →
        after.controlled (daemon.jobs number).operationId = none) : daemon.Persists after where
  issued _ known := governs.issued_mem known
  said _ spoken := said_of_governs governs spoken
  holds _ known held := holds_of_governs governs known held
  recorded _ known held := recorded_of_governs governs known held
  jobCount := jobCount
  operationId := operationId
  senderAlive := senderAlive
  cancelled := cancelled
  freed := freed

/-- What leaves the work and goes by the ledger persists. -/
theorem Persists.of_sameWork (same : daemon.SameWork after) (flagged : daemon.Flagged after)
    (governs : Governs daemon call after) : daemon.Persists after :=
  .of_governs governs same.jobCount.ge (fun number _ => same.operationId number)
    (fun number _ closed => (same.senderAlive number).trans closed)
    (fun number _ raised => flagged number raised)
    fun _ _ free => freed_of_bridge (fun _ held => same.bridge ▸ held) free

/-- The worker never opens a channel again. -/
theorem Worked.senderAlive (worked : daemon.Worked after) {number : Nat}
    (closed : (daemon.jobs number).senderAlive = false) :
    (after.jobs number).senderAlive = false := by
  cases worked with
  | @abandoned job waiting requested pending =>
      have jobs := @jobs_closeSender { daemon with requests := none } job number
      exact (congrArg EnrollmentJob.senderAlive jobs).trans (by simp [closed])
  | @reported job count progress reporting =>
      exact (congrArg EnrollmentJob.senderAlive (@jobs_send daemon job number _)).trans closed
  | @delivered job result sends listening =>
      exact (congrArg EnrollmentJob.senderAlive (@jobs_send daemon job number _)).trans closed
  | @released job sent releasing =>
      have jobs := @jobs_closeSender { daemon with active := false } job number
      exact (congrArg EnrollmentJob.senderAlive jobs).trans (by simp [closed])
  | _ => exact closed

end EnrollmentDaemon

open EnrollmentDaemon

/-- Cancelling for a sender lowers no flag. -/
theorem cancelSender_flagged (sender : String) (phase : DisconnectPhase) :
    daemon.Flagged (cancelSender daemon sender phase).1 := by
  cases phase with
  | raising targetUid operationId job => exact flagged_raise job
  | settled result => exact .of_jobs rfl
  | _ =>
      refine .of_jobs ?_
      unfold cancelSender
      dsimp only
      split <;> rfl

/-- Beginning an enrollment lowers no flag. -/
theorem Begun.flagged {sender : String} {targetUid : UInt32} {phase next : BeginPhase}
    (begun : Begun daemon sender targetUid phase after next) (same : daemon.SameWork after) :
    daemon.Flagged after := by
  cases begun with
  | started idle inactive unrequested alive =>
      have grown := same.jobCount
      simp at grown
  | @withdrawing inner next after answered =>
      have flagged := @cancelSender_flagged daemon sender inner
      rwa [answered] at flagged
  | @withdrawn inner after result answered =>
      have flagged := @cancelSender_flagged daemon sender inner
      rwa [answered] at flagged
  | _ => exact .of_jobs rfl

/-- A call that cancels lowers no flag. -/
theorem cancelEnrollment_flagged {sender : String} {targetUid : UInt32}
    {parsed : Option OperationId} {phase next : CancelPhase} {choice : CallChoice}
    (advanced : cancelEnrollment daemon sender targetUid parsed phase choice =
      some (after, next)) : daemon.Flagged after := by
  unfold cancelEnrollment at advanced
  split at advanced
  · split at advanced
    · cases advanced
      exact .of_jobs rfl
    · split at advanced <;> cases advanced <;> exact .of_jobs rfl
  · split at advanced <;> cases advanced <;> exact .of_jobs rfl
  · cases advanced
    exact flagged_raise _
  · split at advanced <;> cases advanced <;> exact .of_jobs rfl
  · cases advanced
    rw [emit_eq]
    exact .of_jobs rfl
  · cases advanced

/-- A sender that goes away lowers no flag. -/
theorem handleOwnerChange_flagged {name : String} {oldOwnerPresent newOwnerPresent : Bool}
    {phase next : WatchPhase} {choice : CallChoice}
    (advanced : handleOwnerChange uniqueName daemon name oldOwnerPresent newOwnerPresent phase
      choice = some (after, next)) : daemon.Flagged after := by
  unfold handleOwnerChange at advanced
  split at advanced
  · split at advanced <;> cases advanced <;> exact .of_jobs rfl
  · next inner =>
      have flagged := @cancelSender_flagged daemon name inner
      split at advanced
      all_goals
        next answered =>
          cases advanced
          rwa [answered] at flagged
  · cases advanced
    rw [emit_eq]
    exact .of_jobs rfl
  · cases advanced

/-- Reaping lowers no flag. -/
theorem reapExpired_flagged {phase next : ReapPhase} {choice : CallChoice}
    (advanced : reapExpired daemon phase choice = some (after, next)) :
    daemon.Flagged after := by
  unfold reapExpired at advanced
  split at advanced
  · split at advanced <;> cases advanced <;> exact .of_jobs rfl
  · cases advanced
    rw [emit_eq]
    exact .of_jobs rfl
  · cases advanced

/-- A relay lowers no flag. -/
theorem Relayed.flagged {thread : Nat} {targetUid : UInt32} {operationId : OperationId}
    {phase next : RelayPhase}
    (relayed : Relayed daemon thread targetUid operationId phase after next) :
    daemon.Flagged after := by
  intro number raised
  cases relayed with
  | took controlled stored => rwa [jobs_receive]
  | received queued => rwa [jobs_tail]
  | finished controlled finishes =>
      rcases finish_cases controlled finishes with ⟨-, rfl⟩ | ⟨-, rfl⟩
      · rwa [dropReceiver, jobs_receive]
      · exact raised
  | dropped => rwa [dropReceiver, jobs_receive]
  | _ => exact raised

/-- The worker lowers no flag. -/
theorem EnrollmentDaemon.Worked.flagged (worked : daemon.Worked after) : daemon.Flagged after := by
  intro number raised
  obtain ⟨more, senderAlive, same⟩ := worked.jobs number
  rw [same]
  exact raised

/-- A relay's section opens and closes no channel on the side of its sender. -/
theorem Relayed.senderAlive {thread : Nat} {targetUid : UInt32} {operationId : OperationId}
    {phase next : RelayPhase}
    (relayed : Relayed daemon thread targetUid operationId phase after next) (number : Nat) :
    (after.jobs number).senderAlive = (daemon.jobs number).senderAlive := by
  cases relayed with
  | took controlled stored => rw [jobs_receive]
  | received queued => rw [jobs_tail]
  | finished controlled finishes =>
      rcases finish_cases controlled finishes with ⟨-, rfl⟩ | ⟨-, rfl⟩
      · rw [dropReceiver, jobs_receive]
      · rfl
  | dropped => rw [dropReceiver, jobs_receive]
  | _ => rfl

/-- A section of a call reopens nothing that is over. -/
theorem advanceCall_persists {thread : Nat} {choice : CallChoice}
    (station : daemon.Station thread call)
    (advanced : advanceCall uniqueName daemon thread choice call = some (after, own)) :
    daemon.Persists after := by
  have governs := advanceCall_governs advanced
  cases advanceCall_cases advanced with
  | invoked fresh => exact .of_sameWork (.refl _) (.of_jobs rfl) governs
  | begin taken =>
      have begun := beginEnrollment_cases taken
      rcases begun.work with same |
        ⟨operationId, authorization, rfl, rfl, idle, inactive, unrequested, alive, rfl⟩
      · exact .of_sameWork same (begun.flagged same) governs
      · have jobs (number : Nat) (smaller : number < daemon.jobCount) :=
          jobs_submitted_of_lt operationId authorization.targetUid smaller
        refine .of_governs governs (Nat.le_succ _) ?_ ?_ ?_ ?_
        · intro number smaller
          rw [jobs number smaller]
        · intro number smaller closed
          rwa [jobs number smaller]
        · intro number smaller raised
          rwa [jobs number smaller]
        · intro number smaller free
          rw [controlled_eq_none_iff]
          intro operation held
          cases held
          exact (station.2 number smaller).symm
  | cancel taken =>
      exact .of_sameWork (cancelEnrollment_sameWork taken) (cancelEnrollment_flagged taken) governs
  | ownerChange taken =>
      exact .of_sameWork (handleOwnerChange_sameWork taken) (handleOwnerChange_flagged taken)
        governs
  | reap taken =>
      exact .of_sameWork (reapExpired_sameWork taken) (reapExpired_flagged taken) governs
  | relay taken =>
      have relayed := relay_cases taken
      have consumes := relayed.consumes station
      exact .of_governs governs consumes.jobCount.ge (fun number _ => consumes.operationId number)
        (fun number _ closed => (relayed.senderAlive number).trans closed)
        (fun number _ raised => relayed.flagged number raised)
        fun _ _ free => freed_of_bridge consumes.bridge free

/-- What happens apart from the calls persists. -/
theorem occurEvent_persists {event : DaemonEvent}
    (occurred : occurEvent daemon event = some after) :
    daemon.Persists after := by
  have governs := occurEvent_governs occurred
  cases event with
  | worker choice =>
      have worked := workerStep_cases occurred
      obtain ⟨jobCount, bridge, issued⟩ := worked.kept
      exact .of_governs governs jobCount.ge (fun number _ => worked.operationId number)
        (fun _ _ closed => worked.senderAlive closed)
        (fun number _ raised => worked.flagged number raised)
        fun _ _ free => freed_of_bridge (fun _ held => bridge ▸ held) free
  | tick micros =>
      cases occurred
      exact .of_sameWork (.of_jobs rfl rfl rfl rfl rfl rfl rfl fun _ known => known) (.of_jobs rfl)
        governs
  | shutdown =>
      cases occurred
      exact .of_sameWork (.of_jobs rfl rfl rfl rfl rfl rfl rfl fun _ known => known) (.of_jobs rfl)
        governs

end FaceAuth
