import FaceAuth.Daemon.Jobs

/-!
# Relays and their jobs

Each relay keeps the receiving half of its job until it drops it, and no other
call and no step of the worker takes it away.
-/

namespace FaceAuth

open Foundation

namespace EnrollmentDaemon

variable {daemon after : EnrollmentDaemon}

/-- A thread has the receiving half of a job's channel. -/
structure Attends (daemon : EnrollmentDaemon) (thread : Nat) (operationId : OperationId)
    (number : Nat) : Prop where
  numbered : number < daemon.jobCount
  named : (daemon.jobs number).operationId = operationId
  taken : (daemon.jobs number).receiver = .taken thread

/-- What holds of a relay between its sections. -/
inductive Seated (daemon : EnrollmentDaemon) (thread : Nat) (operationId : OperationId) :
    RelayPhase → Prop where
  | taking : Seated daemon thread operationId .taking
  | receiving {number : Nat} (attends : daemon.Attends thread operationId number)
      (controls : daemon.bridge = some ⟨operationId, number⟩) (owed : daemon.Owed number) :
      Seated daemon thread operationId (.receiving number)
  | progressing {number : Nat} {code : ManagementProgress}
      (attends : daemon.Attends thread operationId number)
      (controls : daemon.bridge = some ⟨operationId, number⟩) (owed : daemon.Owed number) :
      Seated daemon thread operationId (.handling number (.progress operationId code))
  | completing {number : Nat} {result : Except EnrollmentEngineFailure Unit}
      (attends : daemon.Attends thread operationId number)
      (controls : daemon.bridge = some ⟨operationId, number⟩) (sent : ¬ daemon.Unsent number)
      (truthful : result = .ok () ↔ daemon.Saved operationId) :
      Seated daemon thread operationId (.handling number (.completed operationId result))
  | speaking {number : Nat} {code : ManagementProgress}
      (attends : daemon.Attends thread operationId number)
      (controls : daemon.bridge = some ⟨operationId, number⟩) (owed : daemon.Owed number) :
      Seated daemon thread operationId (.emitting number (.progress operationId code))
  | ending {number : Nat} {result : ManagementResult}
      (attends : daemon.Attends thread operationId number)
      (controls : daemon.bridge = some ⟨operationId, number⟩) :
      Seated daemon thread operationId (.emitting number (.completed operationId result))
  | finishing {number : Nat} (attends : daemon.Attends thread operationId number)
      (controls : daemon.bridge = some ⟨operationId, number⟩) :
      Seated daemon thread operationId (.finishing number)
  | dropping {number : Nat} {answer : Except BackendError Unit}
      (attends : daemon.Attends thread operationId number) :
      Seated daemon thread operationId (.dropping number answer)
  | returned {answer : Except BackendError Unit} :
      Seated daemon thread operationId (.returned answer)

/-- A step of another thread or of the worker spares a job that is attended. -/
structure Spares (daemon after : EnrollmentDaemon) (number : Nat) : Prop where
  jobCount : daemon.jobCount ≤ after.jobCount
  operationId : (after.jobs number).operationId = (daemon.jobs number).operationId
  receiver : (after.jobs number).receiver = (daemon.jobs number).receiver
  sent : ¬ daemon.Unsent number → ¬ after.Unsent number
  saved : ¬ daemon.Unsent number → (after.Saved (daemon.jobs number).operationId ↔
    daemon.Saved (daemon.jobs number).operationId)
  owed : daemon.Owed number → after.Owed number

/-- A relay attends to a job that the others spare. -/
theorem Attends.spare {thread : Nat} {operationId : OperationId} {number : Nat}
    (attends : daemon.Attends thread operationId number) (spares : daemon.Spares after number) :
    after.Attends thread operationId number where
  numbered := Nat.lt_of_lt_of_le attends.numbered spares.jobCount
  named := spares.operationId.trans attends.named
  taken := spares.receiver.trans attends.taken

/-- A relay keeps its seat while its job is spared. -/
theorem Seated.spare {thread : Nat} {operationId : OperationId} {phase : RelayPhase}
    (seated : daemon.Seated thread operationId phase)
    (spares : ∀ number, daemon.Attends thread operationId number → daemon.Spares after number)
    (bridge : ∀ number, daemon.Attends thread operationId number →
      daemon.bridge = some ⟨operationId, number⟩ → after.bridge = some ⟨operationId, number⟩) :
    after.Seated thread operationId phase := by
  cases seated with
  | taking => exact .taking
  | receiving attends controls owed =>
      have spared := spares _ attends
      exact .receiving (attends.spare spared) (bridge _ attends controls) (spared.owed owed)
  | progressing attends controls owed =>
      have spared := spares _ attends
      exact .progressing (attends.spare spared) (bridge _ attends controls) (spared.owed owed)
  | completing attends controls sent truthful =>
      have spared := spares _ attends
      refine .completing (attends.spare spared) (bridge _ attends controls) (spared.sent sent) ?_
      have saved := spared.saved sent
      rw [attends.named] at saved
      exact truthful.trans saved.symm
  | speaking attends controls owed =>
      have spared := spares _ attends
      exact .speaking (attends.spare spared) (bridge _ attends controls) (spared.owed owed)
  | ending attends controls =>
      exact .ending (attends.spare (spares _ attends)) (bridge _ attends controls)
  | finishing attends controls =>
      exact .finishing (attends.spare (spares _ attends)) (bridge _ attends controls)
  | dropping attends => exact .dropping (attends.spare (spares _ attends))
  | returned => exact .returned

/-- What leaves the work spares every job. -/
theorem SameWork.spares (same : daemon.SameWork after) (number : Nat) :
    daemon.Spares after number where
  jobCount := same.jobCount.ge
  operationId := same.operationId number
  receiver := same.receiver number
  sent := mt (same.consumes.unsent number).mp
  saved _ := same.consumes.saved _
  owed owed := by
    rw [Owed, same.consumes.unsent, same.worker, Queued, same.operationId, same.queue]
    exact owed

/-- The worker adds to the queue of a job and closes its sender, and nothing else. -/
theorem Worked.jobs (worked : daemon.Worked after) (number : Nat) :
    ∃ more senderAlive, after.jobs number = { daemon.jobs number with
      queue := (daemon.jobs number).queue ++ more, senderAlive := senderAlive } := by
  cases worked with
  | @abandoned job waiting requested pending =>
      refine ⟨[], (daemon.jobs number).senderAlive && !decide (number = job), ?_⟩
      rw [List.append_nil]
      exact @jobs_closeSender { daemon with requests := none } job number
  | @reported job count progress reporting => exact ⟨_, _, @jobs_send daemon job number _⟩
  | @delivered job result sends listening => exact ⟨_, _, @jobs_send daemon job number _⟩
  | @released job sent releasing =>
      refine ⟨[], (daemon.jobs number).senderAlive && !decide (number = job), ?_⟩
      rw [List.append_nil]
      exact @jobs_closeSender { daemon with active := false } job number
  | ignored enrolling => exact ⟨[], (daemon.jobs number).senderAlive, by rw [List.append_nil]⟩
  | _ => exact ⟨[], (daemon.jobs number).senderAlive, by rw [List.append_nil]; rfl⟩

/-- The worker leaves the operations of the jobs. -/
theorem Worked.operationId (worked : daemon.Worked after) (number : Nat) :
    (after.jobs number).operationId = (daemon.jobs number).operationId := by
  obtain ⟨queue, senderAlive, same⟩ := worked.jobs number
  rw [same]

/-- The worker leaves the receivers of the jobs. -/
theorem Worked.receiver (worked : daemon.Worked after) (number : Nat) :
    (after.jobs number).receiver = (daemon.jobs number).receiver := by
  obtain ⟨queue, senderAlive, same⟩ := worked.jobs number
  rw [same]

/-- The worker makes no jobs and leaves the bridge. -/
theorem Worked.kept (worked : daemon.Worked after) :
    after.jobCount = daemon.jobCount ∧ after.bridge = daemon.bridge ∧
      after.issued = daemon.issued := by
  cases worked <;> exact ⟨rfl, rfl, rfl⟩

/-- A job that owes no terminal update never owes one again. -/
theorem Worked.sent (worked : daemon.Worked after) {number : Nat}
    (sent : ¬ daemon.Unsent number) : ¬ after.Unsent number := by
  rintro (requested | working)
  · cases worked <;> first | exact sent (.inl requested) | cases requested
  · cases worked with
    | took waiting pending =>
        cases working
        exact sent (.inl pending)
    | declined starting cancelled =>
        cases working
        exact sent (.inr (by rw [starting]; rfl))
    | began starting running =>
        cases working
        exact sent (.inr (by rw [starting]; rfl))
    | ignored enrolling => exact sent (.inr working)
    | reports enrolling progress =>
        cases working
        exact sent (.inr (by rw [enrolling]; rfl))
    | returned enrolling result =>
        cases working
        exact sent (.inr (by rw [enrolling]; rfl))
    | reported reporting =>
        cases working
        exact sent (.inr (by rw [reporting]; rfl))
    | unreported reporting =>
        cases working
        exact sent (.inr (by rw [reporting]; rfl))
    | @judged job result finished =>
        have same := (unsent_judge job result).symm.trans working
        exact sent (.inr (by rw [finished]; exact same))
    | saved committing =>
        cases working
        exact sent (.inr (by rw [committing]; rfl))
    | unsaved committing =>
        cases working
        exact sent (.inr (by rw [committing]; rfl))
    | @released job sent_ releasing =>
        cases sent_ <;> cases working
    | _ => cases working

/-- The worker takes no terminal back. -/
theorem Worked.queued (worked : daemon.Worked after) {number : Nat}
    (queued : daemon.Queued number) : after.Queued number := by
  obtain ⟨more, senderAlive, same⟩ := worked.jobs number
  obtain ⟨result, member⟩ := queued
  refine ⟨result, ?_⟩
  rw [same]
  exact List.mem_append_left _ member

/-- A stopped worker takes no step. -/
theorem Worked.alive (worked : daemon.Worked after)
    (result : Except EnrollmentEngineServiceError Unit) : daemon.worker ≠ .stopped result := by
  intro stopped
  cases worked <;> simp_all

/-- What the worker owes to a listener it goes on to owe, or has sent. -/
theorem Worked.owed (worked : daemon.Worked after) {number : Nat}
    (listening : (daemon.jobs number).receiver ≠ .dropped) (owed : daemon.Owed number) :
    after.Owed number := by
  rcases owed with (requested | working) | ⟨result, stopped⟩ | queued
  · cases worked with
    | shut waiting requested_ empty =>
        rw [requested] at empty
        cases empty
    | abandoned waiting requested_ pending => exact .inr (.inl ⟨_, rfl⟩)
    | took waiting pending =>
        rw [requested] at pending
        cases pending
        exact .inl (.inr rfl)
    | _ => exact .inl (.inl requested)
  · cases worked with
    | shut waiting requested empty => exact .inr (.inl ⟨_, rfl⟩)
    | abandoned waiting requested pending => exact .inr (.inl ⟨_, rfl⟩)
    | took waiting pending =>
        rw [waiting] at working
        cases working
    | declined starting cancelled =>
        rw [starting] at working
        exact .inl (.inr working)
    | began starting running =>
        rw [starting] at working
        exact .inl (.inr working)
    | ignored enrolling => exact .inl (.inr working)
    | reports enrolling progress =>
        rw [enrolling] at working
        exact .inl (.inr working)
    | returned enrolling result =>
        rw [enrolling] at working
        exact .inl (.inr working)
    | reported reporting =>
        rw [reporting] at working
        exact .inl (.inr working)
    | unreported reporting =>
        rw [reporting] at working
        exact .inl (.inr working)
    | @judged job result finished =>
        rw [finished] at working
        exact .inl (.inr ((unsent_judge job result).trans working))
    | saved committing =>
        rw [committing] at working
        exact .inl (.inr working)
    | unsaved committing =>
        rw [committing] at working
        exact .inl (.inr working)
    | undelivered sends dropped =>
        rw [sends] at working
        cases working
        exact absurd dropped listening
    | @delivered job result sends listening =>
        rw [sends] at working
        have same : job = number := Option.some.inj working
        subst same
        refine .inr (.inr ⟨result, ?_⟩)
        have jobs := @jobs_send daemon job job
          (.completed (daemon.jobs job).operationId result)
        rw [withWorker, jobs]
        simp
    | released releasing =>
        rw [releasing] at working
        cases working
  · exact absurd stopped (worked.alive result)
  · exact .inr (.inr (worked.queued queued))

/-- The worker saves nothing for a job that does not wait for its terminal. -/
theorem Worked.saved_iff (worked : daemon.Worked after) (workshop : daemon.Workshop)
    {number : Nat} (smaller : number < daemon.jobCount) (sent : ¬ daemon.Unsent number) :
    after.Saved (daemon.jobs number).operationId ↔
      daemon.Saved (daemon.jobs number).operationId := by
  cases worked with
  | @saved job record committing =>
      have mine : daemon.Unsent job := .inr (by rw [committing]; rfl)
      have other : (daemon.jobs number).operationId ≠ (daemon.jobs job).operationId := by
        intro same
        have equal := workshop.distinct number smaller job (workshop.numbered job mine) same
        exact sent (equal ▸ mine)
      simp [Saved, withWorker, other]
  | _ => rfl

/-- The worker spares the jobs that have a listener. -/
theorem Worked.spares (worked : daemon.Worked after) (workshop : daemon.Workshop) {number : Nat}
    (smaller : number < daemon.jobCount)
    (listening : (daemon.jobs number).receiver ≠ .dropped) : daemon.Spares after number where
  jobCount := worked.kept.1.ge
  operationId := worked.operationId number
  receiver := worked.receiver number
  sent := worked.sent
  saved := worked.saved_iff workshop smaller
  owed := worked.owed listening

/-- What the coordinator answers to the progress of an operation. -/
theorem progress_answer {targetUid : UInt32} {operationId : OperationId}
    {code : ManagementProgress} {update : ManagementUpdate}
    (answered : (daemon.management.progress targetUid operationId daemon.clock code).1 =
      .ok update) :
    update = .progress operationId code ∨ update = .completed operationId .timedOut := by
  rcases daemon.management.coordinator.bound_or_foreign targetUid operationId with
    ⟨active, bound⟩ | foreign
  · rw [ManagementState.progress_of_bound bound] at answered
    split at answered
    · cases answered
      exact .inr rfl
    · cases answered
      exact .inl rfl
  · rw [ManagementState.progress_of_foreign foreign] at answered
    cases answered

/-- What the coordinator answers to the end of an operation. -/
theorem complete_answer {targetUid : UInt32} {operationId : OperationId}
    {result : ManagementResult} {update : ManagementUpdate}
    (answered : (daemon.management.complete targetUid operationId daemon.clock result).1 =
      .ok update) : ∃ result, update = .completed operationId result := by
  cases kept : ManagementCoordinator.reserved result with
  | true =>
      rw [ManagementState.complete_of_reserved kept] at answered
      cases answered
  | false =>
      rcases daemon.management.coordinator.bound_or_foreign targetUid operationId with
        ⟨active, bound⟩ | foreign
      · rw [ManagementState.complete_of_bound bound kept] at answered
        cases answered
        exact ⟨_, rfl⟩
      · rw [ManagementState.complete_of_foreign foreign kept] at answered
        cases answered

/-- A relay is seated where its answer puts it. -/
theorem seated_of_answer {thread number : Nat} {operationId : OperationId}
    {outcome : Except ManagementError ManagementUpdate × ManagementState}
    (attends : daemon.Attends thread operationId number)
    (controls : daemon.bridge = some ⟨operationId, number⟩)
    (spoken : ∀ update, outcome.1 = .ok update →
      (relayAnswer daemon number outcome).1.Seated thread operationId (.emitting number update)) :
    (relayAnswer daemon number outcome).1.Seated thread operationId
      (relayAnswer daemon number outcome).2 := by
  have after : (relayAnswer daemon number outcome).1.Attends thread operationId number :=
    attends.spare ((sameWork_settle outcome).spares number)
  unfold relayAnswer
  dsimp only
  split
  · next answered => exact spoken _ answered
  · exact .finishing after controls
  · exact .dropping after

/-- An operation that is controlled is the one on the bridge. -/
theorem controlled_eq_some {operationId : OperationId} {operation : ControlledOperation}
    (controlled : daemon.controlled operationId = some operation) :
    daemon.bridge = some operation ∧ operation.operationId = operationId := by
  obtain ⟨held, same⟩ := Option.filter_eq_some_iff.mp controlled
  exact ⟨held, of_decide_eq_true same⟩

/-- Finishing clears the bridge, and drops a handle that nobody took. -/
theorem finish_cases {operationId : OperationId} {operation : ControlledOperation}
    (controlled : daemon.controlled operationId = some operation)
    (finishes : daemon.finish operationId = .ok after) :
    (daemon.jobs operation.job).receiver = .stored ∧
        after = { daemon with bridge := none }.dropReceiver operation.job ∨
      (daemon.jobs operation.job).receiver ≠ .stored ∧ after = { daemon with bridge := none } := by
  rw [finish, controlled] at finishes
  dsimp only at finishes
  split at finishes
  · next stored =>
      cases finishes
      exact .inl ⟨stored, rfl⟩
  · next taken =>
      cases finishes
      exact .inr ⟨taken, rfl⟩

/-- The receiver of one job has gone elsewhere. -/
theorem jobs_receive (number other : Nat) (receiver : Receiver) :
    (daemon.setJob number fun job => { job with receiver }).jobs other =
      { daemon.jobs other with
        receiver := if other = number then receiver else (daemon.jobs other).receiver } := by
  by_cases same : other = number
  · subst same
    simp
  · rw [jobs_setJob_of_ne _ _ _ same]
    simp [same]

/-- Moving a receiver consumes nothing but updates. -/
theorem consumes_receive (number : Nat) {receiver : Receiver} (gone : receiver ≠ .stored) :
    daemon.Consumes (daemon.setJob number fun job => { job with receiver }) := by
  refine ⟨rfl, rfl, rfl, rfl, rfl, fun _ held => held, ?_, ?_, ?_, fun _ known => known⟩
  · intro other
    rw [jobs_receive]
  · intro other update queued
    rw [jobs_receive] at queued
    exact queued
  · intro other held
    rw [jobs_receive] at held ⊢
    by_cases same : other = number
    · rw [if_pos same] at held
      exact absurd held gone
    · rw [if_neg same] at held
      exact ⟨held, rfl⟩

/-- Clearing the bridge consumes nothing but updates. -/
theorem consumes_clear : daemon.Consumes { daemon with bridge := none } :=
  ⟨rfl, rfl, rfl, rfl, rfl, nofun, fun _ => rfl, fun _ _ queued => queued,
    fun _ held => ⟨held, rfl⟩, fun _ known => known⟩

/-- Consuming twice is consuming. -/
theorem Consumes.trans {later : EnrollmentDaemon} (first : daemon.Consumes after)
    (second : after.Consumes later) : daemon.Consumes later where
  jobCount := second.jobCount.trans first.jobCount
  active := second.active.trans first.active
  requests := second.requests.trans first.requests
  worker := second.worker.trans first.worker
  templates := second.templates.trans first.templates
  bridge operation held := first.bridge operation (second.bridge operation held)
  operationId number := (second.operationId number).trans (first.operationId number)
  queue number update queued := first.queue number update (second.queue number update queued)
  stored number held :=
    have middle := second.stored number held
    have earlier := first.stored number middle.1
    ⟨earlier.1, middle.2.trans earlier.2⟩
  issued operationId known := second.issued operationId (first.issued operationId known)

/-- The queue of one job is shorter. -/
theorem jobs_tail (number other : Nat) (queue : List EnrollmentEngineUpdate) :
    (daemon.setJob number fun job => { job with queue }).jobs other =
      { daemon.jobs other with
        queue := if other = number then queue else (daemon.jobs other).queue } := by
  by_cases same : other = number
  · subst same
    simp
  · rw [jobs_setJob_of_ne _ _ _ same]
    simp [same]

/-- What is owed stays so while the queue does. -/
theorem Consumes.owed (consumes : daemon.Consumes after) {number : Nat}
    (queue : (after.jobs number).queue = (daemon.jobs number).queue)
    (owed : daemon.Owed number) : after.Owed number := by
  rw [Owed, consumes.unsent, consumes.worker, Queued, consumes.operationId, queue]
  exact owed

end EnrollmentDaemon

open EnrollmentDaemon

variable {daemon after : EnrollmentDaemon}

/-- A section of a relay consumes at most. -/
theorem Relayed.consumes {thread : Nat} {targetUid : UInt32} {operationId : OperationId}
    {phase next : RelayPhase}
    (relayed : Relayed daemon thread targetUid operationId phase after next)
    (seated : daemon.Seated thread operationId phase) : daemon.Consumes after := by
  cases relayed with
  | absent error => exact (SameWork.refl daemon).consumes
  | took controlled stored => exact consumes_receive _ nofun
  | @received number update queue queued =>
      cases seated with
      | receiving attends controls owed =>
          refine ⟨rfl, rfl, rfl, rfl, rfl, fun _ held => held, ?_, ?_, ?_, fun _ known => known⟩
          · intro other
            rw [jobs_tail]
          · intro other update member
            rw [jobs_tail] at member
            dsimp only at member
            split at member
            · next same =>
                subst same
                rw [queued]
                exact List.mem_cons_of_mem _ member
            · exact member
          · intro other held
            rw [jobs_tail] at held ⊢
            have distinct : other ≠ number := by
              rintro rfl
              rw [attends.taken] at held
              cases held
            exact ⟨held, if_neg distinct⟩
  | closed empty gone => exact (SameWork.refl daemon).consumes
  | progressed => exact (sameWork_settle _).consumes
  | completed => exact (sameWork_settle _).consumes
  | misbound other => exact (SameWork.refl daemon).consumes
  | emitted => exact (sameWork_emit _ _).consumes
  | unsent => exact (SameWork.refl daemon).consumes
  | lost free => exact (SameWork.refl daemon).consumes
  | finished controlled finishes =>
      rcases finish_cases controlled finishes with ⟨-, rfl⟩ | ⟨-, rfl⟩
      · exact consumes_clear.trans (consumes_receive _ nofun)
      · exact consumes_clear
  | dropped => exact consumes_receive _ nofun

/-- A relay's own section leaves it seated. -/
theorem Relayed.seated {thread : Nat} {targetUid : UInt32} {operationId : OperationId}
    {phase next : RelayPhase}
    (relayed : Relayed daemon thread targetUid operationId phase after next)
    (workshop : daemon.Workshop) (seated : daemon.Seated thread operationId phase) :
    after.Seated thread operationId next := by
  have consumes := relayed.consumes seated
  cases relayed with
  | absent error => exact .returned
  | @took operation controlled stored =>
      obtain ⟨held, same⟩ := controlled_eq_some controlled
      obtain ⟨smaller, named⟩ := workshop.bridged operation held
      have queue : ((daemon.setJob operation.job fun job =>
          { job with receiver := .taken thread }).jobs operation.job).queue =
            (daemon.jobs operation.job).queue := by rw [jobs_receive]
      refine .receiving ⟨smaller, ?_, ?_⟩ ?_
        (consumes.owed queue (workshop.stored operation.job smaller stored))
      · rw [jobs_receive, ← same]
        exact named
      · rw [jobs_receive]
        exact if_pos rfl
      · rw [bridge_setJob, held, ← same]
  | @received number update queue queued =>
      cases seated with
      | receiving attends controls owed =>
          have after : (daemon.setJob number fun job => { job with queue }).Attends thread
              operationId number := by
            refine ⟨attends.numbered, ?_, ?_⟩
            · rw [jobs_tail]
              exact attends.named
            · rw [jobs_tail]
              exact attends.taken
          have head : update ∈ (daemon.jobs number).queue := by
            rw [queued]
            exact List.mem_cons_self
          have named : update.operationId = operationId :=
            (workshop.bound number update head).trans attends.named
          cases update with
          | progress actual code =>
              cases named
              refine .progressing after controls ?_
              rcases owed with unsent | stopped | ⟨result, member⟩
              · exact .inl ((consumes.unsent number).mpr unsent)
              · exact .inr (.inl stopped)
              · refine .inr (.inr ⟨result, ?_⟩)
                rw [queued] at member
                rw [jobs_tail]
                dsimp only
                rw [if_pos rfl]
                exact (List.mem_cons.mp member).resolve_left nofun
          | completed actual result =>
              cases named
              have member : .completed (daemon.jobs number).operationId result ∈
                  (daemon.jobs number).queue := by
                rw [attends.named]
                exact head
              refine .completing after controls ?_ ?_
              · rw [consumes.unsent]
                exact fun unsent => workshop.unqueued number unsent ⟨result, member⟩
              · have truthful := workshop.truthful number attends.numbered result member
                rw [attends.named] at truthful
                rw [consumes.saved]
                exact truthful
  | closed empty gone =>
      cases seated with
      | receiving attends controls owed => exact .dropping attends
  | @progressed number code =>
      cases seated with
      | progressing attends controls owed =>
          refine seated_of_answer attends controls ?_
          intro update answered
          have spared : daemon.Spares (daemon.settle
              (daemon.management.progress targetUid operationId daemon.clock code)) number :=
            (sameWork_settle _).spares number
          rcases progress_answer answered with rfl | rfl
          · exact .speaking (attends.spare spared) controls (spared.owed owed)
          · exact .ending (attends.spare spared) controls
  | @completed number result =>
      cases seated with
      | completing attends controls sent truthful =>
          refine seated_of_answer attends controls ?_
          intro update answered
          obtain ⟨result, rfl⟩ := complete_answer answered
          exact .ending (attends.spare ((sameWork_settle _).spares number)) controls
  | misbound other =>
      cases seated with
      | progressing attends controls owed => exact absurd rfl other
      | completing attends controls sent truthful => exact absurd rfl other
  | @emitted number update =>
      cases seated with
      | @speaking _ code attends controls owed =>
          have spared := (@sameWork_emit daemon true (.progress operationId code)).spares number
          exact .receiving (attends.spare spared) controls (spared.owed owed)
      | ending attends controls =>
          exact .finishing (attends.spare ((sameWork_emit _ _).spares number)) controls
  | unsent =>
      cases seated with
      | speaking attends controls owed => exact .dropping attends
      | ending attends controls => exact .dropping attends
  | lost free =>
      cases seated with
      | finishing attends controls => exact .dropping attends
  | @finished number operation after controlled finishes =>
      cases seated with
      | finishing attends controls =>
          obtain ⟨held, -⟩ := controlled_eq_some controlled
          rw [controls] at held
          cases held
          rcases finish_cases controlled finishes with ⟨stored, -⟩ | ⟨-, rfl⟩
          · rw [attends.taken] at stored
            cases stored
          · exact .dropping ⟨attends.numbered, attends.named, attends.taken⟩
  | dropped => exact .returned

/-- A relay's section does not touch the job of another relay. -/
theorem Relayed.jobs_attended {thread other : Nat} {targetUid : UInt32}
    {operationId another : OperationId} {phase next : RelayPhase} {number : Nat}
    (relayed : Relayed daemon thread targetUid operationId phase after next)
    (seated : daemon.Seated thread operationId phase) (distinct : other ≠ thread)
    (attends : daemon.Attends other another number) :
    after.jobs number = daemon.jobs number := by
  have elsewhere {job : Nat} (mine : daemon.Attends thread operationId job) : number ≠ job := by
    rintro rfl
    have same := attends.taken.symm.trans mine.taken
    exact distinct (by injection same)
  cases relayed with
  | @took operation controlled stored =>
      have unattended : number ≠ operation.job := by
        rintro rfl
        rw [attends.taken] at stored
        cases stored
      exact jobs_setJob_of_ne _ _ _ unattended
  | received queued =>
      cases seated with
      | receiving mine controls owed => exact jobs_setJob_of_ne _ _ _ (elsewhere mine)
  | finished controlled finishes =>
      cases seated with
      | finishing mine controls =>
          obtain ⟨held, -⟩ := controlled_eq_some controlled
          rw [controls] at held
          cases held
          rcases finish_cases controlled finishes with ⟨stored, -⟩ | ⟨-, rfl⟩
          · rw [mine.taken] at stored
            cases stored
          · rfl
  | dropped =>
      cases seated with
      | dropping mine => exact jobs_setJob_of_ne _ _ _ (elsewhere mine)
  | _ => rfl

/-- The jobs of the other relays are spared. -/
theorem Relayed.spares {thread other : Nat} {targetUid : UInt32}
    {operationId another : OperationId} {phase next : RelayPhase} {number : Nat}
    (relayed : Relayed daemon thread targetUid operationId phase after next)
    (seated : daemon.Seated thread operationId phase) (distinct : other ≠ thread)
    (attends : daemon.Attends other another number) :
    daemon.Spares after number ∧
      (daemon.bridge = some ⟨another, number⟩ → after.bridge = some ⟨another, number⟩) := by
  have consumes := relayed.consumes seated
  have jobs := relayed.jobs_attended seated distinct attends
  refine ⟨⟨consumes.jobCount.ge, consumes.operationId number, by rw [jobs],
    mt (consumes.unsent number).mp, fun _ => consumes.saved _, consumes.owed (by rw [jobs])⟩, ?_⟩
  cases relayed with
  | finished controlled finishes =>
      cases seated with
      | finishing mine controls =>
          intro theirs
          rw [controls] at theirs
          cases theirs
          have same := attends.taken.symm.trans mine.taken
          exact absurd (by injection same) distinct
  | _ => exact id

/-! ## All calls -/

/-- A call has begun this operation and has not announced it yet. -/
def Call.Claims (operationId : OperationId) : Call → Prop
  | .begin _ _ (.starting claimed _) => claimed = operationId
  | .begin _ _ (.announcing claimed _) => claimed = operationId
  | _ => False

/-- Each issued operation is claimed by one call at most. -/
def Manager1.Apart (state : Manager1) : Prop :=
  ∀ index operationId, (state.thread index).Claims operationId →
    operationId ∈ state.shared.issued ∧
      ∀ other, (state.thread other).Claims operationId → other = index

/-- The operation is issued and no job was submitted for it. -/
def EnrollmentDaemon.Unstarted (daemon : EnrollmentDaemon) (operationId : OperationId) : Prop :=
  operationId ∈ daemon.issued ∧
    ∀ number < daemon.jobCount, (daemon.jobs number).operationId ≠ operationId

/-- What holds of a call between its sections. -/
def EnrollmentDaemon.Station (daemon : EnrollmentDaemon) (thread : Nat) : Call → Prop
  | .begin _ _ (.starting operationId _) => daemon.Unstarted operationId
  | .relay _ operationId phase => daemon.Seated thread operationId phase
  | _ => True

variable {uniqueName : String → Bool} {call own : Call}

/-- An issued operation stays so. -/
theorem Governs.issued_mem (governs : Governs daemon call after) {operationId : OperationId}
    (known : operationId ∈ daemon.issued) : operationId ∈ after.issued := by
  cases governs with
  | untouched management updates issued => rwa [issued]
  | admitted at_ fresh empty management updates issued =>
      rw [issued]
      exact List.mem_cons_of_mem _ known
  | spoken held management updates issued => rwa [issued]
  | interrupted held interrupts reserved management updates issued => rwa [issued]
  | concluded held at_ management updates issued => rwa [issued]
  | erased at_ foreign management updates issued => rwa [issued]

/-- A call that has not begun claims nothing. -/
theorem fresh_claims {call : Call} (fresh : call.Fresh) (operationId : OperationId) :
    ¬ call.Claims operationId := by
  unfold Call.Fresh at fresh
  split at fresh <;> first | exact id | exact fresh.elim

/-- A call comes to claim an operation when it has just been issued. -/
theorem advanceCall_claims {thread : Nat} {choice : CallChoice} {operationId : OperationId}
    (advanced : advanceCall uniqueName daemon thread choice call = some (after, own))
    (claims : own.Claims operationId) :
    call.Claims operationId ∨ operationId ∉ daemon.issued ∧ operationId ∈ after.issued := by
  cases advanceCall_cases advanced with
  | invoked fresh => exact absurd claims (fresh_claims fresh operationId)
  | begin taken =>
      cases beginEnrollment_cases taken with
      | admitted fresh empty =>
          cases claims
          exact .inr ⟨fresh, List.mem_cons_self⟩
      | started idle inactive unrequested alive =>
          cases claims
          exact .inl rfl
      | _ => cases claims
  | cancel taken => cases claims
  | ownerChange taken => cases claims
  | reap taken => cases claims
  | relay taken => cases claims

/-- No two calls attend to one job, wherever the daemon gets. -/
theorem Manager1.apart {allowed : Manager1 → Turn CallChoice DaemonEvent → Prop}
    {config : ManagementConfig} {clock : Nat} {state : Manager1}
    (reached : (manager1 uniqueName).Reaches allowed (Manager1.initial config clock) state) :
    state.Apart := by
  have begins : (Manager1.initial config clock).Apart := fun _ _ claims => claims.elim
  refine reached.invariant begins ?_
  intro state turn next apart _ taken
  cases turn with
  | event event =>
      obtain ⟨after, occurred, rfl⟩ := Program.step_event_eq_some_iff.mp taken
      intro index operationId claims
      obtain ⟨known, unique⟩ := apart index operationId claims
      exact ⟨(EnrollmentDaemon.occurEvent_governs occurred).issued_mem known, unique⟩
  | thread mover choice =>
      obtain ⟨after, own, advanced, rfl⟩ := Program.step_thread_eq_some_iff.mp taken
      have grows : ∀ operationId ∈ state.shared.issued, operationId ∈ after.issued :=
        fun _ known => (advanceCall_governs advanced).issued_mem known
      intro index operationId claims
      dsimp only at claims ⊢
      by_cases mine : index = mover
      · subst mine
        rw [Function.update_self] at claims
        rcases advanceCall_claims advanced claims with before | ⟨fresh, issued⟩
        · obtain ⟨known, unique⟩ := apart index operationId before
          refine ⟨grows operationId known, ?_⟩
          intro other theirs
          by_contra distinct
          rw [Function.update_of_ne distinct] at theirs
          exact distinct (unique other theirs)
        · refine ⟨issued, ?_⟩
          intro other theirs
          by_contra distinct
          rw [Function.update_of_ne distinct] at theirs
          exact fresh (apart other operationId theirs).1
      · rw [Function.update_of_ne mine] at claims
        obtain ⟨known, unique⟩ := apart index operationId claims
        refine ⟨grows operationId known, ?_⟩
        intro other theirs
        by_cases moved : other = mover
        · subst moved
          rw [Function.update_self] at theirs
          rcases advanceCall_claims advanced theirs with before | ⟨fresh, -⟩
          · exact unique other before
          · exact absurd known fresh
        · rw [Function.update_of_ne moved] at theirs
          exact unique other theirs

/-- An operation that has no job gets none when updates are consumed. -/
theorem Unstarted.consume {operationId : OperationId}
    (unstarted : daemon.Unstarted operationId) (consumes : daemon.Consumes after) :
    after.Unstarted operationId := by
  refine ⟨consumes.issued _ unstarted.1, ?_⟩
  intro number smaller
  rw [consumes.operationId]
  exact unstarted.2 number (consumes.jobCount ▸ smaller)

/-- A call keeps its station while the work stays. -/
theorem EnrollmentDaemon.SameWork.station {thread : Nat} (same : daemon.SameWork after)
    (station : daemon.Station thread call) : after.Station thread call := by
  unfold EnrollmentDaemon.Station at station ⊢
  split at station
  · exact Unstarted.consume station same.consumes
  · exact station.spare (fun number _ => same.spares number)
      (fun number _ held => same.bridge.trans held)
  · trivial

/-- The other calls when a job is submitted for an operation that only one of them is
about to start. -/
theorem submitted_station {thread : Nat} {operationId : OperationId} {targetUid : UInt32}
    (workshop : daemon.Workshop) (idle : daemon.bridge = none)
    (inactive : daemon.active = false) (alive : ∀ result, daemon.worker ≠ .stopped result)
    (other : ¬ call.Claims operationId) (station : daemon.Station thread call) :
    (daemon.submitted operationId targetUid).Station thread call := by
  have quiet := (workshop.idle inactive).2
  unfold EnrollmentDaemon.Station at station ⊢
  split at station
  · refine ⟨station.1, ?_⟩
    intro number smaller
    rcases lt_or_eq_of_submitted smaller with earlier | rfl
    · rw [jobs_submitted_of_lt _ _ earlier]
      exact station.2 number earlier
    · rw [jobs_submitted]
      exact fun same => other same.symm
  · refine station.spare ?_ ?_
    · intro number attends
      have jobs := jobs_submitted_of_lt operationId targetUid attends.numbered
      have elsewhere : ¬ (daemon.submitted operationId targetUid).Unsent number := by
        rw [unsent_submitted quiet]
        exact Nat.ne_of_lt attends.numbered
      refine ⟨Nat.le_succ _, by rw [jobs], by rw [jobs], fun _ => elsewhere, fun _ => Iff.rfl, ?_⟩
      intro owed
      have sent : ¬ daemon.Unsent number := by
        rintro (requested | working)
        · rw [(workshop.idle inactive).1] at requested
          cases requested
        · exact quiet (busy_of_unsent working)
      obtain ⟨result, member⟩ := queued_of_owed alive sent owed
      refine .inr (.inr ⟨result, ?_⟩)
      rw [jobs]
      exact member
    · intro number attends controls
      rw [idle] at controls
      cases controls
  · trivial

/-- A section of a call keeps the workshop in order and every call at its station. -/
theorem advanceCall_station {state : Manager1} {thread : Nat} {choice : CallChoice}
    (workshop : state.shared.Workshop)
    (stations : ∀ index, state.shared.Station index (state.thread index)) (apart : state.Apart)
    (advanced : advanceCall uniqueName state.shared thread choice (state.thread thread) =
      some (after, own)) :
    after.Workshop ∧ after.Station thread own ∧
      ∀ other, other ≠ thread → after.Station other (state.thread other) := by
  have mine := stations thread
  have claims := apart thread
  have aside (same : state.shared.SameWork after) (station : after.Station thread own) :
      after.Workshop ∧ after.Station thread own ∧
        ∀ other, other ≠ thread → after.Station other (state.thread other) :=
    ⟨workshop.consume same.consumes, station, fun other _ => same.station (stations other)⟩
  generalize state.thread thread = call at advanced mine claims
  cases advanceCall_cases advanced with
  | invoked fresh =>
      refine aside (.refl _) ?_
      rcases fresh_cases fresh with ⟨_, _, rfl⟩ | ⟨_, _, _, rfl⟩ | ⟨_, _, _, rfl⟩ | rfl |
        ⟨_, _, rfl⟩
      · trivial
      · trivial
      · trivial
      · trivial
      · exact .taking
  | @begin sender targetUid phase next after taken =>
      rcases (beginEnrollment_cases taken).work with same |
        ⟨operationId, authorization, rfl, rfl, idle, inactive, unrequested, alive, rfl⟩
      · refine aside same ?_
        cases beginEnrollment_cases taken with
        | admitted fresh empty =>
            refine ⟨List.mem_cons_self, ?_⟩
            intro number smaller named
            exact fresh (named ▸ workshop.known number smaller)
        | _ => trivial
      · refine ⟨workshop.submit inactive mine.1 mine.2, trivial, ?_⟩
        intro other distinct
        refine submitted_station workshop idle inactive alive ?_ (stations other)
        exact fun theirs => distinct ((claims operationId rfl).2 other theirs)
  | cancel taken => exact aside (cancelEnrollment_sameWork taken) trivial
  | ownerChange taken => exact aside (handleOwnerChange_sameWork taken) trivial
  | reap taken => exact aside (reapExpired_sameWork taken) trivial
  | relay taken =>
      have relayed := relay_cases taken
      have consumes := relayed.consumes mine
      refine ⟨workshop.consume consumes, relayed.seated workshop mine, ?_⟩
      intro other distinct
      have theirs := stations other
      unfold EnrollmentDaemon.Station at theirs ⊢
      split at theirs
      · exact Unstarted.consume theirs consumes
      · exact theirs.spare (fun number attends => (relayed.spares mine distinct attends).1)
          (fun number attends => (relayed.spares mine distinct attends).2)
      · trivial

/-- An event keeps the workshop in order and every call at its station. -/
theorem occurEvent_station {event : DaemonEvent} (workshop : daemon.Workshop)
    (occurred : occurEvent daemon event = some after) :
    after.Workshop ∧ ∀ thread call, daemon.Station thread call → after.Station thread call := by
  have aside (same : daemon.SameWork after) :
      after.Workshop ∧ ∀ thread call, daemon.Station thread call → after.Station thread call :=
    ⟨workshop.consume same.consumes, fun _ _ => same.station⟩
  cases event with
  | worker choice =>
      have worked := workerStep_cases occurred
      obtain ⟨jobCount, bridge, issued⟩ := worked.kept
      refine ⟨workshop.work worked, ?_⟩
      intro thread call station
      unfold EnrollmentDaemon.Station at station ⊢
      split at station
      · refine ⟨issued ▸ station.1, ?_⟩
        intro number smaller
        rw [worked.operationId]
        exact station.2 number (jobCount ▸ smaller)
      · refine station.spare ?_ fun number _ held => bridge.trans held
        intro number attends
        refine worked.spares workshop attends.numbered ?_
        rw [attends.taken]
        nofun
      · trivial
  | tick micros =>
      cases occurred
      exact aside (.of_jobs rfl rfl rfl rfl rfl rfl rfl fun _ known => known)
  | shutdown =>
      cases occurred
      exact aside (.of_jobs rfl rfl rfl rfl rfl rfl rfl fun _ known => known)

/-- The workshop is empty at the start. -/
theorem EnrollmentDaemon.initial_workshop (config : ManagementConfig) (clock : Nat) :
    (EnrollmentDaemon.initial config clock).Workshop where
  idle _ := ⟨rfl, fun busy => busy.1 rfl⟩
  apart := nofun
  numbered := nofun
  known := nofun
  distinct := nofun
  bridged := nofun
  bound _ _ queued := by cases queued
  unqueued := nofun
  truthful := nofun
  unsaved := nofun
  sending := nofun
  recorded _ := fun ⟨_, member⟩ => by cases member
  stored := nofun

/-- In every run the workshop is in order and every call at its station. -/
theorem Manager1.stations {allowed : Manager1 → Turn CallChoice DaemonEvent → Prop}
    {config : ManagementConfig} {clock : Nat} {state : Manager1}
    (reached : (manager1 uniqueName).Reaches allowed (Manager1.initial config clock) state) :
    state.shared.Workshop ∧ ∀ index, state.shared.Station index (state.thread index) := by
  have attached := reached.attach fun _ earlier => Manager1.apart earlier
  have stable : (manager1 uniqueName).Stable
      (fun state turn => allowed state turn ∧ Manager1.Apart state)
      EnrollmentDaemon.Workshop fun index daemon call => daemon.Station index call :=
    ⟨fun _ _ _ _ _ workshop stations fits advanced =>
        advanceCall_station workshop stations fits.2 advanced,
      fun _ _ _ workshop stations _ occurred =>
        have kept := occurEvent_station workshop occurred
        ⟨kept.1, fun other => kept.2 other _ (stations other)⟩⟩
  have begins : ∀ index, (EnrollmentDaemon.initial config clock).Station index
      ((Manager1.initial config clock).thread index) := fun _ => trivial
  exact stable.reaches (EnrollmentDaemon.initial_workshop config clock) begins attached

end FaceAuth
