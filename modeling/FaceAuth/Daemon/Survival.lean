import FaceAuth.Daemon.Signals

/-!
# Survival of the enrollment worker

The worker fails when nobody is left to receive the terminal update of its job. The
relay goes away early when the coordinator ends the operation before the worker does.
-/

namespace FaceAuth

open Foundation

/-- The terminal update that the worker owes has a receiver, and the worker has not failed
for the lack of one. -/
structure EnrollmentDaemon.Alert (daemon : EnrollmentDaemon) : Prop where
  listened : ∀ number, daemon.Unsent number →
    (daemon.jobs number).senderAlive = true ∧ (daemon.jobs number).receiver ≠ .dropped
  delivered : ∀ number, daemon.worker ≠ .releasing number false
  surviving : daemon.worker ≠ .stopped (.error .resultReceiverClosed)

/-- A relay that will receive nothing more from its job. -/
def Call.Leaves (number : Nat) : Call → Prop
  | .relay _ _ (.emitting job (.completed _ _)) => job = number
  | .relay _ _ (.finishing job) => job = number
  | .relay _ _ (.dropping job _) => job = number
  | _ => False

/-- As long as the worker owes the terminal update of a job, the relay takes progress of it
to the coordinator only while the coordinator holds the operation and its deadline has not
passed, and the signal is accepted. -/
def Manager1.Attentive (state : Manager1) : Turn CallChoice DaemonEvent → Prop
  | .thread index choice =>
      match state.thread index with
      | .relay targetUid operationId (.handling job (.progress _ _)) =>
          state.shared.Unsent job →
            state.shared.HoldsFor targetUid operationId ∧ ¬ state.shared.Late
      | .relay _ _ (.emitting job (.progress _ _)) =>
          state.shared.Unsent job → choice ≠ .emitted false
      | _ => True
  | .event _ => True

instance (daemon : EnrollmentDaemon) (number : Nat) : Decidable (daemon.Unsent number) :=
  inferInstanceAs (Decidable (_ ∨ _))

instance (state : Manager1) : DecidablePred state.Attentive
  | .thread index choice =>
      decidable_of_iff ((match state.thread index with
        | .relay targetUid operationId (.handling job (.progress _ _)) =>
            decide (state.shared.Unsent job →
              state.shared.HoldsFor targetUid operationId ∧ ¬ state.shared.Late)
        | .relay _ _ (.emitting job (.progress _ _)) =>
            decide (state.shared.Unsent job → choice ≠ .emitted false)
        | _ => true) = true) <| by
        unfold Manager1.Attentive
        dsimp only
        split
        · exact decide_eq_true_iff
        · exact decide_eq_true_iff
        · exact iff_of_true rfl trivial
  | .event _ => isTrue trivial

variable {uniqueName : String → Bool} {daemon after : EnrollmentDaemon} {call own : Call}

/-- What leaves the work leaves the worker alert. -/
theorem EnrollmentDaemon.Alert.same (alert : daemon.Alert) (same : daemon.SameWork after) :
    after.Alert where
  listened number unsent := by
    rw [same.senderAlive, same.receiver]
    exact alert.listened number ((same.consumes.unsent number).mp unsent)
  delivered := same.worker ▸ alert.delivered
  surviving := same.worker ▸ alert.surviving

/-- A step of the worker keeps it alert. -/
theorem EnrollmentDaemon.Alert.work (alert : daemon.Alert) (workshop : daemon.Workshop)
    (worked : daemon.Worked after) : after.Alert where
  listened number unsent := by
    have before : daemon.Unsent number := by
      by_contra sent
      exact worked.sent sent unsent
    obtain ⟨sender, listening⟩ := alert.listened number before
    refine ⟨?_, by rw [worked.receiver]; exact listening⟩
    cases worked with
    | abandoned waiting requested pending =>
        rcases unsent with impossible | impossible <;> cases impossible
    | @reported job count progress reporting =>
        exact (congrArg EnrollmentJob.senderAlive
          (@EnrollmentDaemon.jobs_send daemon job number _)).trans sender
    | @delivered job result sends listening =>
        exact (congrArg EnrollmentJob.senderAlive
          (@EnrollmentDaemon.jobs_send daemon job number _)).trans sender
    | @released job sent releasing =>
        rcases unsent with requested | working
        · have busy : daemon.worker.Busy := by
            rw [releasing]
            exact ⟨nofun, nofun⟩
          exact absurd busy (workshop.apart number requested)
        · cases sent <;> cases working
    | _ => exact sender
  delivered number releasing := by
    cases worked with
    | @undelivered job result sends dropped =>
        exact (alert.listened job (.inr (by rw [sends]; rfl))).2 dropped
    | @judged job result finished =>
        have unsent := @EnrollmentDaemon.unsent_judge daemon job result
        rw [show daemon.judge job result = .releasing number false from releasing] at unsent
        cases unsent
    | @released job sent before => cases sent <;> cases releasing
    | ignored enrolling => exact alert.delivered number releasing
    | _ => cases releasing
  surviving stopped := by
    cases worked with
    | @released job sent releasing =>
        cases sent with
        | true => cases stopped
        | false => exact alert.delivered job releasing
    | @judged job result finished =>
        have unsent := @EnrollmentDaemon.unsent_judge daemon job result
        rw [show daemon.judge job result = .stopped (.error .resultReceiverClosed)
          from stopped] at unsent
        cases unsent
    | ignored enrolling => exact alert.surviving stopped
    | _ => cases stopped

/-- A submission to an idle engine leaves the worker alert. -/
theorem EnrollmentDaemon.Alert.submit (alert : daemon.Alert) (workshop : daemon.Workshop)
    {operationId : OperationId} {targetUid : UInt32} (inactive : daemon.active = false) :
    (daemon.submitted operationId targetUid).Alert where
  listened number unsent := by
    rw [(EnrollmentDaemon.unsent_submitted (workshop.idle inactive).2 number).mp unsent,
      EnrollmentDaemon.jobs_submitted]
    exact ⟨rfl, nofun⟩
  delivered := alert.delivered
  surviving := alert.surviving

/-- What the relay goes on with after progress that the coordinator accepts. -/
theorem relayAnswer_progress {targetUid : UInt32} {operationId : OperationId} {job : Nat}
    {code : ManagementProgress} (held : daemon.HoldsFor targetUid operationId)
    (early : ¬ daemon.Late) :
    (relayAnswer daemon job
      (daemon.management.progress targetUid operationId daemon.clock code)).2 =
        .emitting job (.progress operationId code) := by
  obtain ⟨active, bound⟩ := held
  have before : ¬ active.deadlineMicros ≤ daemon.clock := fun late => early ⟨active, bound.1, late⟩
  rw [ManagementState.progress_of_bound bound, if_neg before]
  rfl

/-- What a section of an attentive relay leaves behind: it goes away from a job only when
the terminal update of the job is sent. -/
theorem Relayed.alert {thread : Nat} {targetUid : UInt32} {operationId : OperationId}
    {phase next : RelayPhase} {choice : CallChoice}
    (relayed : Relayed daemon thread targetUid operationId phase after next)
    (advanced : relay daemon thread targetUid operationId phase choice = some (after, next))
    (seated : daemon.Seated thread operationId phase) (alert : daemon.Alert)
    (leaves : ∀ number, (Call.relay targetUid operationId phase).Leaves number →
      ¬ daemon.Unsent number)
    (progresses : ∀ job code, phase = .handling job (.progress operationId code) →
      daemon.Unsent job → daemon.HoldsFor targetUid operationId ∧ ¬ daemon.Late)
    (accepts : ∀ job code, phase = .emitting job (.progress operationId code) →
      daemon.Unsent job → choice ≠ .emitted false) :
    after.Alert ∧ ∀ number, (Call.relay targetUid operationId next).Leaves number →
      ¬ after.Unsent number := by
  have consumes := relayed.consumes seated
  have kept (senderAlive : ∀ number, daemon.Unsent number →
        (after.jobs number).senderAlive = (daemon.jobs number).senderAlive)
      (receiver : ∀ number, daemon.Unsent number → (daemon.jobs number).receiver ≠ .dropped →
        (after.jobs number).receiver ≠ .dropped) : after.Alert := by
    refine ⟨?_, consumes.worker ▸ alert.delivered, consumes.worker ▸ alert.surviving⟩
    intro number unsent
    have before := (consumes.unsent number).mp unsent
    obtain ⟨sender, listening⟩ := alert.listened number before
    exact ⟨(senderAlive number before).trans sender, receiver number before listening⟩
  have same (jobs : after.jobs = daemon.jobs) : after.Alert :=
    kept (fun _ _ => by rw [jobs]) (fun _ _ listening => by rwa [jobs])
  have gone {number : Nat} (sent : ¬ daemon.Unsent number) : ¬ after.Unsent number :=
    mt (consumes.unsent number).mp sent
  cases relayed with
  | absent error => exact ⟨same rfl, nofun⟩
  | @took operation controlled stored =>
      refine ⟨kept ?_ ?_, nofun⟩
      · intro number _
        rw [EnrollmentDaemon.jobs_receive]
      · intro number _ listening
        rw [EnrollmentDaemon.jobs_receive]
        dsimp only
        split
        · nofun
        · exact listening
  | @received job update queue queued =>
      refine ⟨kept ?_ ?_, nofun⟩
      · intro number _
        rw [EnrollmentDaemon.jobs_tail]
      · intro number _ listening
        rw [EnrollmentDaemon.jobs_tail]
        exact listening
  | @closed job empty dead =>
      refine ⟨same rfl, ?_⟩
      rintro number rfl unsent
      rw [(alert.listened job unsent).1] at dead
      cases dead
  | @progressed job code =>
      refine ⟨same rfl, ?_⟩
      by_cases unsent : daemon.Unsent job
      · obtain ⟨held, early⟩ := progresses job code rfl unsent
        rw [relayAnswer_progress held early]
        nofun
      · unfold relayAnswer
        intro number leaves
        have job_ : job = number := by
          dsimp only at leaves
          split at leaves
          · next update _ =>
              cases update with
              | progress => exact leaves.elim
              | completed => exact leaves
          · exact leaves
          · exact leaves
        exact job_ ▸ gone unsent
  | @completed job result =>
      refine ⟨same rfl, ?_⟩
      cases seated with
      | completing attends controls sent truthful =>
          unfold relayAnswer
          intro number leaves
          have job_ : job = number := by
            dsimp only at leaves
            split at leaves
            · next update _ =>
                cases update with
                | progress => exact leaves.elim
                | completed => exact leaves
            · exact leaves
            · exact leaves
          exact job_ ▸ gone sent
  | misbound other =>
      cases seated with
      | progressing attends controls owed => exact absurd rfl other
      | completing attends controls sent truthful => exact absurd rfl other
  | @emitted job update =>
      refine ⟨same rfl, ?_⟩
      intro number leaves_
      cases update with
      | progress named code => exact leaves_.elim
      | completed named result => exact gone (leaves number leaves_)
  | @unsent job update =>
      refine ⟨same rfl, ?_⟩
      rintro number rfl
      cases seated with
      | speaking attends controls owed =>
          intro unsent
          refine accepts job _ rfl unsent ?_
          cases choice with
          | emitted accepted =>
              cases accepted with
              | false => rfl
              | true =>
                  have goesOn := congrArg Prod.snd (Option.some.inj advanced)
                  cases goesOn
          | _ => cases advanced
      | ending attends controls => exact gone (leaves job rfl)
  | @lost job free => exact ⟨same rfl, fun number leaves_ => gone (leaves number leaves_)⟩
  | @finished job operation after controlled finishes =>
      cases seated with
      | finishing attends controls =>
          obtain ⟨held, -⟩ := EnrollmentDaemon.controlled_eq_some controlled
          rw [controls] at held
          cases held
          rcases EnrollmentDaemon.finish_cases controlled finishes with ⟨stored, -⟩ | ⟨-, rfl⟩
          · rw [attends.taken] at stored
            cases stored
          · exact ⟨same rfl, fun number leaves_ => gone (leaves number leaves_)⟩
  | @dropped job answer =>
      refine ⟨kept ?_ ?_, nofun⟩
      · intro number _
        rw [EnrollmentDaemon.dropReceiver, EnrollmentDaemon.jobs_receive]
      · intro number unsent listening
        have elsewhere : number ≠ job := by
          rintro rfl
          exact leaves number rfl unsent
        rw [EnrollmentDaemon.dropReceiver, EnrollmentDaemon.jobs_receive]
        dsimp only
        rw [if_neg elsewhere]
        exact listening

/-- A call leaves only jobs that were made. -/
theorem leaves_numbered {thread number : Nat} (station : daemon.Station thread call)
    (leaves : call.Leaves number) : number < daemon.jobCount := by
  unfold Call.Leaves at leaves
  split at leaves
  · subst leaves
    cases station with
    | ending attends controls => exact attends.numbered
  · subst leaves
    cases station with
    | finishing attends controls => exact attends.numbered
  · subst leaves
    cases station with
    | dropping attends => exact attends.numbered
  · exact leaves.elim

/-- A section of a call keeps the worker alert, and every relay that leaves a job does so
after its terminal update was sent. -/
theorem advanceCall_alert {state : Manager1} {thread : Nat} {choice : CallChoice}
    (workshop : state.shared.Workshop)
    (stations : ∀ index, state.shared.Station index (state.thread index))
    (attentive : state.Attentive (.thread thread choice)) (alert : state.shared.Alert)
    (leaving : ∀ index number, (state.thread index).Leaves number → ¬ state.shared.Unsent number)
    (advanced : advanceCall uniqueName state.shared thread choice (state.thread thread) =
      some (after, own)) :
    after.Alert ∧ (∀ number, own.Leaves number → ¬ after.Unsent number) ∧
      ∀ other, other ≠ thread → ∀ number, (state.thread other).Leaves number →
        ¬ after.Unsent number := by
  have mine := stations thread
  have myLeaving := leaving thread
  have aside (same : state.shared.SameWork after) (stays : ∀ number, ¬ own.Leaves number) :
      after.Alert ∧ (∀ number, own.Leaves number → ¬ after.Unsent number) ∧
        ∀ other, other ≠ thread → ∀ number, (state.thread other).Leaves number →
          ¬ after.Unsent number :=
    ⟨alert.same same, fun number leaves => absurd leaves (stays number),
      fun other _ number leaves => mt (same.consumes.unsent number).mp
        (leaving other number leaves)⟩
  unfold Manager1.Attentive at attentive
  dsimp only at attentive
  generalize state.thread thread = call at advanced mine myLeaving attentive
  cases advanceCall_cases advanced with
  | invoked fresh =>
      refine aside (.refl _) ?_
      rcases fresh_cases fresh with ⟨_, _, rfl⟩ | ⟨_, _, _, rfl⟩ | ⟨_, _, _, rfl⟩ | rfl |
        ⟨_, _, rfl⟩ <;> exact fun _ => id
  | begin taken =>
      rcases (beginEnrollment_cases taken).work with same |
        ⟨operationId, authorization, rfl, rfl, idle, inactive, unrequested, alive, rfl⟩
      · exact aside same fun _ => id
      · refine ⟨alert.submit workshop inactive, nofun, ?_⟩
        intro other _ number leaves
        rw [EnrollmentDaemon.unsent_submitted (workshop.idle inactive).2]
        exact Nat.ne_of_lt (leaves_numbered (stations other) leaves)
  | cancel taken => exact aside (cancelEnrollment_sameWork taken) fun _ => id
  | ownerChange taken => exact aside (handleOwnerChange_sameWork taken) fun _ => id
  | reap taken => exact aside (reapExpired_sameWork taken) fun _ => id
  | relay taken =>
      have relayed := relay_cases taken
      have consumes := relayed.consumes mine
      obtain ⟨kept, stays⟩ := relayed.alert taken mine alert myLeaving
        (fun job code handles => by
          subst handles
          exact attentive)
        (fun job code emits => by
          subst emits
          exact attentive)
      exact ⟨kept, stays, fun other _ number leaves =>
        mt (consumes.unsent number).mp (leaving other number leaves)⟩

/-- In a run with attentive relays the worker never fails for the lack of a receiver: as
long as it owes the terminal update of a job, the receiver of the job is alive. -/
theorem Manager1.worker_survives {config : ManagementConfig} {clock : Nat} {state : Manager1}
    (reached : (manager1 uniqueName).Reaches Manager1.Attentive (Manager1.initial config clock)
      state) :
    state.shared.worker ≠ .stopped (.error .resultReceiverClosed) ∧
      ∀ number, state.shared.Unsent number →
        (state.shared.jobs number).receiver ≠ .dropped := by
  have known : ∀ state : Manager1, (manager1 uniqueName).Reaches Manager1.Attentive
      (Manager1.initial config clock) state → state.shared.Workshop ∧
        ∀ index, state.shared.Station index (state.thread index) :=
    fun _ earlier => Manager1.stations earlier
  have begins : (EnrollmentDaemon.initial config clock).Alert := by
    refine ⟨?_, nofun, nofun⟩
    rintro number (impossible | impossible) <;> cases impossible
  have stable : (manager1 uniqueName).Stable (fun (state : Manager1) turn =>
      state.Attentive turn ∧ state.shared.Workshop ∧
        ∀ index, state.shared.Station index (state.thread index))
      EnrollmentDaemon.Alert
      fun _ daemon call => ∀ number, call.Leaves number → ¬ daemon.Unsent number := by
    refine ⟨?_, ?_⟩
    · rintro state thread choice after own alert leaving ⟨attentive, workshop, stations⟩ advanced
      exact advanceCall_alert workshop stations attentive alert leaving advanced
    · rintro state event after alert leaving ⟨-, workshop, -⟩ occurred
      cases event with
      | worker choice =>
          have worked := EnrollmentDaemon.workerStep_cases occurred
          exact ⟨alert.work workshop worked,
            fun other number leaves => worked.sent (leaving other number leaves)⟩
      | tick micros =>
          cases occurred
          exact ⟨⟨alert.listened, alert.delivered, alert.surviving⟩, leaving⟩
      | shutdown =>
          cases occurred
          exact ⟨⟨alert.listened, alert.delivered, alert.surviving⟩, leaving⟩
  have idle : ∀ index number, ((Manager1.initial config clock).thread index).Leaves number →
      ¬ (EnrollmentDaemon.initial config clock).Unsent number := fun _ _ leaves => leaves.elim
  have alert := (stable.reaches begins idle (reached.attach known)).1
  exact ⟨alert.surviving, fun number unsent => (alert.listened number unsent).2⟩

/-- The relay takes progress to the coordinator and the worker goes on to its end. -/
def relayedTurns : List (Turn CallChoice DaemonEvent) :=
  begunTurns ++ [.thread 0 (.emitted true),
    .thread 1 (.invoke (.relay 1000 ⟨1⟩ .taking)), .thread 1 .proceed,
    .event (.worker .take), .event (.worker .proceed),
    .event (.worker (.report .positionFace)), .event (.worker .proceed),
    .thread 1 .proceed, .thread 1 .proceed, .thread 1 (.emitted true),
    .event (.worker (.finish (.error .capture))), .event (.worker .proceed),
    .event (.worker .proceed), .event (.worker .proceed)]

/-- The worker is there after its updates were relayed. -/
theorem Manager1.worker_survives_test :
    ((manager1 fun _ => true).after (Manager1.initial .default 0) relayedTurns).shared.worker ≠
      .stopped (.error .resultReceiverClosed) := by
  have obeys : (manager1 fun _ => true).Obeys Manager1.Attentive (Manager1.initial .default 0)
      relayedTurns := by decide
  exact (Manager1.worker_survives obeys.reaches).1

/-- The owner cancels while progress is on its way, the relay returns, and the worker finds
nobody to receive its terminal update. -/
def abandonedTurns : List (Turn CallChoice DaemonEvent) :=
  begunTurns ++ [.thread 0 (.emitted true),
    .thread 1 (.invoke (.relay 1000 ⟨1⟩ .taking)), .thread 1 .proceed,
    .event (.worker .take), .event (.worker .proceed),
    .event (.worker (.report .positionFace)), .event (.worker .proceed),
    .thread 2 (.invoke (.cancel ":1.1" 1000 (some ⟨1⟩) .checking)), .thread 2 (.caller (.ok 1000)),
    .thread 2 .proceed, .thread 2 .proceed, .thread 2 .proceed, .thread 2 (.emitted true),
    .thread 1 .proceed, .thread 1 .proceed, .thread 1 .proceed, .thread 1 .proceed,
    .event (.worker (.finish (.error .cancelled))), .event (.worker .proceed),
    .event (.worker .proceed), .event (.worker .proceed)]

/-- A run of the daemon loses its worker with a receiver. -/
theorem Manager1.worker_fails :
    ∃ state, (manager1 fun _ => true).Reaches (fun _ _ => True) (Manager1.initial .default 0)
      state ∧ state.shared.worker = .stopped (.error .resultReceiverClosed) := by
  have obeys : (manager1 fun _ => true).Obeys (fun _ _ => True) (Manager1.initial .default 0)
      abandonedTurns := by decide
  exact ⟨_, obeys.reaches, rfl⟩

end FaceAuth
