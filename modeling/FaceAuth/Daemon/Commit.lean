import FaceAuth.Daemon.Signals

/-!
# The commit and the public result

The worker commits a template in one place and the coordinator decides the public
result in another. They agree as long as the worker commits for an operation that
is still held, and nothing but its completion ends the operation afterwards.
-/

namespace FaceAuth

open Foundation

namespace EnrollmentDaemon

variable (daemon : EnrollmentDaemon)

/-- The template of the operation that the coordinator holds is committed. -/
def Committed : Prop :=
  ∃ active, daemon.management.coordinator.active = some active ∧ daemon.Saved active.id

instance (operationId : OperationId) : Decidable (daemon.Saved operationId) :=
  decidable_of_iff (daemon.templates.any (fun entry => entry.1 = operationId) = true) <| by
    simp [Saved]

instance (operationId : OperationId) : Decidable (daemon.Holds operationId) :=
  decidable_of_iff (daemon.management.coordinator.active.any
      (fun active => active.id = operationId) = true) <| by
    cases held : daemon.management.coordinator.active <;> simp [Holds, held]

instance : Decidable daemon.Committed :=
  decidable_of_iff (daemon.management.coordinator.active.any
      (fun active => daemon.Saved active.id) = true) <| by
    cases held : daemon.management.coordinator.active <;> simp [Committed, held]

/-- The published results tell which templates were committed. -/
def Agreement : Prop :=
  ∀ operationId result, .completed operationId result ∈ daemon.updates →
    (result = .completed ↔ daemon.Saved operationId)

end EnrollmentDaemon

/-- Storage succeeds, and the worker commits for an operation that the coordinator holds.
When the template of the held operation is committed, no call cancels the operation or
finds it late. -/
def Manager1.Undisputed (state : Manager1) : Turn CallChoice DaemonEvent → Prop
  | .thread index _ =>
      state.shared.Committed → ¬ (state.thread index).Interrupts state.shared
  | .event (.worker (.save stored)) => stored = true ∧
      ∀ number record, state.shared.worker = .committing number record →
        state.shared.Holds (state.shared.jobs number).operationId
  | .event _ => True

instance (state : Manager1) (stored : Bool) :
    Decidable (state.Undisputed (.event (.worker (.save stored)))) := by
  unfold Manager1.Undisputed
  cases state.shared.worker with
  | committing number record =>
      refine decidable_of_iff (stored = true ∧
        state.shared.Holds (state.shared.jobs number).operationId) ?_
      apply and_congr_right
      intro _
      constructor
      · rintro holds other another same
        cases same
        exact holds
      · intro holds
        exact holds number record rfl
  | _ => exact decidable_of_iff (stored = true) ⟨fun done => ⟨done, nofun⟩, And.left⟩

instance (state : Manager1) : DecidablePred state.Undisputed
  | .thread _ _ => inferInstanceAs (Decidable (_ → _))
  | .event (.worker (.save _)) => inferInstance
  | .event (.worker .stop) | .event (.worker .take) | .event (.worker (.report _))
  | .event (.worker (.finish _)) | .event (.worker .proceed) | .event (.tick _)
  | .event .shutdown => isTrue trivial

section Sections

variable {uniqueName : String → Bool} {daemon after : EnrollmentDaemon} {call own : Call}

/-- No call commits a template. -/
theorem advanceCall_templates {thread : Nat} {choice : CallChoice}
    (advanced : advanceCall uniqueName daemon thread choice call = some (after, own)) :
    after.templates = daemon.templates := by
  cases advanceCall_cases advanced with
  | invoked fresh => rfl
  | begin taken =>
      rcases (beginEnrollment_cases taken).work with same |
        ⟨operationId, authorization, -, -, -, -, -, -, rfl⟩
      · exact same.templates
      · rfl
  | cancel taken => exact (cancelEnrollment_sameWork taken).templates
  | ownerChange taken => exact (handleOwnerChange_sameWork taken).templates
  | reap taken => exact (reapExpired_sameWork taken).templates
  | relay taken =>
      cases relay_cases taken with
      | finished controlled finishes =>
          rcases EnrollmentDaemon.finish_cases controlled finishes with ⟨-, rfl⟩ | ⟨-, rfl⟩ <;> rfl
      | _ => rfl

/-- What is saved depends on the templates only. -/
theorem saved_congr (templates : after.templates = daemon.templates)
    (operationId : OperationId) : after.Saved operationId ↔ daemon.Saved operationId := by
  rw [EnrollmentDaemon.Saved, templates, EnrollmentDaemon.Saved]

/-- Only a success is told as one. -/
theorem managementResult_eq_completed_iff {result : Except EnrollmentEngineFailure Unit} :
    managementResult result = .completed ↔ result = .ok () := by
  cases result with
  | ok done => simp [managementResult]
  | error failure => cases failure <;> simp [managementResult]

/-- A section of a call keeps the agreement. -/
theorem EnrollmentDaemon.Agreement.governed {thread : Nat} (agreement : daemon.Agreement)
    (templates : after.templates = daemon.templates) (station : daemon.Station thread call)
    (undisputed : daemon.Committed → ¬ call.Interrupts daemon)
    (governs : Governs daemon call after) : after.Agreement := by
  intro operationId result said
  rw [saved_congr templates]
  have adds {update : ManagementUpdate} (updates : after.updates = daemon.updates ++ [update])
      (new : update = .completed operationId result →
        (result = .completed ↔ daemon.Saved operationId)) :
      result = .completed ↔ daemon.Saved operationId := by
    rw [updates, List.mem_append, List.mem_singleton] at said
    rcases said with earlier | last
    · exact agreement operationId result earlier
    · exact new last.symm
  cases governs with
  | untouched management updates issued =>
      exact agreement operationId result (updates ▸ said)
  | admitted at_ fresh empty management updates issued => exact adds updates nofun
  | spoken held management updates issued => exact adds updates nofun
  | @interrupted active final held interrupts reserved management updates issued =>
      refine adds updates ?_
      intro same
      cases same
      refine iff_of_false ?_ fun saved => undisputed ⟨active, held, saved⟩ interrupts
      rintro rfl
      cases reserved
  | concluded held at_ management updates issued =>
      subst at_
      refine adds updates ?_
      intro same
      cases same
      cases station with
      | completing attends controls sent truthful =>
          exact managementResult_eq_completed_iff.trans truthful
  | erased at_ foreign management updates issued =>
      exact agreement operationId result (updates ▸ said)

/-- A step of the worker keeps the agreement. -/
theorem EnrollmentDaemon.Agreement.work {choice : EnrollmentDaemon.WorkerChoice}
    (agreement : daemon.Agreement) (ledger : daemon.Ledger)
    (held : ∀ stored number record, choice = .save stored →
      daemon.worker = .committing number record → daemon.Holds (daemon.jobs number).operationId)
    (stepped : daemon.workerStep choice = some after) : after.Agreement := by
  cases EnrollmentDaemon.workerStep_cases stepped with
  | @saved number record committing =>
      obtain ⟨stored, storing⟩ : ∃ stored, choice = .save stored := by
        unfold EnrollmentDaemon.workerStep at stepped
        rw [committing] at stepped
        cases choice with
        | save stored => exact ⟨stored, rfl⟩
        | _ => cases stepped
      have holds := held stored number record storing committing
      intro operationId result said
      have other : operationId ≠ (daemon.jobs number).operationId := by
        rintro rfl
        exact ledger.not_completed holds result said
      rw [agreement operationId result said]
      simp [EnrollmentDaemon.Saved, EnrollmentDaemon.withWorker, other]
  | _ => exact agreement

end Sections

variable {uniqueName : String → Bool} {config : ManagementConfig} {clock : Nat}
  {state : Manager1}

/-- In an undisputed run each operation has one public result at most, in the signals as
in the updates, and it is completed exactly if the template of the operation is
committed. -/
theorem Manager1.commit_agreement
    (reached : (manager1 uniqueName).Reaches Manager1.Undisputed (Manager1.initial config clock)
      state) :
    (∀ operationId first second, .completed operationId first ∈ state.shared.updates →
      .completed operationId second ∈ state.shared.updates → first = second) ∧
    (∀ update ∈ state.shared.signals, update ∈ state.shared.updates) ∧
    ∀ operationId result, .completed operationId result ∈ state.shared.updates →
      (result = .completed ↔ ∃ record, (operationId, record) ∈ state.shared.templates) := by
  have known : ∀ state : Manager1, (manager1 uniqueName).Reaches Manager1.Undisputed
      (Manager1.initial config clock) state →
      state.shared.Ledger ∧ ∀ index, state.shared.Station index (state.thread index) :=
    fun _ earlier => ⟨Manager1.ledger earlier, (Manager1.stations earlier).2⟩
  have begins : (EnrollmentDaemon.initial config clock).Agreement := nofun
  have agreement : state.shared.Agreement :=
    (reached.attach known).shared begins
      (fun state index choice _ _ agreement fits advanced =>
        agreement.governed (advanceCall_templates advanced) (fits.2.2 index) fits.1
          (advanceCall_governs advanced))
      (fun state event after agreement fits occurred => by
        cases event with
        | worker choice =>
            refine agreement.work fits.2.1 ?_ occurred
            rintro stored number record rfl committing
            exact fits.1.2 number record committing
        | tick micros =>
            cases occurred
            exact agreement
        | shutdown =>
            cases occurred
            exact agreement)
  exact ⟨fun _ _ _ => (Manager1.ledger reached).unique, (Manager1.outbox reached).heard, agreement⟩

/-- A template is enrolled and its completion is relayed. -/
def enrolledTurns : List (Turn CallChoice DaemonEvent) :=
  begunTurns ++ [.thread 0 (.emitted true),
    .thread 1 (.invoke (.relay 1000 ⟨1⟩ .taking)), .thread 1 .proceed,
    .event (.worker .take), .event (.worker .proceed),
    .event (.worker (.finish (.ok TemplateRecord.test))), .event (.worker .proceed),
    .event (.worker (.save true)), .event (.worker .proceed), .event (.worker .proceed),
    .thread 1 .proceed, .thread 1 .proceed, .thread 1 (.emitted true), .thread 1 .proceed,
    .thread 1 .proceed]

/-- An enrollment that ends well leaves its template. -/
theorem Manager1.commit_agreement_test :
    ∃ record, (⟨1⟩, record) ∈ ((manager1 fun _ => true).after (Manager1.initial .default 0)
      enrolledTurns).shared.templates := by
  have obeys : (manager1 fun _ => true).Obeys Manager1.Undisputed (Manager1.initial .default 0)
      enrolledTurns := by decide +kernel
  have said : .completed ⟨1⟩ .completed ∈ ((manager1 fun _ => true).after
      (Manager1.initial .default 0) enrolledTurns).shared.updates := by decide +kernel
  exact ((Manager1.commit_agreement obeys.reaches).2.2 ⟨1⟩ .completed said).mp rfl

/-- The owner cancels when the worker has made its last check, and the worker commits. -/
def lateCommit : List (Turn CallChoice DaemonEvent) :=
  begunTurns ++ [.thread 0 (.emitted true), .event (.worker .take), .event (.worker .proceed),
    .event (.worker (.finish (.ok TemplateRecord.test))), .event (.worker .proceed),
    .thread 1 (.invoke (.cancel ":1.1" 1000 (some ⟨1⟩) .checking)), .thread 1 (.caller (.ok 1000)),
    .thread 1 .proceed, .thread 1 .proceed, .thread 1 .proceed, .thread 1 (.emitted true),
    .event (.worker (.save true))]

/-- An operation is told to be cancelled although its template is saved. -/
theorem Manager1.cancelled_committed :
    ∃ state, (manager1 fun _ => true).Reaches (fun _ _ => True) (Manager1.initial .default 0)
      state ∧ .completed ⟨1⟩ .cancelled ∈ state.shared.signals ∧ state.shared.Saved ⟨1⟩ := by
  have obeys : (manager1 fun _ => true).Obeys (fun _ _ => True) (Manager1.initial .default 0)
      lateCommit := by decide +kernel
  exact ⟨_, obeys.reaches, by decide +kernel, by decide +kernel⟩

end FaceAuth
