import FaceAuth.Daemon.Manager1

/-!
# The updates of an operation

What one section of a call can do to the coordinator's operation, and from it
what the coordinator says of each operation over a run.
-/

namespace FaceAuth

open Foundation

namespace EnrollmentDaemon

variable (daemon : EnrollmentDaemon)

/-- The coordinator holds an operation with this identifier. -/
def Holds (operationId : OperationId) : Prop :=
  ∃ active, daemon.management.coordinator.active = some active ∧ active.id = operationId

/-- The coordinator holds an operation whose deadline has passed. -/
def Late : Prop :=
  ∃ active, daemon.management.coordinator.active = some active ∧
    active.deadlineMicros ≤ daemon.clock

/-- The coordinator holds the operation with exactly this binding. -/
def HoldsFor (targetUid : UInt32) (operationId : OperationId) : Prop :=
  ∃ active, daemon.management.coordinator.Bound targetUid operationId active

/-- The owner record names the operation. -/
def Recorded (operationId : OperationId) : Prop :=
  ∃ owner, daemon.management.owner = some owner ∧ owner.operationId = operationId

instance (targetUid : UInt32) (operationId : OperationId) :
    Decidable (daemon.HoldsFor targetUid operationId) :=
  decidable_of_iff (daemon.management.coordinator.active.any
      (fun active => active.uid = targetUid ∧ active.id = operationId) = true) <| by
    cases held : daemon.management.coordinator.active <;>
      simp [HoldsFor, ManagementCoordinator.Bound, held]

instance : Decidable daemon.Late :=
  decidable_of_iff (daemon.management.coordinator.active.any
      (fun active => active.deadlineMicros ≤ daemon.clock) = true) <| by
    cases held : daemon.management.coordinator.active <;> simp [Late, held]

end EnrollmentDaemon

/-- A call is at a section that cancels the operation or finds it late. -/
def Call.Interrupts (daemon : EnrollmentDaemon) : Call → Prop
  | .begin _ targetUid (.rollingBack operationId _) => daemon.HoldsFor targetUid operationId
  | .begin _ _ (.withdrawing (.claiming targetUid operationId)) =>
      daemon.HoldsFor targetUid operationId
  | .cancel _ targetUid _ (.claiming operationId) => daemon.HoldsFor targetUid operationId
  | .ownerChange _ _ _ (.cancelling (.claiming targetUid operationId)) =>
      daemon.HoldsFor targetUid operationId
  | .reap .reaping => daemon.Late
  | .relay targetUid operationId (.handling _ _) =>
      daemon.HoldsFor targetUid operationId ∧ daemon.Late
  | _ => False

instance (daemon : EnrollmentDaemon) : DecidablePred (Call.Interrupts daemon) := fun call => by
  cases call with
  | idle => exact isFalse id
  | begin sender targetUid phase =>
      cases phase with
      | rollingBack operationId error =>
          exact inferInstanceAs (Decidable (daemon.HoldsFor targetUid operationId))
      | withdrawing inner =>
          cases inner with
          | claiming targetUid operationId =>
              exact inferInstanceAs (Decidable (daemon.HoldsFor targetUid operationId))
          | _ => exact isFalse id
      | _ => exact isFalse id
  | cancel sender targetUid parsed phase =>
      cases phase with
      | claiming operationId =>
          exact inferInstanceAs (Decidable (daemon.HoldsFor targetUid operationId))
      | _ => exact isFalse id
  | ownerChange name oldOwnerPresent newOwnerPresent phase =>
      cases phase with
      | cancelling inner =>
          cases inner with
          | claiming targetUid operationId =>
              exact inferInstanceAs (Decidable (daemon.HoldsFor targetUid operationId))
          | _ => exact isFalse id
      | _ => exact isFalse id
  | reap phase =>
      cases phase with
      | reaping => exact inferInstanceAs (Decidable daemon.Late)
      | _ => exact isFalse id
  | relay targetUid operationId phase =>
      cases phase with
      | handling job update =>
          exact inferInstanceAs (Decidable (daemon.HoldsFor targetUid operationId ∧ daemon.Late))
      | _ => exact isFalse id

/-- What a section of a call does to the operation of the coordinator, to its owner
record and to the updates. -/
inductive Governs (daemon : EnrollmentDaemon) (call : Call) (after : EnrollmentDaemon) : Prop where
  | untouched (management : after.management = daemon.management)
      (updates : after.updates = daemon.updates) (issued : after.issued = daemon.issued)
  | admitted {sender : String} {targetUid : UInt32} {authorization : AuthorizedEnrollment}
      {operationId : OperationId}
      (at_ : call = .begin sender targetUid (.admitting authorization))
      (fresh : operationId ∉ daemon.issued)
      (empty : daemon.management.coordinator.active = none)
      (management : after.management =
        ⟨{ daemon.management.coordinator with
          active := some (daemon.management.coordinator.opened authorization operationId
            daemon.clock) }, some ⟨sender, targetUid, operationId⟩⟩)
      (updates : after.updates = daemon.updates ++ [.progress operationId .preparing])
      (issued : after.issued = operationId :: daemon.issued)
  | spoken {active : ActiveOperation} {code : ManagementProgress}
      (held : daemon.management.coordinator.active = some active)
      (management : after.management = daemon.management)
      (updates : after.updates = daemon.updates ++ [.progress active.id code])
      (issued : after.issued = daemon.issued)
  | interrupted {active : ActiveOperation} {result : ManagementResult}
      (held : daemon.management.coordinator.active = some active)
      (interrupts : call.Interrupts daemon)
      (reserved : ManagementCoordinator.reserved result = true)
      (management : after.management = ⟨daemon.management.coordinator.emptied, none⟩)
      (updates : after.updates = daemon.updates ++ [.completed active.id result])
      (issued : after.issued = daemon.issued)
  | concluded {active : ActiveOperation} {targetUid : UInt32} {job : Nat}
      {result : Except EnrollmentEngineFailure Unit}
      (held : daemon.management.coordinator.active = some active)
      (at_ : call = .relay targetUid active.id (.handling job (.completed active.id result)))
      (management : after.management = ⟨daemon.management.coordinator.emptied, none⟩)
      (updates : after.updates =
        daemon.updates ++ [.completed active.id (managementResult result)])
      (issued : after.issued = daemon.issued)
  | erased {sender : String} {targetUid : UInt32} {operationId : OperationId}
      {error : BackendError}
      (at_ : call = .begin sender targetUid (.rollingBack operationId error))
      (foreign : daemon.management.coordinator.Foreign targetUid operationId)
      (management : after.management = ⟨daemon.management.coordinator, none⟩)
      (updates : after.updates = daemon.updates) (issued : after.issued = daemon.issued)

section Sections

variable {daemon after : EnrollmentDaemon} {call : Call}

/-- A coordinator's cancellation that only an interrupting call asks for. -/
theorem cancel_governs {targetUid : UInt32} {operationId : OperationId}
    (interrupts : daemon.HoldsFor targetUid operationId → call.Interrupts daemon) :
    Governs daemon call
      (daemon.settle (daemon.management.cancel targetUid operationId daemon.clock)) := by
  rcases daemon.management.coordinator.bound_or_foreign targetUid operationId with
    ⟨active, bound⟩ | foreign
  · rw [ManagementState.cancel_of_bound bound, ← bound.2.2]
    refine .interrupted bound.1 (interrupts ⟨active, bound⟩) ?_ rfl rfl rfl
    split <;> rfl
  · rw [ManagementState.cancel_of_foreign foreign]
    exact .untouched rfl (by simp [Except.toOption]) rfl

/-- Cancelling for a sender goes by the ledger. -/
theorem cancelSender_governs {sender : String} {phase : DisconnectPhase}
    (interrupts : ∀ targetUid operationId, phase = .claiming targetUid operationId →
      daemon.HoldsFor targetUid operationId → call.Interrupts daemon) :
    Governs daemon call (cancelSender daemon sender phase).1 := by
  cases phase with
  | reading =>
      unfold cancelSender
      dsimp only
      split <;> exact .untouched rfl rfl rfl
  | looking targetUid operationId =>
      unfold cancelSender
      dsimp only
      split <;> exact .untouched rfl rfl rfl
  | raising targetUid operationId job => exact .untouched rfl rfl rfl
  | claiming targetUid operationId =>
      have governs : Governs daemon call _ := cancel_governs (interrupts _ _ rfl)
      unfold cancelSender
      dsimp only
      split <;> exact governs
  | settled result => exact .untouched rfl rfl rfl

/-- Rolling back goes by the ledger. -/
theorem rollBack_governs {sender : String} {targetUid : UInt32} {operationId : OperationId}
    {error : BackendError} :
    Governs daemon (.begin sender targetUid (.rollingBack operationId error))
      (daemon.settle (daemon.management.rollBack targetUid operationId daemon.clock)) := by
  unfold ManagementState.rollBack
  rcases daemon.management.coordinator.bound_or_foreign targetUid operationId with
    ⟨active, bound⟩ | foreign
  · rw [ManagementCoordinator.cancel_of_bound bound, ← bound.2.2]
    refine .interrupted bound.1 ?_ ?_ rfl rfl rfl
    · rw [bound.2.2]
      exact ⟨active, bound⟩
    · split <;> rfl
  · rw [ManagementCoordinator.cancel_of_foreign foreign]
    exact .erased rfl foreign rfl (by simp [Except.toOption]) rfl

/-- Beginning an enrollment goes by the ledger. -/
theorem beginEnrollment_governs {sender : String} {targetUid : UInt32}
    {phase next : BeginPhase} (begun : Begun daemon sender targetUid phase after next) :
    Governs daemon (.begin sender targetUid phase) after := by
  cases begun with
  | refused error => exact .untouched rfl rfl rfl
  | checked => exact .untouched rfl rfl rfl
  | authorized bound => exact .untouched rfl rfl rfl
  | admitted fresh empty => exact .admitted rfl fresh empty rfl rfl rfl
  | unstarted error => exact .untouched rfl rfl rfl
  | started idle inactive unrequested alive => exact .untouched rfl rfl rfl
  | rolledBack => exact rollBack_governs
  | announced => exact .untouched rfl rfl rfl
  | unannounced => exact .untouched rfl rfl rfl
  | @withdrawing inner next after answered =>
      have governs : Governs daemon (.begin sender targetUid (.withdrawing inner))
          (cancelSender daemon sender inner).1 :=
        cancelSender_governs fun _ _ claiming held => by
          subst claiming
          exact held
      rwa [answered] at governs
  | @withdrawn inner after result answered =>
      have governs : Governs daemon (.begin sender targetUid (.withdrawing inner))
          (cancelSender daemon sender inner).1 :=
        cancelSender_governs fun _ _ claiming held => by
          subst claiming
          exact held
      rwa [answered] at governs

/-- A call that cancels goes by the ledger. -/
theorem cancelEnrollment_governs {sender : String} {targetUid : UInt32}
    {parsed : Option OperationId} {phase next : CancelPhase} {choice : CallChoice}
    (advanced : cancelEnrollment daemon sender targetUid parsed phase choice =
      some (after, next)) :
    Governs daemon (.cancel sender targetUid parsed phase) after := by
  unfold cancelEnrollment at advanced
  split at advanced
  · split at advanced
    · cases advanced
      exact .untouched rfl rfl rfl
    · split at advanced <;> cases advanced <;> exact .untouched rfl rfl rfl
  · split at advanced <;> cases advanced <;> exact .untouched rfl rfl rfl
  · cases advanced
    exact .untouched rfl rfl rfl
  · next operationId =>
      rcases daemon.management.cancelOwned_cases targetUid operationId daemon.clock sender with
        ⟨error, refused⟩ | ⟨owner, active, owned, same, bound, ended⟩
      · rw [refused] at advanced
        cases advanced
        exact .untouched rfl rfl rfl
      · rw [ended] at advanced
        cases advanced
        rw [← bound.2.2]
        refine .interrupted bound.1 ?_ ?_ rfl rfl rfl
        · rw [bound.2.2]
          exact ⟨active, bound⟩
        · split <;> rfl
  · cases advanced
    rw [EnrollmentDaemon.emit_eq]
    exact .untouched rfl rfl rfl
  · cases advanced

/-- A sender that goes away goes by the ledger. -/
theorem handleOwnerChange_governs {uniqueName : String → Bool} {name : String}
    {oldOwnerPresent newOwnerPresent : Bool} {phase next : WatchPhase} {choice : CallChoice}
    (advanced : handleOwnerChange uniqueName daemon name oldOwnerPresent newOwnerPresent phase
      choice = some (after, next)) :
    Governs daemon (.ownerChange name oldOwnerPresent newOwnerPresent phase) after := by
  unfold handleOwnerChange at advanced
  split at advanced
  · split at advanced <;> cases advanced <;> exact .untouched rfl rfl rfl
  · next inner =>
      have governs : Governs daemon
          (.ownerChange name oldOwnerPresent newOwnerPresent (.cancelling inner))
          (cancelSender daemon name inner).1 :=
        cancelSender_governs fun _ _ claiming held => by
          subst claiming
          exact held
      split at advanced
      · next answered =>
          cases advanced
          rw [answered] at governs
          exact governs
      · next answered =>
          cases advanced
          rw [answered] at governs
          exact governs
      · next answered =>
          cases advanced
          rw [answered] at governs
          exact governs
  · cases advanced
    rw [EnrollmentDaemon.emit_eq]
    exact .untouched rfl rfl rfl
  · cases advanced

/-- Reaping goes by the ledger. -/
theorem reapExpired_governs {phase next : ReapPhase} {choice : CallChoice}
    (advanced : reapExpired daemon phase choice = some (after, next)) :
    Governs daemon (.reap phase) after := by
  unfold reapExpired at advanced
  split at advanced
  · rcases daemon.management.expire_cases daemon.clock with ⟨active, held, late, expired⟩ | idle
    · rw [expired] at advanced
      cases advanced
      exact .interrupted held ⟨active, held, late⟩ rfl rfl rfl rfl
    · rw [idle] at advanced
      cases advanced
      exact .untouched rfl rfl rfl
  · cases advanced
    rw [EnrollmentDaemon.emit_eq]
    exact .untouched rfl rfl rfl
  · cases advanced

/-- Relaying progress goes by the ledger. -/
theorem progress_governs {targetUid : UInt32} {operationId : OperationId} {job : Nat}
    {code : ManagementProgress} :
    Governs daemon (.relay targetUid operationId (.handling job (.progress operationId code)))
      (daemon.settle
        (daemon.management.progress targetUid operationId daemon.clock code)) := by
  rcases daemon.management.coordinator.bound_or_foreign targetUid operationId with
    ⟨active, bound⟩ | foreign
  · rw [ManagementState.progress_of_bound bound]
    by_cases late : active.deadlineMicros ≤ daemon.clock
    · rw [if_pos late, ← bound.2.2]
      refine .interrupted bound.1 ?_ rfl rfl rfl rfl
      rw [bound.2.2]
      exact ⟨⟨active, bound⟩, active, bound.1, late⟩
    · rw [if_neg late, ← bound.2.2]
      exact .spoken bound.1 rfl rfl rfl
  · rw [ManagementState.progress_of_foreign foreign]
    exact .untouched rfl (by simp [Except.toOption]) rfl

/-- Relaying a terminal goes by the ledger. -/
theorem complete_governs {targetUid : UInt32} {operationId : OperationId} {job : Nat}
    {result : Except EnrollmentEngineFailure Unit} :
    Governs daemon (.relay targetUid operationId (.handling job (.completed operationId result)))
      (daemon.settle
        (daemon.management.complete targetUid operationId daemon.clock
          (managementResult result))) := by
  cases kept : ManagementCoordinator.reserved (managementResult result) with
  | true =>
      rw [ManagementState.complete_of_reserved kept]
      exact .untouched rfl (by simp [Except.toOption]) rfl
  | false =>
      rcases daemon.management.coordinator.bound_or_foreign targetUid operationId with
        ⟨active, bound⟩ | foreign
      · rw [ManagementState.complete_of_bound bound kept]
        obtain ⟨held, account, rfl⟩ := bound
        by_cases late : active.deadlineMicros ≤ daemon.clock
        · rw [if_pos late]
          exact .interrupted held ⟨⟨active, held, account, rfl⟩, active, held, late⟩ rfl rfl rfl rfl
        · rw [if_neg late]
          exact .concluded held rfl rfl rfl rfl
      · rw [ManagementState.complete_of_foreign foreign kept]
        exact .untouched rfl (by simp [Except.toOption]) rfl

/-- A relay goes by the ledger. -/
theorem relay_governs {thread : Nat} {targetUid : UInt32} {operationId : OperationId}
    {phase next : RelayPhase}
    (relayed : Relayed daemon thread targetUid operationId phase after next) :
    Governs daemon (.relay targetUid operationId phase) after := by
  cases relayed with
  | absent error => exact .untouched rfl rfl rfl
  | took controlled stored => exact .untouched rfl rfl rfl
  | received queued => exact .untouched rfl rfl rfl
  | closed empty gone => exact .untouched rfl rfl rfl
  | progressed => exact progress_governs
  | completed => exact complete_governs
  | misbound other => exact .untouched rfl rfl rfl
  | emitted => exact .untouched rfl rfl rfl
  | unsent => exact .untouched rfl rfl rfl
  | lost free => exact .untouched rfl rfl rfl
  | finished controlled finishes =>
      rw [EnrollmentDaemon.finish, controlled] at finishes
      dsimp only at finishes
      split at finishes <;> cases finishes <;> exact .untouched rfl rfl rfl
  | dropped => exact .untouched rfl rfl rfl

/-- What a section can do to the operation, its owner record and the updates. -/
theorem advanceCall_governs {uniqueName : String → Bool} {thread : Nat} {choice : CallChoice}
    {own : Call} (advanced : advanceCall uniqueName daemon thread choice call =
      some (after, own)) : Governs daemon call after := by
  cases advanceCall_cases advanced with
  | invoked fresh => exact .untouched rfl rfl rfl
  | begin taken => exact beginEnrollment_governs (beginEnrollment_cases taken)
  | cancel taken => exact cancelEnrollment_governs taken
  | ownerChange taken => exact handleOwnerChange_governs taken
  | reap taken => exact reapExpired_governs taken
  | relay taken => exact relay_governs (relay_cases taken)

end Sections

/-! ## What the coordinator says of an operation -/

namespace EnrollmentDaemon

variable (daemon : EnrollmentDaemon)

/-- The updates of one operation, in the order of the lock. -/
def history (operationId : OperationId) : List ManagementUpdate :=
  daemon.updates.filter fun update => update.operationId = operationId

/-- The first update of an operation and the progress after it. -/
def opening (operationId : OperationId) (codes : List ManagementProgress) :
    List ManagementUpdate :=
  .progress operationId .preparing :: codes.map (.progress operationId)

/-- What the coordinator has said of an operation: nothing before it begins, progress
while it is held, and one terminal update that is the last. -/
inductive Chronicle (operationId : OperationId) : Prop where
  | unknown (fresh : operationId ∉ daemon.issued) (free : ¬ daemon.Holds operationId)
      (told : daemon.history operationId = [])
  | running (known : operationId ∈ daemon.issued) (held : daemon.Holds operationId)
      (codes : List ManagementProgress)
      (told : daemon.history operationId = opening operationId codes)
  | closed (known : operationId ∈ daemon.issued) (free : ¬ daemon.Holds operationId)
      (codes : List ManagementProgress) (result : ManagementResult)
      (told : daemon.history operationId =
        opening operationId codes ++ [.completed operationId result])

/-- The coordinator's record of every operation. -/
def Ledger : Prop := ∀ operationId, daemon.Chronicle operationId

variable {daemon} {after : EnrollmentDaemon} {call : Call}

/-- An update of the operation comes last in its history. -/
theorem history_append_self {update : ManagementUpdate} {operationId : OperationId}
    (updates : after.updates = daemon.updates ++ [update])
    (same : update.operationId = operationId) :
    after.history operationId = daemon.history operationId ++ [update] := by
  rw [history, updates, List.filter_append, history]
  simp [same]

/-- An update of another operation leaves the history. -/
theorem history_append_other {update : ManagementUpdate} {operationId : OperationId}
    (updates : after.updates = daemon.updates ++ [update])
    (other : update.operationId ≠ operationId) :
    after.history operationId = daemon.history operationId := by
  rw [history, updates, List.filter_append, history]
  simp [other]

/-- One more report of an operation that is open. -/
theorem opening_append (operationId : OperationId) (codes : List ManagementProgress)
    (code : ManagementProgress) :
    opening operationId codes ++ [.progress operationId code] =
      opening operationId (codes ++ [code]) := by
  simp [opening]

/-- The operation that is held is the active one. -/
theorem holds_of_active {active : ActiveOperation}
    (held : daemon.management.coordinator.active = some active) (operationId : OperationId) :
    daemon.Holds operationId ↔ active.id = operationId := by
  constructor
  · rintro ⟨other, same, named⟩
    rw [held] at same
    cases same
    exact named
  · intro named
    exact ⟨active, held, named⟩

/-- Without an active operation none is held. -/
theorem not_holds_of_empty (empty : daemon.management.coordinator.active = none)
    (operationId : OperationId) : ¬ daemon.Holds operationId := by
  rintro ⟨active, held, -⟩
  rw [empty] at held
  cases held

/-- What is held depends on the coordinator only. -/
theorem holds_congr (coordinator : after.management.coordinator = daemon.management.coordinator)
    (operationId : OperationId) : after.Holds operationId ↔ daemon.Holds operationId := by
  rw [Holds, coordinator, Holds]

/-- A chronicle stays as it is where nothing is said of its operation. -/
theorem Chronicle.congr {operationId : OperationId} (chronicle : daemon.Chronicle operationId)
    (holds : after.Holds operationId ↔ daemon.Holds operationId)
    (told : after.history operationId = daemon.history operationId)
    (issued : operationId ∈ after.issued ↔ operationId ∈ daemon.issued) :
    after.Chronicle operationId := by
  cases chronicle with
  | unknown fresh free silent =>
      exact .unknown (mt issued.mp fresh) (mt holds.mp free) (told.trans silent)
  | running known held codes said =>
      exact .running (issued.mpr known) (holds.mpr held) codes (told.trans said)
  | closed known free codes result said =>
      exact .closed (issued.mpr known) (mt holds.mp free) codes result (told.trans said)

/-- The terminal update of the held operation closes its chronicle. -/
theorem Ledger.end_ (ledger : daemon.Ledger) {active : ActiveOperation}
    {result : ManagementResult} (held : daemon.management.coordinator.active = some active)
    (empty : after.management.coordinator.active = none)
    (updates : after.updates = daemon.updates ++ [.completed active.id result])
    (issued : after.issued = daemon.issued) : after.Ledger := by
  intro operationId
  have free := not_holds_of_empty empty operationId
  by_cases same : active.id = operationId
  · have holds := (holds_of_active held operationId).mpr same
    have told := history_append_self updates same
    subst same
    cases ledger active.id with
    | unknown fresh absent silent => exact absurd holds absent
    | running known held codes said =>
        apply Chronicle.closed (issued ▸ known) free codes result
        rw [told, said]
    | closed known absent codes earlier said => exact absurd holds absent
  · have other : ¬ daemon.Holds operationId := mt (holds_of_active held operationId).mp same
    exact (ledger operationId).congr (iff_of_false free other)
      (history_append_other updates same) (by rw [issued])

/-- A section of a call keeps the record. -/
theorem Ledger.governed (ledger : daemon.Ledger) (governs : Governs daemon call after) :
    after.Ledger := by
  cases governs with
  | untouched management updates issued =>
      intro operationId
      apply (ledger operationId).congr (holds_congr (by rw [management]) operationId)
      · rw [history, updates, history]
      · rw [issued]
  | @admitted sender targetUid authorization begun at_ fresh empty management updates issued =>
      intro operationId
      have active : after.management.coordinator.active =
          some (daemon.management.coordinator.opened authorization begun daemon.clock) := by
        rw [management]
      have holds := holds_of_active active operationId
      have free := not_holds_of_empty empty operationId
      by_cases same : begun = operationId
      · subst same
        have told : after.history begun =
            daemon.history begun ++ [.progress begun .preparing] :=
          history_append_self updates rfl
        cases ledger begun with
        | unknown absent released silent =>
            apply Chronicle.running (by rw [issued]; exact List.mem_cons_self) (holds.mpr rfl) []
            exact told.trans (by rw [silent]; rfl)
        | running known held codes said => exact absurd known fresh
        | closed known released codes result said => exact absurd known fresh
      · have other : ¬ after.Holds operationId := mt holds.mp same
        apply (ledger operationId).congr (iff_of_false other free)
          (history_append_other updates same)
        rw [issued, List.mem_cons]
        exact or_iff_right (Ne.symm same)
  | @spoken active code held management updates issued =>
      intro operationId
      have holds : after.Holds operationId ↔ daemon.Holds operationId :=
        holds_congr (by rw [management]) operationId
      by_cases same : active.id = operationId
      · have told := history_append_self updates same
        have live := (holds_of_active held operationId).mpr same
        subst same
        cases ledger active.id with
        | unknown fresh free silent => exact absurd live free
        | running known live codes said =>
            apply Chronicle.running (issued ▸ known) (holds.mpr live) (codes ++ [code])
            rw [told, said, opening_append]
        | closed known free codes result said => exact absurd live free
      · exact (ledger operationId).congr holds (history_append_other updates same)
          (by rw [issued])
  | interrupted held interrupts reserved management updates issued =>
      exact ledger.end_ held (by rw [management]; rfl) updates issued
  | concluded held at_ management updates issued =>
      exact ledger.end_ held (by rw [management]; rfl) updates issued
  | erased at_ foreign management updates issued =>
      intro operationId
      apply (ledger operationId).congr (holds_congr (by rw [management]) operationId)
      · rw [history, updates, history]
      · rw [issued]

/-- The ledger is empty at the start. -/
theorem initial_ledger (config : ManagementConfig) (clock : Nat) :
    (EnrollmentDaemon.initial config clock).Ledger := by
  intro operationId
  apply Chronicle.unknown List.not_mem_nil
  · exact not_holds_of_empty rfl operationId
  · rfl

/-- The worker does not change what the coordinator holds and has said. -/
theorem Worked.untouched (worked : daemon.Worked after) :
    after.management = daemon.management ∧ after.updates = daemon.updates ∧
      after.issued = daemon.issued := by
  cases worked <;> exact ⟨rfl, rfl, rfl⟩

/-- What happens apart from the calls goes by the ledger. -/
theorem occurEvent_governs {event : DaemonEvent} (occurred : occurEvent daemon event = some after) :
    Governs daemon .idle after := by
  cases event with
  | worker choice =>
      obtain ⟨management, updates, issued⟩ := (workerStep_cases occurred).untouched
      exact .untouched management updates issued
  | tick micros =>
      cases occurred
      exact .untouched rfl rfl rfl
  | shutdown =>
      cases occurred
      exact .untouched rfl rfl rfl

/-- A terminal that was said is in the history of its operation. -/
theorem mem_history {operationId : OperationId} {result : ManagementResult}
    (said : .completed operationId result ∈ daemon.updates) :
    .completed operationId result ∈ daemon.history operationId :=
  List.mem_filter.mpr ⟨said, decide_eq_true rfl⟩

/-- An open operation has no terminal. -/
theorem completed_not_mem_opening {operationId named : OperationId}
    {codes : List ManagementProgress} {result : ManagementResult} :
    .completed named result ∉ opening operationId codes := by
  simp [opening]

/-- Nothing terminal was said of an operation that is held. -/
theorem Ledger.not_completed (ledger : daemon.Ledger) {operationId : OperationId}
    (held : daemon.Holds operationId) (result : ManagementResult) :
    .completed operationId result ∉ daemon.updates := by
  intro said
  have told := mem_history said
  cases ledger operationId with
  | unknown fresh free silent => exact free held
  | running known held codes said =>
      rw [said] at told
      exact completed_not_mem_opening told
  | closed known free codes result said => exact free held

/-- Each operation has at most one terminal update. -/
theorem Ledger.unique (ledger : daemon.Ledger) {operationId : OperationId}
    {first second : ManagementResult}
    (one : .completed operationId first ∈ daemon.updates)
    (two : .completed operationId second ∈ daemon.updates) : first = second := by
  have one := mem_history one
  have two := mem_history two
  cases ledger operationId with
  | unknown fresh free told =>
      rw [told] at one
      cases one
  | running known held codes told =>
      rw [told] at one
      exact absurd one completed_not_mem_opening
  | closed known free codes result told =>
      rw [told, List.mem_append] at one two
      have first_ := one.resolve_left completed_not_mem_opening
      have second_ := two.resolve_left completed_not_mem_opening
      cases List.mem_singleton.mp first_
      cases List.mem_singleton.mp second_
      rfl

/-- An operation whose terminal update was said is told to its end. -/
theorem Ledger.told (ledger : daemon.Ledger) {operationId : OperationId}
    {result : ManagementResult} (said : .completed operationId result ∈ daemon.updates) :
    operationId ∈ daemon.issued ∧ ¬ daemon.Holds operationId ∧ ∃ codes,
      daemon.history operationId =
        opening operationId codes ++ [.completed operationId result] := by
  cases ledger operationId with
  | unknown fresh free silent =>
      have told := mem_history said
      rw [silent] at told
      cases told
  | running known held codes whole => exact absurd said (ledger.not_completed held result)
  | closed known free codes last whole =>
      have ended : .completed operationId last ∈ daemon.updates := by
        apply List.mem_of_mem_filter
        rw [show daemon.updates.filter _ = _ from whole]
        exact List.mem_append_right _ List.mem_cons_self
      rw [ledger.unique said ended]
      exact ⟨known, free, codes, whole⟩

/-- A terminal update that is said has not been said before. -/
theorem Ledger.fresh (ledger : after.Ledger) {operationId : OperationId}
    {result : ManagementResult}
    (updates : after.updates = daemon.updates ++ [.completed operationId result])
    (earlier : ManagementResult) : .completed operationId earlier ∉ daemon.updates := by
  intro said
  have told : after.history operationId = _ := history_append_self updates rfl
  have before := mem_history said
  cases ledger operationId with
  | unknown fresh free silent =>
      rw [silent] at told
      simp at told
  | running known held codes whole =>
      have last : .completed operationId result ∈ after.history operationId := by
        rw [told]
        exact List.mem_append_right _ List.mem_cons_self
      rw [whole] at last
      exact completed_not_mem_opening last
  | closed known free codes final whole =>
      rw [whole] at told
      rw [← (List.append_inj' told rfl).1] at before
      exact completed_not_mem_opening before

/-- Progress is said before the terminal update. -/
theorem Ledger.open_ (ledger : after.Ledger) {operationId : OperationId}
    {code : ManagementProgress}
    (updates : after.updates = daemon.updates ++ [.progress operationId code])
    (earlier : ManagementResult) : .completed operationId earlier ∉ daemon.updates := by
  intro said
  have told : after.history operationId = _ := history_append_self updates rfl
  have before := mem_history said
  cases ledger operationId with
  | unknown fresh free silent =>
      rw [silent] at told
      simp at told
  | running known held codes whole =>
      rw [whole] at told
      exact completed_not_mem_opening (told ▸ List.mem_append_left _ before)
  | closed known free codes final whole =>
      rw [whole] at told
      cases (List.append_inj' told rfl).2

/-- The coordinator comes to hold no operation that was issued before. -/
theorem holds_of_governs (governs : Governs daemon call after) {operationId : OperationId}
    (known : operationId ∈ daemon.issued) (held : after.Holds operationId) :
    daemon.Holds operationId := by
  have congr (management : after.management.coordinator = daemon.management.coordinator) :
      daemon.Holds operationId := (holds_congr management operationId).mp held
  cases governs with
  | untouched management updates issued => exact congr (by rw [management])
  | admitted at_ fresh empty management updates issued =>
      have same := (holds_of_active (by rw [management]) operationId).mp held
      exact absurd known (same ▸ fresh)
  | spoken active management updates issued => exact congr (by rw [management])
  | interrupted active interrupts reserved management updates issued =>
      exact absurd held (not_holds_of_empty (by rw [management]; rfl) operationId)
  | concluded active at_ management updates issued =>
      exact absurd held (not_holds_of_empty (by rw [management]; rfl) operationId)
  | erased at_ foreign management updates issued => exact congr (by rw [management])

/-- The owner record comes to name no operation that was issued before. -/
theorem recorded_of_governs (governs : Governs daemon call after) {operationId : OperationId}
    (known : operationId ∈ daemon.issued) (recorded : after.Recorded operationId) :
    daemon.Recorded operationId := by
  obtain ⟨owner, held, named⟩ := recorded
  cases governs with
  | untouched management updates issued => exact ⟨owner, management ▸ held, named⟩
  | spoken active management updates issued => exact ⟨owner, management ▸ held, named⟩
  | admitted at_ fresh empty management updates issued =>
      rw [management] at held
      cases held
      exact absurd known (named ▸ fresh)
  | interrupted active interrupts reserved management updates issued =>
      rw [management] at held
      cases held
  | concluded active at_ management updates issued =>
      rw [management] at held
      cases held
  | erased at_ foreign management updates issued =>
      rw [management] at held
      cases held

/-- What is said stays said. -/
theorem said_of_governs (governs : Governs daemon call after)
    {update : ManagementUpdate} (said : update ∈ daemon.updates) : update ∈ after.updates := by
  cases governs with
  | untouched management updates issued => rwa [updates]
  | admitted at_ fresh empty management updates issued =>
      rw [updates]
      exact List.mem_append_left _ said
  | spoken held management updates issued =>
      rw [updates]
      exact List.mem_append_left _ said
  | interrupted held interrupts reserved management updates issued =>
      rw [updates]
      exact List.mem_append_left _ said
  | concluded held at_ management updates issued =>
      rw [updates]
      exact List.mem_append_left _ said
  | erased at_ foreign management updates issued => rwa [updates]

/-- Of every issued operation the first progress was said. -/
theorem Ledger.prepared (ledger : daemon.Ledger) {operationId : OperationId}
    (known : operationId ∈ daemon.issued) :
    .progress operationId .preparing ∈ daemon.updates := by
  have first (codes : List ManagementProgress) :
      .progress operationId .preparing ∈ opening operationId codes := List.mem_cons_self
  cases ledger operationId with
  | unknown fresh free told => exact absurd known fresh
  | running known held codes told =>
      exact List.mem_of_mem_filter (told ▸ first codes)
  | closed known free codes result told =>
      exact List.mem_of_mem_filter (told ▸ List.mem_append_left _ (first codes))

end EnrollmentDaemon

/-- The coordinator's record is kept in every run. -/
theorem Manager1.ledger {uniqueName : String → Bool}
    {allowed : Manager1 → Turn CallChoice DaemonEvent → Prop} {config : ManagementConfig}
    {clock : Nat} {state : Manager1}
    (reached : (manager1 uniqueName).Reaches allowed (Manager1.initial config clock) state) :
    state.shared.Ledger :=
  reached.shared (EnrollmentDaemon.initial_ledger config clock)
    (fun _ _ _ _ _ ledger _ advanced => ledger.governed (advanceCall_governs advanced))
    (fun _ _ _ ledger _ occurred => ledger.governed (EnrollmentDaemon.occurEvent_governs occurred))

end FaceAuth
