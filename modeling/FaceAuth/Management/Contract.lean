import FaceAuth.Foundation.Run
import FaceAuth.Management.Coordinator
import Mathlib.Data.List.Nodup
import Mathlib.Data.List.Count

/-!
# The contract of the management coordinator over whole runs

Every public operation of the coordinator is one step, the relation says what
such a step can do, and every finite sequence of operations on a fresh
coordinator keeps the one-slot lifecycle of enrollment operations.
-/

namespace FaceAuth

open Foundation

/-- A call on the coordinator. A start presents the grant that its authorization
is taken from and the identifier that is generated for it. -/
inductive ManagementOperation where
  | start (grant : AuthorizationGrant) (generated : OperationId) (nowMicros : Nat)
  | progress (uid : UInt32) (operationId : OperationId) (code : ManagementProgress)
      (nowMicros : Nat)
  | cancel (uid : UInt32) (operationId : OperationId) (nowMicros : Nat)
  | complete (uid : UInt32) (operationId : OperationId) (result : ManagementResult)
      (nowMicros : Nat)
  | expire (nowMicros : Nat)
deriving DecidableEq, Repr

/-- What a call on the coordinator returns. -/
inductive ManagementReply where
  | answered (result : Except ManagementError ManagementUpdate)
  | reaped (update : Option ManagementUpdate)

namespace ManagementReply

/-- The update a reply publishes. -/
def update? : ManagementReply → Option ManagementUpdate
  | .answered (.ok update) => some update
  | .answered (.error _) => none
  | .reaped update => update

/-- The error a reply reports to the caller. -/
def error? : ManagementReply → Option ManagementError
  | .answered (.error error) => some error
  | .answered (.ok _) => none
  | .reaped _ => none

/-- The operation that a reply completes. -/
def completed? (reply : ManagementReply) : Option OperationId :=
  match reply.update? with
  | some (.completed operationId _) => some operationId
  | some (.progress _ _) => none
  | none => none

/-- A reply with a completion completes its operation. -/
theorem completed?_eq_some {reply : ManagementReply} {operationId : OperationId}
    {result : ManagementResult} (spoken : reply.update? = some (.completed operationId result)) :
    reply.completed? = some operationId := by
  rw [completed?, spoken]

/-- A reply without an update completes nothing. -/
theorem completed?_eq_none {reply : ManagementReply} (quiet : reply.update? = none) :
    reply.completed? = none := by
  rw [completed?, quiet]

end ManagementReply

namespace ManagementOperation

/-- The identifier that was generated for an operation. -/
def generated? : ManagementOperation → Option OperationId
  | .start _ generated _ => some generated
  | _ => none

/-- The exact binding an operation presents. -/
def binding? : ManagementOperation → Option (UInt32 × OperationId)
  | .progress uid operationId _ _ => some (uid, operationId)
  | .cancel uid operationId _ => some (uid, operationId)
  | .complete uid operationId _ _ => some (uid, operationId)
  | _ => none

/-- The operation asks for a result that is the coordinator's own. -/
def reserved : ManagementOperation → Bool
  | .complete _ _ result _ => ManagementCoordinator.reserved result
  | _ => false

/-- The clock an operation shows to the active one: that of its owner's progress,
cancel and unreserved complete, and that of every expiry. -/
def clockFor (active : ActiveOperation) : ManagementOperation → Option Nat
  | .start _ _ _ => none
  | .progress uid operationId _ nowMicros =>
      if active.uid = uid ∧ active.id = operationId then some nowMicros else none
  | .cancel uid operationId nowMicros =>
      if active.uid = uid ∧ active.id = operationId then some nowMicros else none
  | .complete uid operationId result nowMicros =>
      if active.uid = uid ∧ active.id = operationId ∧
          ManagementCoordinator.reserved result = false then
        some nowMicros
      else none
  | .expire nowMicros => some nowMicros

end ManagementOperation

/-- One recorded call on the coordinator. -/
abbrev ManagementEntry := Entry ManagementCoordinator ManagementOperation ManagementReply

/-- The operation that an entry starts. -/
def startedBy (entry : ManagementEntry) : Option OperationId :=
  if entry.output.update?.isSome then entry.action.generated? else none

/-- The grant came from root, for exactly the enrollment service and the Polkit purpose. -/
structure AuthorizationGrant.ForEnrollment (grant : AuthorizationGrant) : Prop where
  root : grant.peer.uid = 0
  service : grant.service.value = ENROLLMENT_SERVICE
  purpose : grant.purpose = .polkit

namespace AuthorizedEnrollment

variable {grant : AuthorizationGrant}

/-- A grant for an enrollment authorizes it. -/
theorem fromGrant_of_forEnrollment (enrolls : grant.ForEnrollment) :
    fromGrant grant = .ok ⟨grant.targetUid⟩ := by
  simp [fromGrant, enrolls.root, enrolls.service, enrolls.purpose]

/-- Any other grant is refused. -/
theorem fromGrant_of_not_forEnrollment (foreign : ¬ grant.ForEnrollment) :
    fromGrant grant = .error .unauthorized := by
  unfold fromGrant
  split
  · rfl
  · rename_i same
    simp only [not_or, Decidable.not_not] at same
    exact (foreign ⟨same.1, same.2.1, same.2.2⟩).elim

/-- An authorization is from a grant for the enrollment of its account. -/
theorem fromGrant_eq_ok {authorization : AuthorizedEnrollment}
    (admitted : fromGrant grant = .ok authorization) :
    grant.ForEnrollment ∧ authorization.targetUid = grant.targetUid := by
  by_cases enrolls : grant.ForEnrollment
  · rw [fromGrant_of_forEnrollment enrolls] at admitted
    cases admitted
    exact ⟨enrolls, rfl⟩
  · rw [fromGrant_of_not_forEnrollment enrolls] at admitted
    cases admitted

end AuthorizedEnrollment

/-- The history holds the start that installed the operation, for the target account of an
enrollment grant and with a deadline that is fixed from then on, and nothing after that
start has touched it. -/
def ActiveOperation.OpenedIn (config : ManagementConfig) (history : List ManagementEntry)
    (active : ActiveOperation) : Prop :=
  ∃ earlier opening segment grant nowMicros, history = earlier ++ opening :: segment ∧
    opening.action = .start grant active.id nowMicros ∧ grant.ForEnrollment ∧
    active.uid = grant.targetUid ∧
    active.deadlineMicros = nowMicros + config.operationDurationMicros ∧
    opening.output.update? = some (.progress active.id .preparing) ∧
    opening.before.active = none ∧ opening.after.active = some active ∧
    ∀ later ∈ segment, later.before.active = some active ∧ later.after.active = some active

/-- What every history of calls on a coordinator of this configuration satisfies. -/
structure ManagementContract (config : ManagementConfig) (entries : List ManagementEntry) :
    Prop where
  /-- There are at most as many completions of an identifier as starts of it. -/
  completedPerStart : ∀ operationId,
    entries.countP (fun entry => entry.output.completed? = some operationId) ≤
      entries.countP (fun entry => startedBy entry = some operationId)
  /-- With fresh identifiers every operation is completed at most once. -/
  completedOnce : (entries.filterMap fun entry => entry.action.generated?).Nodup →
    ∀ operationId, entries.countP (fun entry => entry.output.completed? = some operationId) ≤ 1
  /-- A completion speaks for the active operation and frees the slot. -/
  completedOwn : ∀ entry ∈ entries, ∀ operationId,
    entry.output.completed? = some operationId →
      (∃ active, entry.before.active = some active ∧ active.id = operationId) ∧
      entry.after.active = none
  /-- A foreign binding is refused with the first check it fails, and changes nothing. -/
  foreignRefused : ∀ entry ∈ entries, ∀ uid operationId,
    entry.action.binding? = some (uid, operationId) → entry.before.Foreign uid operationId →
      entry.output.error? =
        some (if entry.action.reserved then .reservedResult else entry.before.refusal uid) ∧
      entry.after = entry.before
  /-- A reserved result is refused and changes nothing, whoever asks. -/
  reservedRefused : ∀ entry ∈ entries, entry.action.reserved = true →
    entry.output.error? = some .reservedResult ∧ entry.after = entry.before
  /-- At or after the deadline the owner and the reaper time the operation out. -/
  deadlineTimesOut : ∀ entry ∈ entries, ∀ active nowMicros,
    entry.before.active = some active → entry.action.clockFor active = some nowMicros →
    active.deadlineMicros ≤ nowMicros →
      entry.output.update? = some (.completed active.id .timedOut) ∧ entry.after.active = none
  /-- A timeout is only answered at or after the deadline. -/
  timedOutLate : ∀ entry ∈ entries, ∀ operationId,
    entry.output.update? = some (.completed operationId .timedOut) →
      ∃ active nowMicros, entry.before.active = some active ∧ active.id = operationId ∧
        entry.action.clockFor active = some nowMicros ∧ active.deadlineMicros ≤ nowMicros
  /-- Only `cancel` answers with a cancellation. -/
  cancelledByCancel : ∀ entry ∈ entries, ∀ operationId,
    entry.output.update? = some (.completed operationId .cancelled) →
      ∃ uid nowMicros, entry.action = .cancel uid operationId nowMicros
  /-- A start on the occupied slot is refused and changes nothing. -/
  busyRefused : ∀ entry ∈ entries, ∀ grant generated nowMicros,
    entry.action = .start grant generated nowMicros → grant.ForEnrollment →
    entry.before.active ≠ none →
      entry.output.error? = some .busy ∧ entry.after = entry.before
  /-- A start without an enrollment grant is refused and changes nothing. -/
  unauthorizedRefused : ∀ entry ∈ entries, ∀ grant generated nowMicros,
    entry.action = .start grant generated nowMicros → ¬ grant.ForEnrollment →
      entry.output.error? = some .unauthorized ∧ entry.after = entry.before
  /-- The active operation of every state is the one that an authorized start installed. -/
  activeOpened : ∀ left entry right active, entries = left ++ entry :: right →
    entry.before.active = some active → active.OpenedIn config left

namespace ManagementCoordinator

/-- One call on the coordinator. -/
def step (coordinator : ManagementCoordinator) :
    ManagementOperation → ManagementReply × ManagementCoordinator
  | .start grant generated nowMicros =>
      match AuthorizedEnrollment.fromGrant grant with
      | .error error => (.answered (.error error), coordinator)
      | .ok authorization =>
          Prod.map .answered id (coordinator.start authorization generated nowMicros)
  | .progress uid operationId code nowMicros =>
      Prod.map .answered id (coordinator.progress uid operationId code nowMicros)
  | .cancel uid operationId nowMicros =>
      Prod.map .answered id (coordinator.cancel uid operationId nowMicros)
  | .complete uid operationId result nowMicros =>
      Prod.map .answered id (coordinator.complete uid operationId result nowMicros)
  | .expire nowMicros => Prod.map .reaped id (coordinator.expire nowMicros)

/-- What a step can do. A step either opens the empty slot, answers without an
update and without a change, reports progress before the deadline, or ends the
active operation: with a timeout at or after its deadline, with the result of
its owner or with its cancellation before. -/
inductive Transition (coordinator : ManagementCoordinator) :
    ManagementOperation → ManagementReply → ManagementCoordinator → Prop where
  | opened {grant : AuthorizationGrant} {authorization : AuthorizedEnrollment}
      {generated : OperationId} {nowMicros : Nat}
      (admitted : AuthorizedEnrollment.fromGrant grant = .ok authorization)
      (empty : coordinator.active = none) :
      Transition coordinator (.start grant generated nowMicros)
        (.answered (.ok (.progress generated .preparing)))
        { coordinator with active := some (coordinator.opened authorization generated nowMicros) }
  | silent {operation : ManagementOperation} {reply : ManagementReply}
      (quiet : reply.update? = none) : Transition coordinator operation reply coordinator
  | continued {uid : UInt32} {operationId : OperationId} {code : ManagementProgress}
      {nowMicros : Nat} {active : ActiveOperation}
      (bound : coordinator.Bound uid operationId active)
      (early : nowMicros < active.deadlineMicros) :
      Transition coordinator (.progress uid operationId code nowMicros)
        (.answered (.ok (.progress operationId code))) coordinator
  | timedOut {operation : ManagementOperation} {reply : ManagementReply} {nowMicros : Nat}
      {active : ActiveOperation} (held : coordinator.active = some active)
      (clock : operation.clockFor active = some nowMicros)
      (late : active.deadlineMicros ≤ nowMicros)
      (spoken : reply.update? = some (.completed active.id .timedOut)) :
      Transition coordinator operation reply coordinator.emptied
  | decided {uid : UInt32} {operationId : OperationId} {result : ManagementResult}
      {nowMicros : Nat} {active : ActiveOperation}
      (bound : coordinator.Bound uid operationId active)
      (free : ManagementCoordinator.reserved result = false)
      (early : nowMicros < active.deadlineMicros) :
      Transition coordinator (.complete uid operationId result nowMicros)
        (.answered (.ok (.completed operationId result))) coordinator.emptied
  | cancelled {uid : UInt32} {operationId : OperationId} {nowMicros : Nat}
      {active : ActiveOperation} (bound : coordinator.Bound uid operationId active)
      (early : nowMicros < active.deadlineMicros) :
      Transition coordinator (.cancel uid operationId nowMicros)
        (.answered (.ok (.completed operationId .cancelled))) coordinator.emptied

section Step

variable (coordinator : ManagementCoordinator)

/-- What starting does. -/
theorem step_start_transition (grant : AuthorizationGrant) (generated : OperationId)
    (nowMicros : Nat) :
    coordinator.Transition (.start grant generated nowMicros)
      (coordinator.step (.start grant generated nowMicros)).1
      (coordinator.step (.start grant generated nowMicros)).2 := by
  rw [step]
  cases admitted : AuthorizedEnrollment.fromGrant grant with
  | error error => exact .silent rfl
  | ok authorization =>
      rcases coordinator.start_cases authorization generated nowMicros with
        ⟨error, refused⟩ | ⟨empty, started⟩
      · simp only [refused]
        exact .silent rfl
      · simp only [started]
        exact .opened admitted empty

/-- What progress does. -/
theorem step_progress_transition (uid : UInt32) (operationId : OperationId)
    (code : ManagementProgress) (nowMicros : Nat) :
    coordinator.Transition (.progress uid operationId code nowMicros)
      (coordinator.step (.progress uid operationId code nowMicros)).1
      (coordinator.step (.progress uid operationId code nowMicros)).2 := by
  rw [step]
  rcases coordinator.bound_or_foreign uid operationId with ⟨active, bound⟩ | foreign
  · rw [progress_of_bound bound]
    by_cases late : active.deadlineMicros ≤ nowMicros
    · rw [if_pos late]
      exact .timedOut bound.1 (if_pos bound.2) late (by rw [bound.2.2]; rfl)
    · rw [if_neg late]
      exact .continued bound (Nat.lt_of_not_le late)
  · rw [progress_of_foreign foreign]
    exact .silent rfl

/-- What cancelling does. -/
theorem step_cancel_transition (uid : UInt32) (operationId : OperationId) (nowMicros : Nat) :
    coordinator.Transition (.cancel uid operationId nowMicros)
      (coordinator.step (.cancel uid operationId nowMicros)).1
      (coordinator.step (.cancel uid operationId nowMicros)).2 := by
  rw [step]
  rcases coordinator.bound_or_foreign uid operationId with ⟨active, bound⟩ | foreign
  · rw [cancel_of_bound bound]
    by_cases late : active.deadlineMicros ≤ nowMicros
    · rw [if_pos late]
      exact .timedOut bound.1 (if_pos bound.2) late (by rw [bound.2.2]; rfl)
    · rw [if_neg late]
      exact .cancelled bound (Nat.lt_of_not_le late)
  · rw [cancel_of_foreign foreign]
    exact .silent rfl

/-- What completing does. -/
theorem step_complete_transition (uid : UInt32) (operationId : OperationId)
    (result : ManagementResult) (nowMicros : Nat) :
    coordinator.Transition (.complete uid operationId result nowMicros)
      (coordinator.step (.complete uid operationId result nowMicros)).1
      (coordinator.step (.complete uid operationId result nowMicros)).2 := by
  rw [step]
  cases kept : reserved result with
  | true =>
      rw [complete_of_reserved kept]
      exact .silent rfl
  | false =>
      rcases coordinator.bound_or_foreign uid operationId with ⟨active, bound⟩ | foreign
      · rw [complete_of_bound bound kept]
        by_cases late : active.deadlineMicros ≤ nowMicros
        · rw [if_pos late]
          exact .timedOut bound.1 (if_pos ⟨bound.2.1, bound.2.2, kept⟩) late
            (by rw [bound.2.2]; rfl)
        · rw [if_neg late]
          exact .decided bound kept (Nat.lt_of_not_le late)
      · rw [complete_of_foreign foreign kept]
        exact .silent rfl

/-- What expiry does. -/
theorem step_expire_transition (nowMicros : Nat) :
    coordinator.Transition (.expire nowMicros) (coordinator.step (.expire nowMicros)).1
      (coordinator.step (.expire nowMicros)).2 := by
  rw [step]
  cases held : coordinator.active with
  | none =>
      rw [expire_of_empty held]
      exact .silent rfl
  | some active =>
      rw [expire_of_active held]
      by_cases late : active.deadlineMicros ≤ nowMicros
      · rw [if_pos late]
        exact .timedOut held rfl late rfl
      · rw [if_neg late]
        exact .silent rfl

/-- The step function stays inside the transition relation. -/
theorem step_transition (operation : ManagementOperation) :
    coordinator.Transition operation (coordinator.step operation).1
      (coordinator.step operation).2 := by
  cases operation with
  | start grant generated nowMicros => exact coordinator.step_start_transition ..
  | progress uid operationId code nowMicros => exact coordinator.step_progress_transition ..
  | cancel uid operationId nowMicros => exact coordinator.step_cancel_transition ..
  | complete uid operationId result nowMicros => exact coordinator.step_complete_transition ..
  | expire nowMicros => exact coordinator.step_expire_transition nowMicros

end Step

section Step

variable {coordinator : ManagementCoordinator} {operation : ManagementOperation}

/-- The configuration stays. -/
theorem step_config : (coordinator.step operation).2.config = coordinator.config := by
  have taken := coordinator.step_transition operation
  generalize coordinator.step operation = result at taken
  rcases result with ⟨reply, next⟩
  cases taken <;> rfl

/-- On the empty slot a step either starts an operation for the account of an enrollment
grant, or answers and changes nothing. -/
theorem step_of_empty (empty : coordinator.active = none) (operation : ManagementOperation) :
    (∃ grant generated nowMicros authorization, operation = .start grant generated nowMicros ∧
        AuthorizedEnrollment.fromGrant grant = .ok authorization ∧
        coordinator.step operation = (.answered (.ok (.progress generated .preparing)),
          { coordinator with
            active := some (coordinator.opened authorization generated nowMicros) })) ∨
      ((coordinator.step operation).2 = coordinator ∧
        (coordinator.step operation).1.update? = none) := by
  have taken := coordinator.step_transition operation
  generalize coordinator.step operation = result at taken
  rcases result with ⟨reply, next⟩
  cases taken with
  | opened admitted vacant => exact .inl ⟨_, _, _, _, rfl, admitted, rfl⟩
  | silent quiet => exact .inr ⟨rfl, quiet⟩
  | continued bound early => rw [bound.1] at empty; cases empty
  | timedOut held clock late spoken => rw [held] at empty; cases empty
  | decided bound free early => rw [bound.1] at empty; cases empty
  | cancelled bound early => rw [bound.1] at empty; cases empty

/-- A step either leaves the active operation in place, or completes it and frees the slot. -/
theorem step_of_active {active : ActiveOperation} (held : coordinator.active = some active)
    (operation : ManagementOperation) :
    ((coordinator.step operation).2 = coordinator ∧
        (coordinator.step operation).1.completed? = none ∧
        (operation.generated? = none ∨ (coordinator.step operation).1.update? = none)) ∨
      ((coordinator.step operation).2 = coordinator.emptied ∧
        (coordinator.step operation).1.completed? = some active.id ∧
        operation.generated? = none) := by
  have taken := coordinator.step_transition operation
  generalize coordinator.step operation = result at taken
  rcases result with ⟨reply, next⟩
  cases taken with
  | opened admitted empty => rw [held] at empty; cases empty
  | silent quiet => exact .inl ⟨rfl, ManagementReply.completed?_eq_none quiet, .inr quiet⟩
  | continued bound early => exact .inl ⟨rfl, rfl, .inl rfl⟩
  | timedOut known clock late spoken =>
      rw [held] at known
      cases known
      refine .inr ⟨rfl, ManagementReply.completed?_eq_some spoken, ?_⟩
      cases operation with
      | start grant generated nowMicros => cases clock
      | _ => rfl
  | decided bound free early =>
      have same : active = _ := Option.some.inj (held.symm.trans bound.1)
      exact .inr ⟨rfl, by rw [same, bound.2.2]; rfl, rfl⟩
  | cancelled bound early =>
      have same : active = _ := Option.some.inj (held.symm.trans bound.1)
      exact .inr ⟨rfl, by rw [same, bound.2.2]; rfl, rfl⟩

/-- A completion speaks for the active operation and frees the slot. -/
theorem step_completed {operationId : OperationId}
    (ends : (coordinator.step operation).1.completed? = some operationId) :
    (∃ active, coordinator.active = some active ∧ active.id = operationId) ∧
      (coordinator.step operation).2.active = none := by
  cases held : coordinator.active with
  | none =>
      rcases step_of_empty held operation with
        ⟨grant, generated, nowMicros, authorization, -, -, started⟩ | ⟨-, quiet⟩
      · rw [started] at ends
        cases ends
      · rw [ManagementReply.completed?_eq_none quiet] at ends
        cases ends
  | some active =>
      rcases step_of_active held operation with ⟨-, silent, -⟩ | ⟨freed, spoken, -⟩
      · rw [silent] at ends
        cases ends
      · rw [spoken] at ends
        exact ⟨⟨active, rfl, Option.some.inj ends⟩, congrArg ManagementCoordinator.active freed⟩

/-- A reserved result is refused and changes nothing. -/
theorem step_reserved (kept : operation.reserved = true) :
    (coordinator.step operation).1.error? = some .reservedResult ∧
      (coordinator.step operation).2 = coordinator := by
  cases operation with
  | complete uid operationId result nowMicros =>
      rw [step, complete_of_reserved kept]
      exact ⟨rfl, rfl⟩
  | _ => cases kept

/-- A foreign binding is refused and changes nothing. -/
theorem step_foreign {uid : UInt32} {operationId : OperationId}
    (presented : operation.binding? = some (uid, operationId))
    (foreign : coordinator.Foreign uid operationId) :
    (coordinator.step operation).1.error? =
        some (if operation.reserved then .reservedResult else coordinator.refusal uid) ∧
      (coordinator.step operation).2 = coordinator := by
  cases operation with
  | start grant generated nowMicros => cases presented
  | progress account identifier code nowMicros =>
      cases presented
      rw [step, progress_of_foreign foreign]
      exact ⟨rfl, rfl⟩
  | cancel account identifier nowMicros =>
      cases presented
      rw [step, cancel_of_foreign foreign]
      exact ⟨rfl, rfl⟩
  | complete account identifier result nowMicros =>
      cases presented
      cases kept : reserved result with
      | true =>
          have asked : (ManagementOperation.complete uid operationId result nowMicros).reserved =
            true := kept
          rw [if_pos asked]
          exact step_reserved asked
      | false =>
          have asked : (ManagementOperation.complete uid operationId result nowMicros).reserved =
            false := kept
          rw [step, complete_of_foreign foreign kept, asked]
          exact ⟨rfl, rfl⟩
  | expire nowMicros => cases presented

/-- Every operation that shows the active one a late clock times it out. -/
theorem step_late {active : ActiveOperation} {nowMicros : Nat}
    (held : coordinator.active = some active) (clock : operation.clockFor active = some nowMicros)
    (late : active.deadlineMicros ≤ nowMicros) :
    (coordinator.step operation).1.update? = some (.completed active.id .timedOut) ∧
      (coordinator.step operation).2 = coordinator.emptied := by
  cases operation with
  | start grant generated now => cases clock
  | progress uid operationId code now =>
      rw [ManagementOperation.clockFor, Option.ite_none_right_eq_some] at clock
      obtain ⟨owner, same⟩ := clock
      cases same
      rw [step, progress_of_bound ⟨held, owner⟩, if_pos late, owner.2]
      exact ⟨rfl, rfl⟩
  | cancel uid operationId now =>
      rw [ManagementOperation.clockFor, Option.ite_none_right_eq_some] at clock
      obtain ⟨owner, same⟩ := clock
      cases same
      rw [step, cancel_of_bound ⟨held, owner⟩, if_pos late, owner.2]
      exact ⟨rfl, rfl⟩
  | complete uid operationId result now =>
      rw [ManagementOperation.clockFor, Option.ite_none_right_eq_some] at clock
      obtain ⟨⟨account, identifier, free⟩, same⟩ := clock
      cases same
      rw [step, complete_of_bound ⟨held, account, identifier⟩ free, if_pos late, identifier]
      exact ⟨rfl, rfl⟩
  | expire now =>
      cases clock
      rw [step, expire_of_active held, if_pos late]
      exact ⟨rfl, rfl⟩

/-- A timeout is only answered at or after the deadline. -/
theorem step_timedOut {operationId : OperationId}
    (spoken : (coordinator.step operation).1.update? = some (.completed operationId .timedOut)) :
    ∃ active nowMicros, coordinator.active = some active ∧ active.id = operationId ∧
      operation.clockFor active = some nowMicros ∧ active.deadlineMicros ≤ nowMicros := by
  have taken := coordinator.step_transition operation
  generalize coordinator.step operation = result at taken spoken
  rcases result with ⟨reply, next⟩
  cases taken with
  | opened admitted empty => cases spoken
  | silent quiet => rw [quiet] at spoken; cases spoken
  | continued bound early => cases spoken
  | timedOut held clock late told =>
      rw [told] at spoken
      cases spoken
      exact ⟨_, _, held, rfl, clock, late⟩
  | decided bound free early =>
      cases spoken
      cases free
  | cancelled bound early => cases spoken

/-- Only `cancel` answers with a cancellation. -/
theorem step_cancelled {operationId : OperationId}
    (spoken : (coordinator.step operation).1.update? = some (.completed operationId .cancelled)) :
    ∃ uid nowMicros, operation = .cancel uid operationId nowMicros := by
  have taken := coordinator.step_transition operation
  generalize coordinator.step operation = result at taken spoken
  rcases result with ⟨reply, next⟩
  cases taken with
  | opened admitted empty => cases spoken
  | silent quiet => rw [quiet] at spoken; cases spoken
  | continued bound early => cases spoken
  | timedOut held clock late told => rw [told] at spoken; cases spoken
  | decided bound free early =>
      cases spoken
      cases free
  | cancelled bound early =>
      cases spoken
      exact ⟨_, _, rfl⟩

/-- A busy coordinator refuses to start. -/
theorem step_busy {grant : AuthorizationGrant} {generated : OperationId} {nowMicros : Nat}
    (enrolls : grant.ForEnrollment) (occupied : coordinator.active ≠ none) :
    (coordinator.step (.start grant generated nowMicros)).1.error? = some .busy ∧
      (coordinator.step (.start grant generated nowMicros)).2 = coordinator := by
  have taken : coordinator.active.isSome = true := Option.isSome_iff_ne_none.mpr occupied
  rw [step, AuthorizedEnrollment.fromGrant_of_forEnrollment enrolls]
  simp only [start, taken, if_true]
  exact ⟨rfl, rfl⟩

/-- A grant for something else starts nothing. -/
theorem step_unauthorized {grant : AuthorizationGrant} {generated : OperationId}
    {nowMicros : Nat} (foreign : ¬ grant.ForEnrollment) :
    (coordinator.step (.start grant generated nowMicros)).1.error? = some .unauthorized ∧
      (coordinator.step (.start grant generated nowMicros)).2 = coordinator := by
  rw [step, AuthorizedEnrollment.fromGrant_of_not_forEnrollment foreign]
  exact ⟨rfl, rfl⟩

end Step

section Run

variable {coordinator : ManagementCoordinator} {operations : List ManagementOperation}

/-- The operation holds the slot, and is thus started but not completed. -/
def pending (coordinator : ManagementCoordinator) (operationId : OperationId) : Nat :=
  if coordinator.active.map ActiveOperation.id = some operationId then 1 else 0

/-- What is pending grows with what starts, and shrinks with what completes. -/
theorem step_pending (coordinator : ManagementCoordinator) (operation : ManagementOperation)
    (operationId : OperationId) :
    (if (entryAt step coordinator operation).output.completed? = some operationId then 1 else 0) +
        (coordinator.step operation).2.pending operationId =
      coordinator.pending operationId +
        if startedBy (entryAt step coordinator operation) = some operationId then 1 else 0 := by
  unfold pending startedBy
  cases held : coordinator.active with
  | none =>
      rcases step_of_empty held operation with
        ⟨grant, generated, nowMicros, authorization, rfl, -, started⟩ | ⟨same, quiet⟩
      · simp [started, ManagementReply.completed?, ManagementReply.update?, opened,
          ManagementOperation.generated?]
      · simp [same, held, quiet, ManagementReply.completed?_eq_none quiet]
  | some active =>
      rcases step_of_active held operation with ⟨same, silent, unopened⟩ | ⟨freed, ends, unopened⟩
      · rcases unopened with unopened | quiet
        · simp [same, silent, held, unopened]
        · simp [same, silent, held, quiet]
      · simp [freed, ends, unopened]

/-- Every operation that the history starts is completed in it or still holds the slot. -/
def Balanced (operationId : OperationId) (history : List ManagementEntry)
    (coordinator : ManagementCoordinator) : Prop :=
  history.countP (fun entry => entry.output.completed? = some operationId) +
      coordinator.pending operationId =
    history.countP fun entry => startedBy entry = some operationId

/-- Over a run every operation that starts completes, or is pending at the end. -/
theorem run_balanced (empty : coordinator.active = none) (operations : List ManagementOperation)
    (operationId : OperationId) :
    Balanced operationId (run step coordinator operations) (final step coordinator operations) := by
  apply run_history
  · simp [Balanced, pending, empty]
  · intro history current operation balanced
    have moved := step_pending current operation operationId
    unfold Balanced at balanced ⊢
    simp only [List.countP_append, List.countP_singleton, decide_eq_true_eq]
    omega

/-- No operation starts more often than its number is generated. -/
theorem countP_started_le (entries : List ManagementEntry) (operationId : OperationId) :
    entries.countP (fun entry => startedBy entry = some operationId) ≤
      (entries.filterMap fun entry => entry.action.generated?).count operationId := by
  induction entries with
  | nil => exact Nat.le_refl 0
  | cons entry entries ih =>
      rw [List.countP_cons, List.filterMap_cons]
      cases named : entry.action.generated? with
      | none => simpa [startedBy, named] using ih
      | some generated =>
          have once : startedBy entry = some operationId → generated = operationId := by
            unfold startedBy
            rw [named]
            split
            · exact Option.some.inj
            · exact nofun
          simp only [List.count_cons, decide_eq_true_eq, beq_iff_eq]
          by_cases same : generated = operationId
          · rw [if_pos same]
            split <;> omega
          · rw [if_neg same, if_neg (mt once same)]
            exact ih

/-- The operation that holds the slot was installed in this history. -/
def Owned (config : ManagementConfig) (history : List ManagementEntry)
    (coordinator : ManagementCoordinator) : Prop :=
  coordinator.config = config ∧
    ∀ active, coordinator.active = some active → active.OpenedIn config history

/-- One step keeps the history of whoever owns the operation. -/
theorem step_owned {config : ManagementConfig} {history : List ManagementEntry}
    {current : ManagementCoordinator} (owned : Owned config history current)
    (operation : ManagementOperation) :
    Owned config (history ++ [entryAt step current operation]) (current.step operation).2 := by
  obtain ⟨bounds, opens⟩ := owned
  refine ⟨step_config.trans bounds, fun active held => ?_⟩
  cases before : current.active with
  | none =>
      rcases step_of_empty before operation with
        ⟨grant, generated, nowMicros, authorization, rfl, admitted, started⟩ | ⟨same, -⟩
      · obtain ⟨enrolls, account⟩ := AuthorizedEnrollment.fromGrant_eq_ok admitted
        simp only [started, Option.some.injEq] at held
        subst held
        refine ⟨history, entryAt step current (.start grant generated nowMicros), [], grant,
          nowMicros, rfl, rfl, enrolls, account, ?_, ?_, before, ?_,
          fun later member => (List.not_mem_nil member).elim⟩
        · rw [opened, bounds]
        · simp only [entryAt_output, started, ManagementReply.update?, opened]
        · simp only [entryAt_after, started]
      · rw [same, before] at held
        cases held
  | some known =>
      rcases step_of_active before operation with ⟨same, -, -⟩ | ⟨freed, -, -⟩
      · rw [same] at held
        obtain ⟨earlier, opening, segment, grant, nowMicros, rfl, started, enrolls, account,
          deadline, told, vacant, installed, kept⟩ := opens active held
        refine ⟨earlier, opening, segment ++ [entryAt step current operation], grant, nowMicros,
          by rw [List.append_assoc, List.cons_append], started, enrolls, account, deadline, told,
          vacant, installed, ?_⟩
        intro later member
        rcases List.mem_append.mp member with inside | last
        · exact kept later inside
        · rw [List.mem_singleton.mp last, entryAt_before, entryAt_after, same]
          exact ⟨held, held⟩
      · rw [freed] at held
        cases held

/-- The operation that holds the slot was installed by an authorized start. -/
theorem final_opened (empty : coordinator.active = none) (operations : List ManagementOperation)
    {active : ActiveOperation} (held : (final step coordinator operations).active = some active) :
    active.OpenedIn coordinator.config (run step coordinator operations) := by
  have opens : Owned coordinator.config (run step coordinator operations)
      (final step coordinator operations) := by
    apply run_history
    · exact ⟨rfl, fun active same => by rw [empty] at same; cases same⟩
    · intro history current operation owned
      exact step_owned owned operation
  exact opens.2 active held

/-- A fact about every single step holds of every entry of a run. -/
theorem run_each {property : ManagementEntry → Prop}
    (each : ∀ state operation, property (entryAt step state operation)) :
    ∀ entry ∈ run step coordinator operations, property entry := by
  intro entry member
  obtain ⟨first, second, -, taken⟩ := mem_run step member
  rw [taken]
  exact each _ _

end Run

/-- Every finite sequence of calls on a new coordinator keeps the contract. -/
theorem management_contract {config : ManagementConfig} {coordinator : ManagementCoordinator}
    (fresh : new config = .ok coordinator) (operations : List ManagementOperation) :
    ManagementContract config (run step coordinator operations) := by
  have empty : coordinator = ⟨config, none⟩ := by
    unfold new at fresh
    split at fresh
    · cases fresh
    · exact (Except.ok.inj fresh).symm
  subst empty
  have perStart : ∀ operationId,
      (run step ⟨config, none⟩ operations).countP
          (fun entry => entry.output.completed? = some operationId) ≤
        (run step ⟨config, none⟩ operations).countP
          (fun entry => startedBy entry = some operationId) := by
    intro operationId
    have balanced : Balanced operationId _ _ :=
      run_balanced (show (ManagementCoordinator.mk config none).active = none from rfl) operations
        operationId
    exact Nat.le.intro balanced
  exact {
    completedPerStart := perStart
    completedOnce := fun distinct operationId =>
      Nat.le_trans (perStart operationId)
        (Nat.le_trans (countP_started_le _ _) (List.nodup_iff_count_le_one.mp distinct _))
    completedOwn := run_each fun state operation operationId ends => step_completed ends
    foreignRefused := run_each fun state operation uid operationId presented foreign =>
      step_foreign presented foreign
    reservedRefused := run_each fun state operation kept => step_reserved kept
    deadlineTimesOut := run_each fun state operation active nowMicros held clock late =>
      ⟨(step_late held clock late).1,
        congrArg ManagementCoordinator.active (step_late held clock late).2⟩
    timedOutLate := run_each fun state operation operationId spoken => step_timedOut spoken
    cancelledByCancel := run_each fun state operation operationId spoken => step_cancelled spoken
    busyRefused := run_each fun state operation grant generated nowMicros same enrolls occupied =>
      by cases same; exact step_busy enrolls occupied
    unauthorizedRefused := run_each fun state operation grant generated nowMicros same foreign =>
      by cases same; exact step_unauthorized foreign
    activeOpened := fun left entry right active split held => by
      obtain ⟨first, second, -, rfl, taken, -⟩ := run_split_entry step split
      rw [taken] at held
      exact final_opened rfl first held }

/-- The grant that a broker running as root passes on for one account. -/
def enrollmentGrant (targetUid : UInt32) : AuthorizationGrant where
  transactionId := ⟨7⟩
  peer := ⟨123, 0, 0⟩
  targetUid := targetUid
  service := ServiceName.enrollment
  purpose := .polkit
  executable := ⟨8, 42⟩

/-- The contract at an operation that is started, refused to others, continued, timed out by
its own cancellation, and followed by the next one. -/
theorem management_contract_default :
    ManagementContract .default (run step ⟨.default, none⟩
      [.start (enrollmentGrant 1000) ⟨1⟩ 1_000_000, .start (enrollmentGrant 1001) ⟨2⟩ 1_000_001,
        .cancel 1001 ⟨1⟩ 1_000_002, .progress 1000 ⟨1⟩ .blink 2_000_000,
        .complete 1000 ⟨1⟩ .timedOut 3_000_000, .cancel 1000 ⟨1⟩ 121_000_000,
        .expire 121_000_001, .start (enrollmentGrant 1001) ⟨3⟩ 122_000_000,
        .complete 1001 ⟨3⟩ .completed 123_000_000]) :=
  management_contract rfl _

end ManagementCoordinator

end FaceAuth
