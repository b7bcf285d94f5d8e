import FaceAuth.Authz.Policy
import FaceAuth.Foundation.Word

/-!
# The management coordinator

One externally visible enrollment operation at a time, with its account, its
fixed deadline and at most one terminal update.
-/

namespace FaceAuth

open Foundation

/-- The bytes of `faceauth-enroll`. -/
def ENROLLMENT_SERVICE : List UInt8 :=
  [102, 97, 99, 101, 97, 117, 116, 104, 45, 101, 110, 114, 111, 108, 108]

/-- The service of this name. -/
def ServiceName.enrollment : ServiceName := ⟨ENROLLMENT_SERVICE, by decide, by decide, by decide⟩

/-- Maximum duration of one operation. -/
def MAX_OPERATION_DURATION_MICROS : Nat := 120_000_000

/-- Management authorization or operation lifecycle failure. -/
inductive ManagementError where
  | unauthorized
  | invalidConfig
  | deadlineOverflow
  | busy
  | noActiveOperation
  | wrongUid
  | wrongOperation
  | invalidOperationId
  | reservedResult
deriving DecidableEq, Repr

/-- Opaque proof that the daemon accepted the exact root Polkit broker grant. -/
structure AuthorizedEnrollment where
  targetUid : UInt32
deriving DecidableEq, Repr

/-- A grant must be for an enrollment through the broker. -/
def AuthorizedEnrollment.fromGrant (grant : AuthorizationGrant) :
    Except ManagementError AuthorizedEnrollment :=
  if grant.peer.uid ≠ 0 ∨ grant.service.value ≠ ENROLLMENT_SERVICE ∨ grant.purpose ≠ .polkit then
    .error .unauthorized
  else .ok ⟨grant.targetUid⟩

/-- Unpredictable identifier for one management operation. -/
structure OperationId where
  uuid : BitVec 128
deriving DecidableEq, Repr

/-- Public progress stages; they contain no biometric measurements. -/
inductive ManagementProgress where
  | preparing | positionFace | holdStill | activeChallenge | blink | turnLeft | turnRight
  | returnToCenter | processing
deriving DecidableEq, Repr

/-- Terminal management result. -/
inductive ManagementResult where
  | completed | cancelled | timedOut | failed
deriving DecidableEq, Repr

/-- Public operation update. -/
inductive ManagementUpdate where
  | progress (operationId : OperationId) (progress : ManagementProgress)
  | completed (operationId : OperationId) (result : ManagementResult)
deriving DecidableEq, Repr

/-- The operation that an update is about. -/
def ManagementUpdate.operationId : ManagementUpdate → OperationId
  | .progress operationId _ => operationId
  | .completed operationId _ => operationId

/-- The operation was consumed terminally. -/
def ManagementUpdate.IsTerminal : ManagementUpdate → Prop
  | .progress _ _ => False
  | .completed _ _ => True

instance : DecidablePred ManagementUpdate.IsTerminal
  | .progress _ _ => isFalse id
  | .completed _ _ => isTrue trivial

/-- Management operation timing bounds. -/
structure ManagementConfig where
  operationDurationMicros : Nat
deriving DecidableEq, Repr

/-- The duration is positive and bounded. -/
def ManagementConfig.validate (config : ManagementConfig) : Except ManagementError Unit :=
  if config.operationDurationMicros < 5_000_000 ∨
      MAX_OPERATION_DURATION_MICROS < config.operationDurationMicros then
    .error .invalidConfig
  else .ok ()

/-- Two minutes for one operation. -/
def ManagementConfig.default : ManagementConfig := ⟨120_000_000⟩

/-- The default passes its own check. -/
theorem ManagementConfig.default_valid : ManagementConfig.default.validate = .ok () := rfl

/-- The operation that is held, its account and its deadline. -/
structure ActiveOperation where
  id : OperationId
  uid : UInt32
  deadlineMicros : Nat
deriving DecidableEq, Repr

/-- Single-capacity management operation coordinator. -/
structure ManagementCoordinator where
  config : ManagementConfig
  active : Option ActiveOperation
deriving DecidableEq, Repr

namespace ManagementCoordinator

/-- A coordinator without an operation. -/
def new (config : ManagementConfig) : Except ManagementError ManagementCoordinator :=
  match config.validate with
  | .error error => .error error
  | .ok () => .ok ⟨config, none⟩

/-- The operation and its account are those that are held. -/
def verify (coordinator : ManagementCoordinator) (uid : UInt32) (operationId : OperationId) :
    Except ManagementError Unit :=
  match coordinator.active with
  | none => .error .noActiveOperation
  | some active =>
      if active.uid ≠ uid then .error .wrongUid
      else if active.id ≠ operationId then .error .wrongOperation
      else .ok ()

/-- Whether the deadline of the operation has passed. -/
def deadlineReached (coordinator : ManagementCoordinator) (nowMicros : Nat) :
    Except ManagementError Bool :=
  match coordinator.active with
  | none => .error .noActiveOperation
  | some active => .ok (decide (active.deadlineMicros ≤ nowMicros))

/-- End the operation with a result. -/
def takeTerminal (coordinator : ManagementCoordinator) (result : ManagementResult) :
    Except ManagementError ManagementUpdate × ManagementCoordinator :=
  match coordinator.active with
  | none => (.error .noActiveOperation, coordinator)
  | some active => (.ok (.completed active.id result), { coordinator with active := none })

/-- Start one already-authorized enrollment operation under a generated identifier. -/
def start (coordinator : ManagementCoordinator) (authorization : AuthorizedEnrollment)
    (generated : OperationId) (nowMicros : Nat) :
    Except ManagementError ManagementUpdate × ManagementCoordinator :=
  if coordinator.active.isSome then (.error .busy, coordinator)
  else
    match checkedAdd U64_MAX nowMicros coordinator.config.operationDurationMicros with
    | none => (.error .deadlineOverflow, coordinator)
    | some deadlineMicros =>
        (.ok (.progress generated .preparing),
          { coordinator with active := some ⟨generated, authorization.targetUid, deadlineMicros⟩ })

/-- Emit safe progress for the exact account and operation. -/
def progress (coordinator : ManagementCoordinator) (uid : UInt32) (operationId : OperationId)
    (progress : ManagementProgress) (nowMicros : Nat) :
    Except ManagementError ManagementUpdate × ManagementCoordinator :=
  match coordinator.verify uid operationId with
  | .error error => (.error error, coordinator)
  | .ok () =>
      match coordinator.deadlineReached nowMicros with
      | .error error => (.error error, coordinator)
      | .ok true => coordinator.takeTerminal .timedOut
      | .ok false => (.ok (.progress operationId progress), coordinator)

/-- Cancel the exact authorized operation. -/
def cancel (coordinator : ManagementCoordinator) (uid : UInt32) (operationId : OperationId)
    (nowMicros : Nat) : Except ManagementError ManagementUpdate × ManagementCoordinator :=
  match coordinator.verify uid operationId with
  | .error error => (.error error, coordinator)
  | .ok () =>
      match coordinator.deadlineReached nowMicros with
      | .error error => (.error error, coordinator)
      | .ok true => coordinator.takeTerminal .timedOut
      | .ok false => coordinator.takeTerminal .cancelled

/-- Results that only the coordinator itself gives. -/
def reserved : ManagementResult → Bool
  | .cancelled | .timedOut => true
  | .completed | .failed => false

/-- Complete the exact operation with a daemon-owned result. -/
def complete (coordinator : ManagementCoordinator) (uid : UInt32) (operationId : OperationId)
    (result : ManagementResult) (nowMicros : Nat) :
    Except ManagementError ManagementUpdate × ManagementCoordinator :=
  if reserved result then (.error .reservedResult, coordinator)
  else
    match coordinator.verify uid operationId with
    | .error error => (.error error, coordinator)
    | .ok () =>
        match coordinator.deadlineReached nowMicros with
        | .error error => (.error error, coordinator)
        | .ok true => coordinator.takeTerminal .timedOut
        | .ok false => coordinator.takeTerminal result

/-- Consume an expired operation, when present. -/
def expire (coordinator : ManagementCoordinator) (nowMicros : Nat) :
    Option ManagementUpdate × ManagementCoordinator :=
  if coordinator.active.any fun active => decide (active.deadlineMicros ≤ nowMicros) then
    match coordinator.takeTerminal .timedOut with
    | (.ok update, coordinator) => (some update, coordinator)
    | (.error _, coordinator) => (none, coordinator)
  else (none, coordinator)

section Laws

variable (coordinator : ManagementCoordinator) {uid : UInt32} {operationId : OperationId}
  {active : ActiveOperation}

/-- The active operation, and the exact binding that its owner has to present. -/
def Bound (uid : UInt32) (operationId : OperationId) (active : ActiveOperation) : Prop :=
  coordinator.active = some active ∧ active.uid = uid ∧ active.id = operationId

/-- No active operation has this binding. -/
def Foreign (uid : UInt32) (operationId : OperationId) : Prop :=
  ∀ active, ¬ coordinator.Bound uid operationId active

/-- An operation is the one that is held, or foreign. -/
theorem bound_or_foreign (uid : UInt32) (operationId : OperationId) :
    (∃ active, coordinator.Bound uid operationId active) ∨ coordinator.Foreign uid operationId := by
  by_cases bound : ∃ active, coordinator.Bound uid operationId active
  · exact .inl bound
  · exact .inr fun active same => bound ⟨active, same⟩

/-- The coordinator after its operation was consumed. -/
def emptied : ManagementCoordinator := { coordinator with active := none }

/-- No operation is held afterwards. -/
@[simp] theorem active_emptied : coordinator.emptied.active = none := rfl

variable {coordinator}

/-- Without an operation every other is foreign. -/
theorem foreign_of_empty (empty : coordinator.active = none) :
    coordinator.Foreign uid operationId := by
  intro active bound
  rw [bound.1] at empty
  cases empty

/-- The answer of `verify` to a binding that no operation has. -/
def refusal (coordinator : ManagementCoordinator) (uid : UInt32) : ManagementError :=
  match coordinator.active with
  | none => .noActiveOperation
  | some active => if active.uid ≠ uid then .wrongUid else .wrongOperation

/-- The operation that is held passes. -/
theorem verify_of_bound (bound : coordinator.Bound uid operationId active) :
    coordinator.verify uid operationId = .ok () := by
  obtain ⟨held, rfl, rfl⟩ := bound
  simp [verify, held]

/-- A foreign one is refused. -/
theorem verify_of_foreign (foreign : coordinator.Foreign uid operationId) :
    coordinator.verify uid operationId = .error (coordinator.refusal uid) := by
  unfold verify refusal
  cases held : coordinator.active with
  | none => rfl
  | some active =>
      by_cases account : active.uid = uid
      · have other : active.id ≠ operationId := fun same => foreign active ⟨held, account, same⟩
        simp [account, other]
      · simp [account]

/-- The refusal tells whether there is an operation. -/
theorem refusal_eq_noActiveOperation_iff :
    coordinator.refusal uid = .noActiveOperation ↔ coordinator.active = none := by
  unfold refusal
  cases coordinator.active with
  | none => simp
  | some active =>
      dsimp only
      split <;> simp

/-- The deadline is compared with the time. -/
theorem deadlineReached_of_active (held : coordinator.active = some active) (nowMicros : Nat) :
    coordinator.deadlineReached nowMicros = .ok (decide (active.deadlineMicros ≤ nowMicros)) := by
  rw [deadlineReached, held]

/-- The operation that is held ends. -/
theorem takeTerminal_of_active (held : coordinator.active = some active)
    (result : ManagementResult) :
    coordinator.takeTerminal result = (.ok (.completed active.id result), coordinator.emptied) := by
  rw [takeTerminal, held]
  rfl

/-- Progress of the operation that is held, or its timeout. -/
theorem progress_of_bound (bound : coordinator.Bound uid operationId active)
    (code : ManagementProgress) (nowMicros : Nat) :
    coordinator.progress uid operationId code nowMicros =
      if active.deadlineMicros ≤ nowMicros then
        (.ok (.completed operationId .timedOut), coordinator.emptied)
      else (.ok (.progress operationId code), coordinator) := by
  rw [progress, verify_of_bound bound, deadlineReached_of_active bound.1,
    takeTerminal_of_active bound.1, bound.2.2]
  by_cases late : active.deadlineMicros ≤ nowMicros <;> simp [late]

/-- Progress of a foreign operation is refused. -/
theorem progress_of_foreign (foreign : coordinator.Foreign uid operationId)
    (code : ManagementProgress) (nowMicros : Nat) :
    coordinator.progress uid operationId code nowMicros =
      (.error (coordinator.refusal uid), coordinator) := by
  rw [progress, verify_of_foreign foreign]

/-- The operation that is held is cancelled, or has timed out. -/
theorem cancel_of_bound (bound : coordinator.Bound uid operationId active) (nowMicros : Nat) :
    coordinator.cancel uid operationId nowMicros =
      (.ok (.completed operationId
        (if active.deadlineMicros ≤ nowMicros then .timedOut else .cancelled)),
        coordinator.emptied) := by
  rw [cancel, verify_of_bound bound, deadlineReached_of_active bound.1,
    takeTerminal_of_active bound.1, takeTerminal_of_active bound.1, bound.2.2]
  by_cases late : active.deadlineMicros ≤ nowMicros <;> simp [late]

/-- Cancelling a foreign operation is refused. -/
theorem cancel_of_foreign (foreign : coordinator.Foreign uid operationId) (nowMicros : Nat) :
    coordinator.cancel uid operationId nowMicros =
      (.error (coordinator.refusal uid), coordinator) := by
  rw [cancel, verify_of_foreign foreign]

/-- A reserved result is refused. -/
theorem complete_of_reserved {result : ManagementResult} (kept : reserved result = true)
    (nowMicros : Nat) :
    coordinator.complete uid operationId result nowMicros =
      (.error .reservedResult, coordinator) := by
  rw [complete, if_pos kept]

/-- The operation that is held is completed, or has timed out. -/
theorem complete_of_bound (bound : coordinator.Bound uid operationId active)
    {result : ManagementResult} (free : reserved result = false) (nowMicros : Nat) :
    coordinator.complete uid operationId result nowMicros =
      (.ok (.completed operationId
        (if active.deadlineMicros ≤ nowMicros then .timedOut else result)),
        coordinator.emptied) := by
  rw [complete, verify_of_bound bound, deadlineReached_of_active bound.1,
    takeTerminal_of_active bound.1, takeTerminal_of_active bound.1, bound.2.2]
  by_cases late : active.deadlineMicros ≤ nowMicros <;> simp [late, free]

/-- Completing a foreign operation is refused. -/
theorem complete_of_foreign (foreign : coordinator.Foreign uid operationId)
    {result : ManagementResult} (free : reserved result = false) (nowMicros : Nat) :
    coordinator.complete uid operationId result nowMicros =
      (.error (coordinator.refusal uid), coordinator) := by
  rw [complete, verify_of_foreign foreign, if_neg (by rw [free]; exact Bool.false_ne_true)]

/-- The operation that is held expires after its deadline. -/
theorem expire_of_active (held : coordinator.active = some active) (nowMicros : Nat) :
    coordinator.expire nowMicros =
      if active.deadlineMicros ≤ nowMicros then
        (some (.completed active.id .timedOut), coordinator.emptied)
      else (none, coordinator) := by
  rw [expire, held, takeTerminal_of_active held]
  by_cases late : active.deadlineMicros ≤ nowMicros <;> simp [late]

/-- Without an operation nothing expires. -/
theorem expire_of_empty (empty : coordinator.active = none) (nowMicros : Nat) :
    coordinator.expire nowMicros = (none, coordinator) := by
  rw [expire, empty]
  rfl

/-- The operation that a successful start installs. -/
def opened (coordinator : ManagementCoordinator) (authorization : AuthorizedEnrollment)
    (generated : OperationId) (nowMicros : Nat) : ActiveOperation :=
  ⟨generated, authorization.targetUid, nowMicros + coordinator.config.operationDurationMicros⟩

/-- Starting is refused, or fills an empty coordinator. -/
theorem start_cases (coordinator : ManagementCoordinator) (authorization : AuthorizedEnrollment)
    (generated : OperationId) (nowMicros : Nat) :
    (∃ error, coordinator.start authorization generated nowMicros = (.error error, coordinator)) ∨
      coordinator.active = none ∧
        coordinator.start authorization generated nowMicros =
          (.ok (.progress generated .preparing), { coordinator with
            active := some (coordinator.opened authorization generated nowMicros) }) := by
  unfold start
  cases held : coordinator.active with
  | some active => exact .inl ⟨.busy, rfl⟩
  | none =>
      by_cases fits : nowMicros + coordinator.config.operationDurationMicros ≤ U64_MAX
      · exact .inr ⟨rfl, by simp [checkedAdd, fits, opened]⟩
      · exact .inl ⟨.deadlineOverflow, by simp [checkedAdd, fits]⟩

end Laws

end ManagementCoordinator

end FaceAuth
