import FaceAuth.Management.Coordinator

/-!
# The state behind Manager1

The coordinator and the record of who owns its operation, behind one lock. Each
definition is what one caller does while it holds the lock.
-/

namespace FaceAuth

open Foundation

/-- Backend or caller identity failure. -/
structure BackendError where
  message : String
deriving DecidableEq, Repr

/-- Public text of a management failure. -/
def ManagementError.message : ManagementError → String
  | .unauthorized => "management enrollment authorization is invalid"
  | .invalidConfig => "management operation configuration is invalid"
  | .deadlineOverflow => "management operation deadline overflowed"
  | .busy => "management operation capacity is busy"
  | .noActiveOperation => "no management operation is active"
  | .wrongUid => "management operation belongs to another UID"
  | .wrongOperation => "management operation identifier does not match"
  | .invalidOperationId => "management operation identifier is invalid"
  | .reservedResult => "cancelled and timed-out management results are reserved"

/-- Management-worker lifecycle failure. -/
inductive WorkerError where
  | management (error : ManagementError)
  | coordinatorPoisoned
  | controller (message : String)
deriving DecidableEq, Repr

/-- Failure of a D-Bus method. -/
inductive FdoError where
  | accessDenied (message : String)
  | limitsExceeded (message : String)
  | invalidArgs (message : String)
  | failed (message : String)
  | zbus
deriving DecidableEq, Repr

/-- What a caller is told of a failed backend. -/
def mapBackendError (error : BackendError) : FdoError := .accessDenied error.message

/-- What a caller is told of a refusal. -/
def mapManagementError (error : ManagementError) : FdoError :=
  match error with
  | .unauthorized | .wrongUid => .accessDenied error.message
  | .busy => .limitsExceeded error.message
  | .invalidOperationId | .noActiveOperation | .wrongOperation | .reservedResult =>
      .invalidArgs error.message
  | .invalidConfig | .deadlineOverflow => .failed error.message

/-- The sender and the account that an operation belongs to. -/
structure OperationOwner where
  sender : String
  targetUid : UInt32
  operationId : OperationId
deriving DecidableEq, Repr

/-- The coordinator with the owner of its operation. -/
structure ManagementState where
  coordinator : ManagementCoordinator
  owner : Option OperationOwner
deriving DecidableEq, Repr

namespace ManagementState

/-- A terminal leaves no owner. -/
def clearOwnerIfTerminal (state : ManagementState) (update : ManagementUpdate) : ManagementState :=
  if update.IsTerminal then { state with owner := none } else state

/-- Keep the outcome of a coordinator operation. Its owner goes with its terminal update. -/
def settle (state : ManagementState)
    (outcome : Except ManagementError ManagementUpdate × ManagementCoordinator) :
    Except ManagementError ManagementUpdate × ManagementState :=
  match outcome with
  | (.ok update, coordinator) =>
      (.ok update, { state with coordinator }.clearOwnerIfTerminal update)
  | (.error error, coordinator) => (.error error, { state with coordinator })

section Sections

variable (state : ManagementState) (targetUid : UInt32) (operationId : OperationId)
  (nowMicros : Nat)

/-- Record safe progress for the exact account and operation. -/
def progress (progress : ManagementProgress) :
    Except ManagementError ManagementUpdate × ManagementState :=
  state.settle (state.coordinator.progress targetUid operationId progress nowMicros)

/-- Complete the exact account and operation with a daemon-owned result. -/
def complete (result : ManagementResult) :
    Except ManagementError ManagementUpdate × ManagementState :=
  state.settle (state.coordinator.complete targetUid operationId result nowMicros)

/-- Cancel the exact account and operation for a sender that went away. -/
def cancel : Except ManagementError ManagementUpdate × ManagementState :=
  state.settle (state.coordinator.cancel targetUid operationId nowMicros)

/-- Reap the active operation if its monotonic deadline elapsed. -/
def expire : Option ManagementUpdate × ManagementState :=
  match state.coordinator.expire nowMicros with
  | (some update, coordinator) =>
      (some update, { state with coordinator }.clearOwnerIfTerminal update)
  | (none, coordinator) => (none, { state with coordinator })

/-- Start an operation and record its owner. -/
def begin (sender : String) (authorization : AuthorizedEnrollment) :
    Except ManagementError ManagementUpdate × ManagementState :=
  match state.coordinator.start authorization operationId nowMicros with
  | (.ok (.progress started code), coordinator) =>
      (.ok (.progress started code), ⟨coordinator, some ⟨sender, targetUid, started⟩⟩)
  | (.ok (.completed started result), coordinator) =>
      (.ok (.completed started result), { state with coordinator })
  | (.error error, coordinator) => (.error error, { state with coordinator })

/-- Clean up after an operation whose controller did not start. The answer is discarded. -/
def rollBack : Except ManagementError ManagementUpdate × ManagementState :=
  match state.coordinator.cancel targetUid operationId nowMicros with
  | (answer, coordinator) => (answer, ⟨coordinator, none⟩)

/-- The operation that a sender owns. -/
def ownedBy (sender : String) : Option (UInt32 × OperationId) :=
  (state.owner.filter fun owner => owner.sender = sender).map fun owner =>
    (owner.targetUid, owner.operationId)

/-- Cancel an operation on the request of its owner. -/
def cancelOwned (sender : String) : Except FdoError ManagementUpdate × ManagementState :=
  match state.owner with
  | none => (.error (mapManagementError .noActiveOperation), state)
  | some owner =>
      if owner.sender ≠ sender then
        (.error (.accessDenied "management operation belongs to another D-Bus sender"), state)
      else
        match state.cancel targetUid operationId nowMicros with
        | (.ok update, after) => (.ok update, after)
        | (.error error, after) => (.error (mapManagementError error), after)

end Sections

/-! ## What a section can do -/

section Laws

variable {state : ManagementState} {targetUid : UInt32} {operationId : OperationId}
  (nowMicros : Nat) {active : ActiveOperation}

/-- Progress of the operation that is held, or its timeout. -/
theorem progress_of_bound (bound : state.coordinator.Bound targetUid operationId active)
    (nowMicros : Nat) (code : ManagementProgress) :
    state.progress targetUid operationId nowMicros code =
      if active.deadlineMicros ≤ nowMicros then
        (.ok (.completed operationId .timedOut), ⟨state.coordinator.emptied, none⟩)
      else (.ok (.progress operationId code), state) := by
  rw [progress, ManagementCoordinator.progress_of_bound bound]
  split <;> rfl

/-- Progress of a foreign operation is refused. -/
theorem progress_of_foreign (foreign : state.coordinator.Foreign targetUid operationId)
    (nowMicros : Nat) (code : ManagementProgress) :
    state.progress targetUid operationId nowMicros code =
      (.error (state.coordinator.refusal targetUid), state) := by
  rw [progress, ManagementCoordinator.progress_of_foreign foreign]
  rfl

/-- The operation that is held is cancelled, or has timed out. -/
theorem cancel_of_bound (bound : state.coordinator.Bound targetUid operationId active)
    (nowMicros : Nat) :
    state.cancel targetUid operationId nowMicros =
      (.ok (.completed operationId
        (if active.deadlineMicros ≤ nowMicros then .timedOut else .cancelled)),
        ⟨state.coordinator.emptied, none⟩) := by
  rw [cancel, ManagementCoordinator.cancel_of_bound bound]
  rfl

/-- Cancelling a foreign operation is refused. -/
theorem cancel_of_foreign (foreign : state.coordinator.Foreign targetUid operationId)
    (nowMicros : Nat) :
    state.cancel targetUid operationId nowMicros =
      (.error (state.coordinator.refusal targetUid), state) := by
  rw [cancel, ManagementCoordinator.cancel_of_foreign foreign]
  rfl

/-- A reserved result is refused. -/
theorem complete_of_reserved {result : ManagementResult}
    (kept : ManagementCoordinator.reserved result = true) (nowMicros : Nat) :
    state.complete targetUid operationId nowMicros result = (.error .reservedResult, state) := by
  rw [complete, ManagementCoordinator.complete_of_reserved kept]
  rfl

/-- The operation that is held is completed, or has timed out. -/
theorem complete_of_bound (bound : state.coordinator.Bound targetUid operationId active)
    {result : ManagementResult} (free : ManagementCoordinator.reserved result = false)
    (nowMicros : Nat) :
    state.complete targetUid operationId nowMicros result =
      (.ok (.completed operationId
        (if active.deadlineMicros ≤ nowMicros then .timedOut else result)),
        ⟨state.coordinator.emptied, none⟩) := by
  rw [complete, ManagementCoordinator.complete_of_bound bound free]
  rfl

/-- Completing a foreign operation is refused. -/
theorem complete_of_foreign (foreign : state.coordinator.Foreign targetUid operationId)
    {result : ManagementResult} (free : ManagementCoordinator.reserved result = false)
    (nowMicros : Nat) :
    state.complete targetUid operationId nowMicros result =
      (.error (state.coordinator.refusal targetUid), state) := by
  rw [complete, ManagementCoordinator.complete_of_foreign foreign free]
  rfl

/-- The operation that is held expires after its deadline. -/
theorem expire_of_active (held : state.coordinator.active = some active) (nowMicros : Nat) :
    state.expire nowMicros =
      if active.deadlineMicros ≤ nowMicros then
        (some (.completed active.id .timedOut), ⟨state.coordinator.emptied, none⟩)
      else (none, state) := by
  rw [expire, ManagementCoordinator.expire_of_active held]
  by_cases late : active.deadlineMicros ≤ nowMicros
  · rw [if_pos late, if_pos late]
    rfl
  · rw [if_neg late, if_neg late]

/-- Without an operation nothing expires. -/
theorem expire_of_empty (empty : state.coordinator.active = none) (nowMicros : Nat) :
    state.expire nowMicros = (none, state) := by
  rw [expire, ManagementCoordinator.expire_of_empty empty]

variable (state targetUid operationId)

/-- Reaping either finds an expired operation and ends it, or does nothing. -/
theorem expire_cases :
    (∃ active, state.coordinator.active = some active ∧ active.deadlineMicros ≤ nowMicros ∧
      state.expire nowMicros =
        (some (.completed active.id .timedOut), ⟨state.coordinator.emptied, none⟩)) ∨
    state.expire nowMicros = (none, state) := by
  cases held : state.coordinator.active with
  | none => exact .inr (expire_of_empty held nowMicros)
  | some active =>
      rw [expire_of_active held]
      by_cases late : active.deadlineMicros ≤ nowMicros
      · exact .inl ⟨active, rfl, late, if_pos late⟩
      · exact .inr (if_neg late)

/-- Beginning either is refused, or fills an empty slot together with its owner. -/
theorem begin_cases (sender : String) (authorization : AuthorizedEnrollment) :
    (∃ error, state.begin targetUid operationId nowMicros sender authorization =
      (.error error, state)) ∨
    state.coordinator.active = none ∧
      state.begin targetUid operationId nowMicros sender authorization =
        (.ok (.progress operationId .preparing),
          ⟨{ state.coordinator with
            active := some (state.coordinator.opened authorization operationId nowMicros) },
            some ⟨sender, targetUid, operationId⟩⟩) := by
  unfold begin
  rcases ManagementCoordinator.start_cases state.coordinator authorization operationId nowMicros
    with ⟨error, refused⟩ | ⟨empty, started⟩
  · rw [refused]
    exact .inl ⟨error, rfl⟩
  · rw [started]
    exact .inr ⟨empty, rfl⟩

/-- An owner's request is refused, or ends the operation that the owner record names. -/
theorem cancelOwned_cases (sender : String) :
    (∃ error, state.cancelOwned targetUid operationId nowMicros sender = (.error error, state)) ∨
    ∃ owner active, state.owner = some owner ∧ owner.sender = sender ∧
      state.coordinator.Bound targetUid operationId active ∧
      state.cancelOwned targetUid operationId nowMicros sender =
        (.ok (.completed operationId
          (if active.deadlineMicros ≤ nowMicros then .timedOut else .cancelled)),
          ⟨state.coordinator.emptied, none⟩) := by
  unfold cancelOwned
  cases held : state.owner with
  | none => exact .inl ⟨_, rfl⟩
  | some owner =>
      by_cases foreign : owner.sender ≠ sender
      · dsimp only
        rw [if_pos foreign]
        exact .inl ⟨_, rfl⟩
      · dsimp only
        rw [if_neg foreign]
        rcases state.coordinator.bound_or_foreign targetUid operationId with
          ⟨active, bound⟩ | stranger
        · rw [cancel_of_bound bound]
          exact .inr ⟨owner, active, rfl, Decidable.not_not.mp foreign, bound, rfl⟩
        · rw [cancel_of_foreign stranger]
          exact .inl ⟨_, rfl⟩

end Laws

end ManagementState

end FaceAuth
