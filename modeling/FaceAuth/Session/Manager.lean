import FaceAuth.Authz.Policy
import FaceAuth.Foundation.Flags
import FaceAuth.Foundation.Word

/-!
# The authentication transaction manager

One authentication transaction at a time, with its exact connection, its
deadline and its cancellation token. A token is an address into the flags that
the manager allocated, so that clones of it observe the same flag.
-/

namespace FaceAuth

open Foundation

/-- Fifteen seconds for one transaction. -/
def DEFAULT_TRANSACTION_DURATION_MICROS : Nat := 15_000_000

/-- Maximum duration of one transaction. -/
def MAX_TRANSACTION_DURATION_MICROS : Nat := 60_000_000

/-- Daemon-internal identity of one accepted socket connection. -/
structure ConnectionToken where
  bytes : BitVec 128
deriving DecidableEq, Repr

/-- Address of the cancellation flag of one admitted transaction. -/
structure CancellationToken where
  address : Nat
deriving DecidableEq, Repr

/-- Authentication session lifecycle failure. -/
inductive SessionError where
  | invalidConfig
  | random
  | deadlineOverflow
  | busy
  | noActiveTransaction
  | wrongConnection
  | wrongTransaction
  | reservedDecision
deriving DecidableEq, Repr

/-- Resource and time bounds for authentication transactions. -/
structure SessionConfig where
  transactionDurationMicros : Nat
deriving DecidableEq, Repr

/-- The duration is positive and bounded. -/
def SessionConfig.validate (config : SessionConfig) : Except SessionError Unit :=
  if config.transactionDurationMicros < 1_000_000 ∨
      MAX_TRANSACTION_DURATION_MICROS < config.transactionDurationMicros then
    .error .invalidConfig
  else .ok ()

/-- The duration that a daemon uses unless it is told otherwise. -/
def SessionConfig.default : SessionConfig := ⟨DEFAULT_TRANSACTION_DURATION_MICROS⟩

/-- The default passes its own check. -/
theorem SessionConfig.default_valid : SessionConfig.default.validate = .ok () := rfl

/-- The transaction that is held, with its connection, its deadline and its token. -/
structure ActiveSession where
  grant : AuthorizationGrant
  connection : ConnectionToken
  deadlineMicros : Nat
  cancellation : CancellationToken
deriving DecidableEq, Repr

/-- Single-capacity authentication transaction manager, with the flags of the
tokens it handed out. -/
structure SessionManager where
  config : SessionConfig
  configured : config.validate = .ok ()
  active : Option ActiveSession
  flags : Flags

namespace SessionManager

/-- Construct an empty transaction manager. -/
def new (config : SessionConfig) : Except SessionError SessionManager :=
  match configured : config.validate with
  | .error error => .error error
  | .ok () => .ok ⟨config, configured, none, .empty⟩

/-- The transaction and its connection are those that are held. -/
def verifyBinding (manager : SessionManager) (connection : ConnectionToken)
    (transactionId : TransactionId) : Except SessionError Unit :=
  match manager.active with
  | none => .error .noActiveTransaction
  | some active =>
      if active.connection ≠ connection then .error .wrongConnection
      else if active.grant.transactionId ≠ transactionId then .error .wrongTransaction
      else .ok ()

/-- Whether the deadline of the transaction has passed. -/
def deadlineReached (manager : SessionManager) (nowMicros : Nat) : Except SessionError Bool :=
  match manager.active with
  | none => .error .noActiveTransaction
  | some active => .ok (decide (active.deadlineMicros ≤ nowMicros))

/-- Whether the flag behind a token was raised. -/
def isCancelled (manager : SessionManager) (token : CancellationToken) : Bool :=
  manager.flags.isRaised token.address

/-- The manager after the slot was emptied and the flag of its session raised. -/
def release (manager : SessionManager) (active : ActiveSession) : SessionManager :=
  { manager with active := none, flags := manager.flags.raise active.cancellation.address }

/-- End the transaction with a decision. -/
def takeTerminal (manager : SessionManager) (decision : DecisionCode) :
    Except SessionError Response × SessionManager :=
  match manager.active with
  | none => (.error .noActiveTransaction, manager)
  | some active =>
      (.ok (.completed active.grant.transactionId decision), manager.release active)

/-- Start one already-authorized transaction. -/
def start (manager : SessionManager) (grant : AuthorizationGrant) (connection : ConnectionToken)
    (nowMicros : Nat) : Except SessionError Response × SessionManager :=
  if manager.active.isSome then (.error .busy, manager)
  else
    match checkedAdd U64_MAX nowMicros manager.config.transactionDurationMicros with
    | none => (.error .deadlineOverflow, manager)
    | some deadlineMicros =>
        (.ok (.started grant.transactionId),
          { manager with
            active := some {
              grant
              connection
              deadlineMicros
              cancellation := ⟨manager.flags.size⟩ }
            flags := manager.flags.allocate })

/-- Emit non-terminal progress, or the timeout once the deadline has elapsed. -/
def progress (manager : SessionManager) (connection : ConnectionToken)
    (transactionId : TransactionId) (progress : ProgressCode) (nowMicros : Nat) :
    Except SessionError Response × SessionManager :=
  match manager.verifyBinding connection transactionId with
  | .error error => (.error error, manager)
  | .ok () =>
      match manager.deadlineReached nowMicros with
      | .error error => (.error error, manager)
      | .ok true => manager.takeTerminal .timedOut
      | .ok false => (.ok (.progress transactionId progress), manager)

/-- Decisions that only `cancel` and `expire` may emit. -/
def reserved : DecisionCode → Bool
  | .cancelled => true
  | .timedOut => true
  | _ => false

/-- Complete the exact active transaction with an internal decision. -/
def complete (manager : SessionManager) (connection : ConnectionToken)
    (transactionId : TransactionId) (decision : DecisionCode) (nowMicros : Nat) :
    Except SessionError Response × SessionManager :=
  if reserved decision then (.error .reservedDecision, manager)
  else
    match manager.verifyBinding connection transactionId with
    | .error error => (.error error, manager)
    | .ok () =>
        match manager.deadlineReached nowMicros with
        | .error error => (.error error, manager)
        | .ok true => manager.takeTerminal .timedOut
        | .ok false => manager.takeTerminal decision

/-- Raise the flag of the active session, when there is one. -/
def signal (manager : SessionManager) : SessionManager :=
  match manager.active with
  | none => manager
  | some active =>
      { manager with flags := manager.flags.raise active.cancellation.address }

/-- Cancel the exact transaction from the connection that started it. -/
def cancel (manager : SessionManager) (connection : ConnectionToken)
    (transactionId : TransactionId) (nowMicros : Nat) :
    Except SessionError Response × SessionManager :=
  match manager.verifyBinding connection transactionId with
  | .error error => (.error error, manager)
  | .ok () =>
      let manager := manager.signal
      match manager.deadlineReached nowMicros with
      | .error error => (.error error, manager)
      | .ok true => manager.takeTerminal .timedOut
      | .ok false => manager.takeTerminal .cancelled

/-- Emit a timeout terminal response when the active deadline has elapsed. -/
def expire (manager : SessionManager) (nowMicros : Nat) : Option Response × SessionManager :=
  if manager.active.any fun active => decide (active.deadlineMicros ≤ nowMicros) then
    match manager.takeTerminal .timedOut with
    | (.ok response, manager) => (some response, manager)
    | (.error _, manager) => (none, manager)
  else (none, manager)

/-- Whether transaction capacity is currently occupied. -/
def isBusy (manager : SessionManager) : Bool := manager.active.isSome

/-- Authorized target UID of the exact active connection and transaction. -/
def targetUid (manager : SessionManager) (connection : ConnectionToken)
    (transactionId : TransactionId) : Except SessionError UInt32 :=
  match manager.verifyBinding connection transactionId with
  | .error error => .error error
  | .ok () =>
      match manager.active with
      | none => .error .noActiveTransaction
      | some active => .ok active.grant.targetUid

/-- Cancellation signal of the exact active connection and transaction. -/
def cancellationToken (manager : SessionManager) (connection : ConnectionToken)
    (transactionId : TransactionId) : Except SessionError CancellationToken :=
  match manager.verifyBinding connection transactionId with
  | .error error => .error error
  | .ok () =>
      match manager.active with
      | none => .error .noActiveTransaction
      | some active => .ok active.cancellation

section Laws

variable (manager : SessionManager) {connection : ConnectionToken} {transactionId : TransactionId}
  {active : ActiveSession}

/-- The active session, and the exact binding its owner has to present. -/
def Bound (connection : ConnectionToken) (transactionId : TransactionId)
    (active : ActiveSession) : Prop :=
  manager.active = some active ∧ active.connection = connection ∧
    active.grant.transactionId = transactionId

instance (connection : ConnectionToken) (transactionId : TransactionId) (active : ActiveSession) :
    Decidable (manager.Bound connection transactionId active) :=
  inferInstanceAs (Decidable (_ ∧ _ ∧ _))

/-- No active session has this binding. -/
def Foreign (connection : ConnectionToken) (transactionId : TransactionId) : Prop :=
  ∀ active, ¬ manager.Bound connection transactionId active

/-- A transaction is the one that is held, or foreign. -/
theorem bound_or_foreign (connection : ConnectionToken) (transactionId : TransactionId) :
    (∃ active, manager.Bound connection transactionId active) ∨
      manager.Foreign connection transactionId := by
  by_cases bound : ∃ active, manager.Bound connection transactionId active
  · exact .inl bound
  · exact .inr fun active same => bound ⟨active, same⟩

variable {manager}

/-- The transaction that is held passes. -/
theorem verifyBinding_of_bound (bound : manager.Bound connection transactionId active) :
    manager.verifyBinding connection transactionId = .ok () := by
  obtain ⟨held, rfl, rfl⟩ := bound
  simp [verifyBinding, held]

/-- A foreign one is refused. -/
theorem verifyBinding_of_foreign (foreign : manager.Foreign connection transactionId) :
    ∃ error, manager.verifyBinding connection transactionId = .error error := by
  unfold verifyBinding
  cases held : manager.active with
  | none => exact ⟨_, rfl⟩
  | some active =>
      by_cases sameConnection : active.connection = connection
      · by_cases sameTransaction : active.grant.transactionId = transactionId
        · exact absurd ⟨held, sameConnection, sameTransaction⟩ (foreign active)
        · exact ⟨.wrongTransaction, by simp [sameConnection, sameTransaction]⟩
      · exact ⟨.wrongConnection, by simp [sameConnection]⟩

/-- The owner of a session is no owner of another transaction. -/
theorem foreign_of_bound (bound : manager.Bound connection transactionId active)
    {other : TransactionId} (distinct : other ≠ transactionId) :
    manager.Foreign connection other := by
  rintro owner ⟨held, -, same⟩
  rw [bound.1, Option.some.injEq] at held
  subst held
  exact distinct (same.symm.trans bound.2.2)

/-- The deadline is compared with the time. -/
theorem deadlineReached_of_active (held : manager.active = some active) (nowMicros : Nat) :
    manager.deadlineReached nowMicros = .ok (decide (active.deadlineMicros ≤ nowMicros)) := by
  rw [deadlineReached, held]

/-- The transaction that is held ends, and its token is raised. -/
theorem takeTerminal_of_active (held : manager.active = some active) (decision : DecisionCode) :
    manager.takeTerminal decision =
      (.ok (.completed active.grant.transactionId decision), manager.release active) := by
  rw [takeTerminal, held]

/-- Signalling raises the token. -/
theorem signal_of_active (held : manager.active = some active) :
    manager.signal =
      { manager with flags := manager.flags.raise active.cancellation.address } := by
  rw [signal, held]

/-- Cancelling raises the flag early, which the terminal would do anyway. -/
theorem release_signal (held : manager.active = some active) :
    manager.signal.release active = manager.release active := by
  rw [signal_of_active held]
  simp [release]

/-- Progress of the transaction that is held, or its timeout. -/
theorem progress_of_bound (bound : manager.Bound connection transactionId active)
    (code : ProgressCode) (nowMicros : Nat) :
    manager.progress connection transactionId code nowMicros =
      if active.deadlineMicros ≤ nowMicros then
        (.ok (.completed transactionId .timedOut), manager.release active)
      else (.ok (.progress transactionId code), manager) := by
  rw [progress, verifyBinding_of_bound bound, deadlineReached_of_active bound.1,
    takeTerminal_of_active bound.1, bound.2.2]
  by_cases late : active.deadlineMicros ≤ nowMicros <;> simp [late]

/-- Progress of a foreign transaction is refused. -/
theorem progress_of_foreign (foreign : manager.Foreign connection transactionId)
    (code : ProgressCode) (nowMicros : Nat) :
    ∃ error, manager.progress connection transactionId code nowMicros =
      (.error error, manager) := by
  obtain ⟨error, refused⟩ := verifyBinding_of_foreign foreign
  exact ⟨error, by rw [progress, refused]⟩

/-- A reserved decision is refused. -/
theorem complete_of_reserved {decision : DecisionCode} (kept : reserved decision = true)
    (nowMicros : Nat) :
    manager.complete connection transactionId decision nowMicros =
      (.error .reservedDecision, manager) := by
  rw [complete, if_pos kept]

/-- The transaction that is held is completed, or has timed out. -/
theorem complete_of_bound (bound : manager.Bound connection transactionId active)
    {decision : DecisionCode} (free : reserved decision = false) (nowMicros : Nat) :
    manager.complete connection transactionId decision nowMicros =
      (.ok (.completed transactionId
        (if active.deadlineMicros ≤ nowMicros then .timedOut else decision)),
        manager.release active) := by
  rw [complete, verifyBinding_of_bound bound, deadlineReached_of_active bound.1,
    takeTerminal_of_active bound.1, takeTerminal_of_active bound.1, bound.2.2]
  by_cases late : active.deadlineMicros ≤ nowMicros <;> simp [late, free]

/-- Completing a foreign transaction is refused. -/
theorem complete_of_foreign (foreign : manager.Foreign connection transactionId)
    (decision : DecisionCode) (nowMicros : Nat) :
    ∃ error, manager.complete connection transactionId decision nowMicros =
      (.error error, manager) := by
  cases kept : reserved decision with
  | true => exact ⟨.reservedDecision, complete_of_reserved kept nowMicros⟩
  | false =>
      obtain ⟨error, refused⟩ := verifyBinding_of_foreign foreign
      exact ⟨error, by rw [complete, kept, refused]; rfl⟩

/-- The transaction that is held is cancelled, or has timed out. -/
theorem cancel_of_bound (bound : manager.Bound connection transactionId active) (nowMicros : Nat) :
    manager.cancel connection transactionId nowMicros =
      (.ok (.completed transactionId
        (if active.deadlineMicros ≤ nowMicros then .timedOut else .cancelled)),
        manager.release active) := by
  have held : manager.signal.active = some active := by
    rw [signal_of_active bound.1]
    exact bound.1
  simp only [cancel, verifyBinding_of_bound bound, deadlineReached_of_active held,
    takeTerminal_of_active held, bound.2.2, release_signal bound.1]
  by_cases late : active.deadlineMicros ≤ nowMicros <;> simp [late]

/-- Cancelling a foreign transaction is refused. -/
theorem cancel_of_foreign (foreign : manager.Foreign connection transactionId) (nowMicros : Nat) :
    ∃ error, manager.cancel connection transactionId nowMicros = (.error error, manager) := by
  obtain ⟨error, refused⟩ := verifyBinding_of_foreign foreign
  exact ⟨error, by rw [cancel, refused]⟩

/-- The transaction that is held expires after its deadline. -/
theorem expire_of_active (held : manager.active = some active) (nowMicros : Nat) :
    manager.expire nowMicros =
      if active.deadlineMicros ≤ nowMicros then
        (some (.completed active.grant.transactionId .timedOut), manager.release active)
      else (none, manager) := by
  rw [expire, held, takeTerminal_of_active held]
  by_cases late : active.deadlineMicros ≤ nowMicros <;> simp [late]

/-- Without a transaction nothing expires. -/
theorem expire_of_empty (empty : manager.active = none) (nowMicros : Nat) :
    manager.expire nowMicros = (none, manager) := by
  rw [expire, empty]
  rfl

/-- A busy manager refuses to start. -/
theorem start_of_active (held : manager.active = some active) (grant : AuthorizationGrant)
    (connection : ConnectionToken) (nowMicros : Nat) :
    manager.start grant connection nowMicros = (.error .busy, manager) := by
  rw [start, held]
  rfl

/-- The session that a successful start installs. -/
def opened (manager : SessionManager) (grant : AuthorizationGrant) (connection : ConnectionToken)
    (nowMicros : Nat) : ActiveSession where
  grant := grant
  connection := connection
  deadlineMicros := nowMicros + manager.config.transactionDurationMicros
  cancellation := ⟨manager.flags.size⟩

/-- An empty manager starts, unless the deadline does not fit. -/
theorem start_of_empty (empty : manager.active = none) (grant : AuthorizationGrant)
    (connection : ConnectionToken) (nowMicros : Nat) :
    manager.start grant connection nowMicros =
      if nowMicros + manager.config.transactionDurationMicros ≤ U64_MAX then
        (.ok (.started grant.transactionId),
          { manager with
            active := some (manager.opened grant connection nowMicros)
            flags := manager.flags.allocate })
      else (.error .deadlineOverflow, manager) := by
  rw [start, empty, checkedAdd]
  by_cases fits : nowMicros + manager.config.transactionDurationMicros ≤ U64_MAX <;>
    simp [fits, opened]

/-- The account of the transaction that is held. -/
theorem targetUid_of_bound (bound : manager.Bound connection transactionId active) :
    manager.targetUid connection transactionId = .ok active.grant.targetUid := by
  rw [targetUid, verifyBinding_of_bound bound, bound.1]

/-- A foreign transaction has no account. -/
theorem targetUid_of_foreign (foreign : manager.Foreign connection transactionId) :
    ∃ error, manager.targetUid connection transactionId = .error error := by
  obtain ⟨error, refused⟩ := verifyBinding_of_foreign foreign
  exact ⟨error, by rw [targetUid, refused]⟩

/-- The token of the transaction that is held. -/
theorem cancellationToken_of_bound (bound : manager.Bound connection transactionId active) :
    manager.cancellationToken connection transactionId = .ok active.cancellation := by
  rw [cancellationToken, verifyBinding_of_bound bound, bound.1]

/-- A foreign transaction has no token. -/
theorem cancellationToken_of_foreign (foreign : manager.Foreign connection transactionId) :
    ∃ error, manager.cancellationToken connection transactionId = .error error := by
  obtain ⟨error, refused⟩ := verifyBinding_of_foreign foreign
  exact ⟨error, by rw [cancellationToken, refused]⟩

end Laws

end SessionManager

end FaceAuth
