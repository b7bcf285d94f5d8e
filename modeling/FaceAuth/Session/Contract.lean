import FaceAuth.Session.Lifecycle
import Mathlib.Data.List.Induction

/-!
# The contract of the transaction manager over whole runs

Every finite sequence of calls on a fresh manager, with arbitrary connections,
transactions, decisions and clocks, keeps the one-shot lifecycle: one terminal
response for each start, refusals that change nothing, deadlines fixed at the
start, and a cancellation token that is raised exactly when its session ends.
-/

namespace FaceAuth

open Foundation

/-- One recorded call on the manager. -/
abbrev SessionEntry := Entry SessionManager SessionOperation SessionReply

/-- What every history of calls on a manager of this configuration satisfies. -/
structure SessionContract (config : SessionConfig) (entries : List SessionEntry) : Prop where
  /-- A start is followed by at most one completion, and by silence after it. -/
  oneTerminal : ∀ left opening segment right,
    entries = left ++ opening :: (segment ++ right) → opening.output.Starts →
    (∀ entry ∈ segment, ¬ entry.output.Starts) →
      segment.countP (fun entry => entry.output.Completes) ≤ 1 ∧
      segment.Pairwise fun earlier later =>
        earlier.output.Completes → later.output.response? = none
  /-- Every response between two starts speaks for the transaction of the first. -/
  answersOwner : ∀ left opening segment right transactionId,
    entries = left ++ opening :: (segment ++ right) →
    opening.output.response? = some (.started transactionId) →
    (∀ entry ∈ segment, ¬ entry.output.Starts) → ∀ entry ∈ segment, ∀ response,
      entry.output.response? = some response → response.transaction? = some transactionId
  /-- Nothing is answered before the first start. -/
  unopenedSilent : ∀ left right, entries = left ++ right →
    (∀ entry ∈ left, ¬ entry.output.Starts) → ∀ entry ∈ left, entry.output.response? = none
  /-- A foreign binding is refused and changes nothing. -/
  foreignRefused : ∀ entry ∈ entries, ∀ connection transactionId,
    entry.action.binding? = some (connection, transactionId) →
    entry.before.Foreign connection transactionId →
      (∃ error, entry.output.error? = some error) ∧ entry.after = entry.before
  /-- A reserved decision is refused and changes nothing. -/
  reservedRefused : ∀ entry ∈ entries, ∀ connection transactionId decision nowMicros,
    entry.action = .complete connection transactionId decision nowMicros →
    SessionManager.reserved decision = true →
      entry.output.error? = some .reservedDecision ∧ entry.after = entry.before
  /-- At or after the deadline the owner and the reaper time the session out. -/
  deadlineTimesOut : ∀ entry ∈ entries, ∀ active nowMicros,
    entry.before.active = some active → entry.action.clockFor active = some nowMicros →
    active.deadlineMicros ≤ nowMicros →
      entry.output.response? = some (.completed active.grant.transactionId .timedOut) ∧
      entry.after.active = none
  /-- A timeout is only answered at or after the deadline. -/
  timedOutLate : ∀ entry ∈ entries, ∀ transactionId,
    entry.output.response? = some (.completed transactionId .timedOut) →
      ∃ active nowMicros, entry.before.active = some active ∧
        active.grant.transactionId = transactionId ∧
        entry.action.clockFor active = some nowMicros ∧ active.deadlineMicros ≤ nowMicros
  /-- The session of every state is the one its start installed, deadline included. -/
  deadlineFixed : ∀ left entry right active, entries = left ++ entry :: right →
    entry.before.active = some active →
      ∃ earlier opening segment nowMicros, left = earlier ++ opening :: segment ∧
        opening.action = .start active.grant active.connection nowMicros ∧
        active.deadlineMicros = nowMicros + config.transactionDurationMicros ∧
        opening.after.active = some active ∧
        ∀ later ∈ segment, ¬ later.output.Starts ∧ ¬ later.output.Completes
  /-- Only `cancel` answers with a cancellation. -/
  cancelledByCancel : ∀ entry ∈ entries, ∀ transactionId,
    entry.output.response? = some (.completed transactionId .cancelled) →
      ∃ connection nowMicros, entry.action = .cancel connection transactionId nowMicros
  /-- A start on an occupied slot is refused and changes nothing. -/
  busyRefused : ∀ entry ∈ entries, ∀ grant connection nowMicros,
    entry.action = .start grant connection nowMicros → entry.before.active ≠ none →
      entry.output.error? = some .busy ∧ entry.after = entry.before
  /-- A start whose deadline overflows fails. -/
  overflowRefused : ∀ entry ∈ entries, ∀ grant connection nowMicros,
    entry.action = .start grant connection nowMicros → entry.before.active = none →
    U64_MAX < nowMicros + config.transactionDurationMicros →
      entry.output.error? = some .deadlineOverflow
  /-- A failed start leaves an empty manager as it was. -/
  failedStartEmpty : ∀ entry ∈ entries, ∀ grant connection nowMicros error,
    entry.action = .start grant connection nowMicros → entry.before.active = none →
    entry.output.error? = some error → entry.after = entry.before ∧ entry.after.active = none
  /-- A start hands its session a token that was never allocated and is down. -/
  tokenFresh : ∀ entry ∈ entries, entry.output.Starts →
    ∃ active, entry.after.active = some active ∧
      active.cancellation.address = entry.before.flags.size ∧
      entry.after.isCancelled active.cancellation = false
  /-- The token of a session is raised exactly once the session was completed. -/
  tokenRaisedAtEnd : ∀ left opening segment last right active,
    entries = left ++ opening :: (segment ++ last :: right) → opening.output.Starts →
    opening.after.active = some active →
      (last.after.isCancelled active.cancellation = true ↔
        ∃ entry ∈ segment ++ [last], entry.output.Completes)
  /-- A token is handed out to the exact binding of its session only. -/
  tokenBound : ∀ entry ∈ entries, ∀ connection transactionId token,
    entry.action = .cancellationToken connection transactionId →
    entry.output = .token (.ok token) →
      ∃ active, entry.before.Bound connection transactionId active ∧
        token = active.cancellation

namespace SessionManager

/-! ## Single steps -/

section Step

variable {manager : SessionManager} {operation : SessionOperation}

/-- Nothing but a start on the empty slot answers that a transaction started. -/
theorem step_starts (starts : (manager.step operation).1.Starts) :
    ∃ grant connection nowMicros, operation = .start grant connection nowMicros ∧
      manager.active = none ∧
      (manager.step operation).1.response? = some (.started grant.transactionId) ∧
      (manager.step operation).2 =
        { manager with
          active := some (manager.opened grant connection nowMicros)
          flags := manager.flags.allocate } := by
  have taken := manager.step_transition operation
  obtain ⟨transactionId, started⟩ := starts
  generalize manager.step operation = result at taken started
  rcases result with ⟨reply, next⟩
  cases taken with
  | opened empty fits => exact ⟨_, _, _, rfl, empty, rfl, rfl⟩
  | silent quiet => rw [quiet] at started; cases started
  | continued bound early => cases started
  | timedOut held clock late spoken => rw [spoken] at started; cases started
  | decided bound free early => cases started
  | cancelled bound early => cases started

/-- A step that answers without starting answers for the session that was active. -/
theorem step_response {response : Response}
    (answered : (manager.step operation).1.response? = some response)
    (unopened : ¬ (manager.step operation).1.Starts) :
    ∃ active, manager.active = some active ∧
      response.transaction? = some active.grant.transactionId := by
  have taken := manager.step_transition operation
  generalize manager.step operation = result at taken answered unopened
  rcases result with ⟨reply, next⟩
  cases taken with
  | opened empty fits => exact absurd ⟨_, rfl⟩ unopened
  | silent quiet => rw [quiet] at answered; cases answered
  | continued bound early =>
      cases answered
      exact ⟨_, bound.1, by rw [bound.2.2]; rfl⟩
  | timedOut held clock late spoken =>
      rw [spoken] at answered
      cases answered
      exact ⟨_, held, rfl⟩
  | decided bound free early =>
      cases answered
      exact ⟨_, bound.1, by rw [bound.2.2]; rfl⟩
  | cancelled bound early =>
      cases answered
      exact ⟨_, bound.1, by rw [bound.2.2]; rfl⟩

/-- A step either leaves the active session in place, or completes and releases it. -/
theorem step_of_active {active : ActiveSession} (held : manager.active = some active)
    (operation : SessionOperation) :
    ((manager.step operation).2 = manager ∧ ¬ (manager.step operation).1.Completes ∧
        ¬ (manager.step operation).1.Starts) ∨
      ((manager.step operation).2 = manager.release active ∧
        (manager.step operation).1.Completes ∧ ¬ (manager.step operation).1.Starts) := by
  have taken := manager.step_transition operation
  generalize manager.step operation = result at taken
  rcases result with ⟨reply, next⟩
  cases taken with
  | opened empty fits => rw [held] at empty; cases empty
  | silent quiet =>
      refine .inl ⟨rfl, ?_, ?_⟩
      · rintro ⟨transactionId, decision, spoken⟩
        rw [quiet] at spoken
        cases spoken
      · rintro ⟨transactionId, spoken⟩
        rw [quiet] at spoken
        cases spoken
  | continued bound early =>
      exact .inl ⟨rfl, fun ⟨_, _, spoken⟩ => (by cases spoken),
        fun ⟨_, spoken⟩ => (by cases spoken)⟩
  | timedOut known clock late spoken =>
      rw [held] at known
      cases known
      refine .inr ⟨rfl, ⟨_, _, spoken⟩, ?_⟩
      rintro ⟨transactionId, started⟩
      rw [spoken] at started
      cases started
  | decided bound free early =>
      have known := bound.1
      rw [held] at known
      cases known
      exact .inr ⟨rfl, ⟨_, _, rfl⟩, fun ⟨_, spoken⟩ => (by cases spoken)⟩
  | cancelled bound early =>
      have known := bound.1
      rw [held] at known
      cases known
      exact .inr ⟨rfl, ⟨_, _, rfl⟩, fun ⟨_, spoken⟩ => (by cases spoken)⟩

/-- On the empty slot a step either starts a transaction or changes and answers nothing. -/
theorem step_of_empty (empty : manager.active = none) (operation : SessionOperation) :
    (manager.step operation).1.Starts ∨
      ((manager.step operation).2 = manager ∧ (manager.step operation).1.response? = none) := by
  have taken := manager.step_transition operation
  generalize manager.step operation = result at taken
  rcases result with ⟨reply, next⟩
  cases taken with
  | opened empty fits => exact .inl ⟨_, rfl⟩
  | silent quiet => exact .inr ⟨rfl, quiet⟩
  | continued bound early => rw [bound.1] at empty; cases empty
  | timedOut held clock late spoken => rw [held] at empty; cases empty
  | decided bound free early => rw [bound.1] at empty; cases empty
  | cancelled bound early => rw [bound.1] at empty; cases empty

/-- The configuration stays. -/
theorem step_config : (manager.step operation).2.config = manager.config := by
  have taken := manager.step_transition operation
  generalize manager.step operation = result at taken
  rcases result with ⟨reply, next⟩
  cases taken <;> rfl

/-- Tokens that were raised stay raised. -/
theorem step_raised {token : CancellationToken} (raised : manager.isCancelled token = true) :
    (manager.step operation).2.isCancelled token = true := by
  have taken := manager.step_transition operation
  generalize manager.step operation = result at taken
  rcases result with ⟨reply, next⟩
  cases taken with
  | opened empty fits => exact (manager.flags.isRaised_allocate _).trans raised
  | silent quiet => exact raised
  | continued bound early => exact raised
  | timedOut held clock late spoken => exact manager.flags.isRaised_raise_mono _ _ raised
  | decided bound free early => exact manager.flags.isRaised_raise_mono _ _ raised
  | cancelled bound early => exact manager.flags.isRaised_raise_mono _ _ raised

/-- A foreign binding is refused and changes nothing. -/
theorem step_foreign {connection : ConnectionToken} {transactionId : TransactionId}
    (presented : operation.binding? = some (connection, transactionId))
    (foreign : manager.Foreign connection transactionId) :
    (∃ error, (manager.step operation).1.error? = some error) ∧
      (manager.step operation).2 = manager := by
  cases operation with
  | start grant connection nowMicros => cases presented
  | progress owner transaction code nowMicros =>
      cases presented
      obtain ⟨error, refused⟩ := progress_of_foreign foreign code nowMicros
      rw [step, refused]
      exact ⟨⟨error, rfl⟩, rfl⟩
  | complete owner transaction decision nowMicros =>
      cases presented
      obtain ⟨error, refused⟩ := complete_of_foreign foreign decision nowMicros
      rw [step, refused]
      exact ⟨⟨error, rfl⟩, rfl⟩
  | cancel owner transaction nowMicros =>
      cases presented
      obtain ⟨error, refused⟩ := cancel_of_foreign foreign nowMicros
      rw [step, refused]
      exact ⟨⟨error, rfl⟩, rfl⟩
  | expire nowMicros => cases presented
  | isBusy => cases presented
  | targetUid owner transaction =>
      cases presented
      obtain ⟨error, refused⟩ := targetUid_of_foreign foreign
      rw [step, refused]
      exact ⟨⟨error, rfl⟩, rfl⟩
  | cancellationToken owner transaction =>
      cases presented
      obtain ⟨error, refused⟩ := cancellationToken_of_foreign foreign
      rw [step, refused]
      exact ⟨⟨error, rfl⟩, rfl⟩

/-- A reserved decision is refused. -/
theorem step_reserved {connection : ConnectionToken} {transactionId : TransactionId}
    {decision : DecisionCode} {nowMicros : Nat} (kept : reserved decision = true) :
    (manager.step (.complete connection transactionId decision nowMicros)).1.error? =
        some .reservedDecision ∧
      (manager.step (.complete connection transactionId decision nowMicros)).2 = manager := by
  rw [step, complete_of_reserved kept]
  exact ⟨rfl, rfl⟩

/-- Every operation that shows the active session a late clock times it out. -/
theorem step_late {active : ActiveSession} {nowMicros : Nat}
    (held : manager.active = some active) (clock : operation.clockFor active = some nowMicros)
    (late : active.deadlineMicros ≤ nowMicros) :
    (manager.step operation).1.response? =
        some (.completed active.grant.transactionId .timedOut) ∧
      (manager.step operation).2 = manager.release active := by
  cases operation with
  | start grant connection now => cases clock
  | progress connection transactionId code now =>
      rw [SessionOperation.clockFor, Option.ite_none_right_eq_some] at clock
      obtain ⟨owner, same⟩ := clock
      cases same
      rw [step, progress_of_bound ⟨held, owner⟩, if_pos late, owner.2]
      exact ⟨rfl, rfl⟩
  | complete connection transactionId decision now =>
      rw [SessionOperation.clockFor, Option.ite_none_right_eq_some] at clock
      obtain ⟨⟨sameConnection, sameTransaction, free⟩, same⟩ := clock
      cases same
      rw [step, complete_of_bound ⟨held, sameConnection, sameTransaction⟩ free, if_pos late,
        sameTransaction]
      exact ⟨rfl, rfl⟩
  | cancel connection transactionId now =>
      rw [SessionOperation.clockFor, Option.ite_none_right_eq_some] at clock
      obtain ⟨owner, same⟩ := clock
      cases same
      rw [step, cancel_of_bound ⟨held, owner⟩, if_pos late, owner.2]
      exact ⟨rfl, rfl⟩
  | expire now =>
      cases clock
      rw [step, expire_of_active held, if_pos late]
      exact ⟨rfl, rfl⟩
  | isBusy => cases clock
  | targetUid connection transactionId => cases clock
  | cancellationToken connection transactionId => cases clock

/-- A timeout is only answered to a late clock. -/
theorem step_timedOut {transactionId : TransactionId}
    (answered : (manager.step operation).1.response? = some (.completed transactionId .timedOut)) :
    ∃ active nowMicros, manager.active = some active ∧
      active.grant.transactionId = transactionId ∧
      operation.clockFor active = some nowMicros ∧ active.deadlineMicros ≤ nowMicros := by
  have taken := manager.step_transition operation
  generalize manager.step operation = result at taken answered
  rcases result with ⟨reply, next⟩
  cases taken with
  | opened empty fits => cases answered
  | silent quiet => rw [quiet] at answered; cases answered
  | continued bound early => cases answered
  | timedOut held clock late spoken =>
      rw [spoken] at answered
      cases answered
      exact ⟨_, _, held, rfl, clock, late⟩
  | decided bound free early =>
      cases answered
      cases free
  | cancelled bound early => cases answered

/-- Only cancelling is answered so. -/
theorem step_cancelled {transactionId : TransactionId}
    (answered : (manager.step operation).1.response? = some (.completed transactionId .cancelled)) :
    ∃ connection nowMicros, operation = .cancel connection transactionId nowMicros := by
  have taken := manager.step_transition operation
  generalize manager.step operation = result at taken answered
  rcases result with ⟨reply, next⟩
  cases taken with
  | opened empty fits => cases answered
  | silent quiet => rw [quiet] at answered; cases answered
  | continued bound early => cases answered
  | timedOut held clock late spoken =>
      rw [spoken] at answered
      cases answered
  | decided bound free early =>
      cases answered
      cases free
  | cancelled bound early =>
      cases answered
      exact ⟨_, _, rfl⟩

/-- A busy manager refuses to start. -/
theorem step_start_busy {grant : AuthorizationGrant} {connection : ConnectionToken}
    {nowMicros : Nat} (occupied : manager.active ≠ none) :
    (manager.step (.start grant connection nowMicros)).1.error? = some .busy ∧
      (manager.step (.start grant connection nowMicros)).2 = manager := by
  obtain ⟨active, held⟩ := Option.ne_none_iff_exists'.mp occupied
  rw [step, start_of_active held]
  exact ⟨rfl, rfl⟩

/-- A deadline that does not fit is refused. -/
theorem step_start_overflow {grant : AuthorizationGrant} {connection : ConnectionToken}
    {nowMicros : Nat} (empty : manager.active = none)
    (wide : U64_MAX < nowMicros + manager.config.transactionDurationMicros) :
    (manager.step (.start grant connection nowMicros)).1.error? = some .deadlineOverflow := by
  rw [step, start_of_empty empty, if_neg (Nat.not_le.mpr wide)]
  rfl

/-- A failed start changes nothing. -/
theorem step_start_failed {grant : AuthorizationGrant} {connection : ConnectionToken}
    {nowMicros : Nat} {error : SessionError} (empty : manager.active = none)
    (failed : (manager.step (.start grant connection nowMicros)).1.error? = some error) :
    (manager.step (.start grant connection nowMicros)).2 = manager := by
  rcases step_of_empty empty (.start grant connection nowMicros) with
    starts | ⟨same, -⟩
  · obtain ⟨_, _, _, _, _, started, _⟩ := step_starts starts
    generalize (manager.step (.start grant connection nowMicros)).1 = reply at failed started
    cases reply with
    | answered result =>
        cases result with
        | ok response => cases failed
        | error refusal => cases started
    | reaped response => cases failed
    | busy occupied => cases started
    | uid result => cases started
    | token result => cases started
  · exact same

/-- A start allocates the token of its session, and leaves it down. -/
theorem step_start_token (starts : (manager.step operation).1.Starts) :
    ∃ active, (manager.step operation).2.active = some active ∧
      active.cancellation.address = manager.flags.size ∧
      active.cancellation.address < (manager.step operation).2.flags.size ∧
      (manager.step operation).2.isCancelled active.cancellation = false := by
  obtain ⟨grant, connection, nowMicros, -, -, -, installed⟩ := step_starts starts
  rw [installed]
  refine ⟨manager.opened grant connection nowMicros, rfl, rfl, ?_, ?_⟩
  · change manager.flags.size < manager.flags.allocate.size
    rw [Flags.size_allocate]
    exact Nat.lt_succ_self _
  · exact (manager.flags.isRaised_allocate _).trans
      (manager.flags.isRaised_of_size_le _ (Nat.le_refl _))

/-- A token is given for the bound transaction. -/
theorem step_token {connection : ConnectionToken} {transactionId : TransactionId}
    {token : CancellationToken}
    (handed : (manager.step (.cancellationToken connection transactionId)).1 = .token (.ok token)) :
    ∃ active, manager.Bound connection transactionId active ∧ token = active.cancellation := by
  rcases manager.bound_or_foreign connection transactionId with ⟨active, bound⟩ | foreign
  · rw [step, cancellationToken_of_bound bound] at handed
    cases handed
    exact ⟨active, bound, rfl⟩
  · obtain ⟨error, refused⟩ := cancellationToken_of_foreign foreign
    rw [step, refused] at handed
    cases handed

end Step

/-- The manager is a one-shot slot: a start opens it and a completion closes it. -/
def oneShot : OneShot step where
  held manager := manager.active ≠ none
  opens _ reply := reply.Starts
  speaks reply := reply.response? ≠ none
  closes reply := reply.Completes
  opens_or_held manager operation spoken := by
    by_cases opens : (manager.step operation).1.Starts
    · exact .inl opens
    · obtain ⟨response, answered⟩ := Option.ne_none_iff_exists'.mp spoken
      obtain ⟨active, held, -⟩ := step_response answered opens
      exact .inr (by rw [held]; exact Option.some_ne_none active)
  closes_speaks reply completes := by
    obtain ⟨transactionId, decision, spoken⟩ := completes
    rw [spoken]
    exact Option.some_ne_none _
  closes_empty manager operation completes := by
    cases held : manager.active with
    | none =>
        rcases step_of_empty held operation with starts | ⟨-, quiet⟩
        · obtain ⟨transactionId, decision, spoken⟩ := completes
          obtain ⟨grant, connection, nowMicros, -, -, started, -⟩ := step_starts starts
          rw [spoken] at started
          cases started
        · obtain ⟨transactionId, decision, spoken⟩ := completes
          rw [quiet] at spoken
          cases spoken
    | some active =>
        rcases step_of_active held operation with ⟨-, open_, -⟩ | ⟨released, -, -⟩
        · exact absurd completes open_
        · rw [released]
          exact fun occupied => occupied rfl
  empty_stays manager operation empty unopened := by
    rcases step_of_empty (not_not.mp empty) operation with starts | ⟨same, -⟩
    · exact absurd starts unopened
    · rw [same]
      exact empty

/-! ## Runs -/

section Run

variable {manager : SessionManager} {operations : List SessionOperation}

/-- The configuration stays over a run. -/
theorem final_config (manager : SessionManager) (operations : List SessionOperation) :
    (final step manager operations).config = manager.config := by
  have kept : Preserved step fun state : SessionManager => state.config = manager.config :=
    fun _ _ same => step_config.trans same
  exact kept.final rfl operations

/-- Without a start the slot keeps its session or stays empty. -/
theorem run_owner {active : ActiveSession}
    (held : manager.active = some active ∨ manager.active = none)
    (unopened : ∀ entry ∈ run step manager operations, ¬ entry.output.Starts) :
    ∀ entry ∈ run step manager operations,
      entry.before.active = some active ∨ entry.before.active = none := by
  induction operations generalizing manager with
  | nil =>
      intro entry member
      cases member
  | cons operation operations ih =>
      rw [run_cons] at unopened ⊢
      have first : ¬ (manager.step operation).1.Starts := unopened _ List.mem_cons_self
      have next : (manager.step operation).2.active = some active ∨
          (manager.step operation).2.active = none := by
        rcases held with held | empty
        · rcases step_of_active held operation with ⟨same, -⟩ | ⟨released, -⟩
          · exact .inl (by rw [same]; exact held)
          · exact .inr (by rw [released]; rfl)
        · rcases step_of_empty empty operation with starts | ⟨same, -⟩
          · exact absurd starts first
          · exact .inr (by rw [same]; exact empty)
      intro entry member
      rcases List.mem_cons.mp member with rfl | member
      · exact held
      · exact ih next (fun later inside => unopened later (List.mem_cons_of_mem _ inside))
          entry member

/-- Between two starts every response speaks for the first one's session. -/
theorem run_answers_owner {active : ActiveSession} (held : manager.active = some active)
    (unopened : ∀ entry ∈ run step manager operations, ¬ entry.output.Starts)
    {entry : SessionEntry} (member : entry ∈ run step manager operations) {response : Response}
    (answered : entry.output.response? = some response) :
    response.transaction? = some active.grant.transactionId := by
  obtain ⟨first, second, -, taken⟩ := mem_run step member
  have owner := run_owner (.inl held) unopened entry member
  have opens := unopened entry member
  rw [taken] at answered opens owner
  obtain ⟨owning, before, spoken⟩ := step_response answered opens
  rcases owner with same | empty
  · rw [entryAt_before, before] at same
    cases same
    exact spoken
  · rw [entryAt_before, before] at empty
    cases empty

/-- The origin of the active session: its start, and no completion since. -/
theorem final_origin (fresh : manager.active = none) {active : ActiveSession}
    (held : (final step manager operations).active = some active) :
    ∃ first nowMicros second,
      operations = first ++ .start active.grant active.connection nowMicros :: second ∧
      active.deadlineMicros = nowMicros + manager.config.transactionDurationMicros ∧
      (final step manager
        (first ++ [.start active.grant active.connection nowMicros])).active = some active ∧
      ∀ entry ∈ run step (final step manager
          (first ++ [.start active.grant active.connection nowMicros])) second,
        ¬ entry.output.Starts ∧ ¬ entry.output.Completes := by
  induction operations using List.reverseRecOn with
  | nil =>
      rw [final_nil, fresh] at held
      cases held
  | append_singleton operations operation ih =>
      rw [final_append] at held
      cases before : (final step manager operations).active with
      | some known =>
          rcases step_of_active before operation with
            ⟨same, quiet, unopened⟩ | ⟨released, -⟩
          · rw [final_cons, final_nil, same, before] at held
            cases held
            obtain ⟨first, nowMicros, second, rfl, deadline, installed, silent⟩ := ih before
            refine ⟨first, nowMicros, second ++ [operation], by simp, deadline, installed, ?_⟩
            intro entry member
            rw [run_append, List.mem_append] at member
            rcases member with member | member
            · exact silent entry member
            · rw [← final_append] at member
              rw [List.append_assoc, List.singleton_append] at member
              rw [run_cons, run_nil, List.mem_singleton] at member
              subst member
              exact ⟨unopened, quiet⟩
          · rw [final_cons, final_nil, released] at held
            cases held
      | none =>
          rcases step_of_empty before operation with starts | ⟨same, -⟩
          · obtain ⟨grant, connection, nowMicros, rfl, -, -, installed⟩ := step_starts starts
            have now : (final step manager (operations ++
                [.start grant connection nowMicros])).active = some active := by
              rw [final_append]
              exact held
            rw [final_cons, final_nil, installed] at held
            cases held
            refine ⟨operations, nowMicros, [], rfl, ?_, now, fun entry member => by cases member⟩
            rw [← final_config manager operations]
            rfl
          · rw [final_cons, final_nil, same, before] at held
            cases held

/-- A token that was raised stays so over a run. -/
theorem final_raised {token : CancellationToken} (raised : manager.isCancelled token = true) :
    (final step manager operations).isCancelled token = true := by
  have kept : Preserved step fun state : SessionManager => state.isCancelled token = true :=
    fun _ _ before => step_raised before
  exact kept.final raised operations

/-- From a session whose token is down, the token is up exactly when some step
of the run completed. -/
theorem final_raised_iff {active : ActiveSession} (held : manager.active = some active)
    (allocated : active.cancellation.address < manager.flags.size)
    (down : manager.isCancelled active.cancellation = false) :
    (final step manager operations).isCancelled active.cancellation = true ↔
      ∃ entry ∈ run step manager operations, entry.output.Completes := by
  induction operations with
  | nil =>
      rw [final_nil, down]
      exact ⟨fun impossible => (by cases impossible), fun ⟨_, member, _⟩ => (by cases member)⟩
  | cons operation operations ih =>
      rw [final_cons, run_cons]
      rcases step_of_active held operation with ⟨same, quiet, -⟩ | ⟨released, ends, -⟩
      · rw [same, ih]
        constructor
        · rintro ⟨entry, member, completes⟩
          exact ⟨entry, List.mem_cons_of_mem _ member, completes⟩
        · rintro ⟨entry, member, completes⟩
          rcases List.mem_cons.mp member with rfl | member
          · exact absurd completes quiet
          · exact ⟨entry, member, completes⟩
      · refine ⟨fun _ => ⟨_, List.mem_cons_self, ends⟩, fun _ => final_raised ?_⟩
        rw [released]
        exact manager.flags.isRaised_raise_self _ allocated

end Run

/-! ## The contract -/

section Fields

variable {manager : SessionManager} {operations : List SessionOperation}

/-- A split of a run at one entry is a step from the state the left part ends in. -/
theorem run_opening {left right : List SessionEntry} {opening : SessionEntry}
    (split : run step manager operations = left ++ opening :: right) :
    ∃ first second, left = run step manager first ∧
      opening = entryAt step (final step manager first) opening.action ∧
      right = run step opening.after second := by
  obtain ⟨first, second, -, same, taken, rest⟩ := run_split_entry step split
  exact ⟨first, second, same, taken, rest⟩

/-- A prefix of a run is a run. -/
theorem run_prefix {left right : List SessionEntry}
    (split : run step manager operations = left ++ right) :
    ∃ first, left = run step manager first := by
  obtain ⟨first, second, -, same, -⟩ := run_split step split
  exact ⟨first, same⟩

/-- A transaction has one terminal at most, and no answer after it. -/
theorem contract_oneTerminal {left segment right : List SessionEntry} {opening : SessionEntry}
    (split : run step manager operations = left ++ opening :: (segment ++ right))
    (unopened : ∀ entry ∈ segment, ¬ entry.output.Starts) :
    segment.countP (fun entry => entry.output.Completes) ≤ 1 ∧
      segment.Pairwise fun earlier later =>
        earlier.output.Completes → later.output.response? = none := by
  obtain ⟨first, second, -, -, rest⟩ := run_opening split
  obtain ⟨inner, same⟩ := run_prefix rest.symm
  subst same
  let _ : DecidablePred oneShot.closes :=
    inferInstanceAs (DecidablePred SessionReply.Completes)
  exact ⟨oneShot.closing_count unopened,
    (oneShot.closing_last unopened).imp fun last closed => not_not.mp (last closed)⟩

/-- Every answer is about the transaction. -/
theorem contract_answersOwner {left segment right : List SessionEntry} {opening : SessionEntry}
    {transactionId : TransactionId}
    (split : run step manager operations = left ++ opening :: (segment ++ right))
    (started : opening.output.response? = some (.started transactionId))
    (unopened : ∀ entry ∈ segment, ¬ entry.output.Starts) {entry : SessionEntry}
    (member : entry ∈ segment) {response : Response}
    (answered : entry.output.response? = some response) :
    response.transaction? = some transactionId := by
  obtain ⟨first, second, -, taken, rest⟩ := run_opening split
  obtain ⟨inner, same⟩ := run_prefix rest.symm
  subst same
  rw [taken, entryAt_output] at started
  obtain ⟨grant, connection, nowMicros, -, -, answer, installed⟩ := step_starts ⟨_, started⟩
  rw [started] at answer
  cases answer
  have held : opening.after.active =
      some ((final step manager first).opened grant connection nowMicros) := by
    rw [taken, entryAt_after, installed]
  exact run_answers_owner held unopened member answered

/-- The deadline of a transaction stays what it was at its start. -/
theorem contract_deadlineFixed (fresh : manager.active = none)
    {left right : List SessionEntry} {entry : SessionEntry} {active : ActiveSession}
    (split : run step manager operations = left ++ entry :: right)
    (held : entry.before.active = some active) :
    ∃ earlier opening segment nowMicros, left = earlier ++ opening :: segment ∧
      opening.action = .start active.grant active.connection nowMicros ∧
      active.deadlineMicros = nowMicros + manager.config.transactionDurationMicros ∧
      opening.after.active = some active ∧
      ∀ later ∈ segment, ¬ later.output.Starts ∧ ¬ later.output.Completes := by
  obtain ⟨first, second, same, taken, -⟩ := run_opening split
  rw [taken, entryAt_before] at held
  obtain ⟨earlier, nowMicros, rest, rfl, deadline, installed, silent⟩ := final_origin fresh held
  rw [final_append] at installed silent
  refine ⟨run step manager earlier,
    entryAt step (final step manager earlier) (.start active.grant active.connection nowMicros),
    _, nowMicros, ?_, rfl, deadline, installed, silent⟩
  rw [same, run_append, run_cons]
  rfl

/-- The token is raised exactly when the transaction completes. -/
theorem contract_tokenRaisedAtEnd {left segment right : List SessionEntry}
    {opening last : SessionEntry} {active : ActiveSession}
    (split : run step manager operations = left ++ opening :: (segment ++ last :: right))
    (held : opening.after.active = some active)
    (fresh : active.cancellation.address < opening.after.flags.size)
    (down : opening.after.isCancelled active.cancellation = false) :
    last.after.isCancelled active.cancellation = true ↔
      ∃ entry ∈ segment ++ [last], entry.output.Completes := by
  obtain ⟨first, second, -, -, rest⟩ := run_opening split
  obtain ⟨inner, tail, -, same, taken, -⟩ := run_split_entry step rest.symm
  have whole : segment ++ [last] = run step opening.after (inner ++ [last.action]) := by
    rw [run_append, run_cons, run_nil, ← taken, same]
  have ends : last.after = final step opening.after (inner ++ [last.action]) := by
    rw [final_append, taken]
    rfl
  rw [whole, ends]
  exact final_raised_iff held fresh down

/-- A fact about every single step holds of every entry of a run. -/
theorem run_each {property : SessionEntry → Prop}
    (each : ∀ state operation, property (entryAt step state operation)) :
    ∀ entry ∈ run step manager operations, property entry := by
  intro entry member
  obtain ⟨first, second, -, taken⟩ := mem_run step member
  rw [taken]
  exact each _ _

end Fields

/-- A new manager has no transaction. -/
theorem new_fresh {config : SessionConfig} {manager : SessionManager}
    (fresh : SessionManager.new config = .ok manager) :
    manager.active = none ∧ manager.config = config := by
  unfold SessionManager.new at fresh
  split at fresh
  · cases fresh
  · cases fresh
    exact ⟨rfl, rfl⟩

/-- Every history of calls on a fresh manager satisfies the session contract. -/
theorem run_contract {config : SessionConfig} {manager : SessionManager}
    (fresh : SessionManager.new config = .ok manager) (operations : List SessionOperation) :
    SessionContract config (run step manager operations) := by
  obtain ⟨empty, rfl⟩ := new_fresh fresh
  exact {
    oneTerminal := fun left opening segment right split _ unopened =>
      contract_oneTerminal split unopened
    answersOwner := fun left opening segment right transactionId split started unopened entry
        member response answered =>
      contract_answersOwner split started unopened member answered
    unopenedSilent := fun left right split unopened entry member => by
      obtain ⟨first, rfl⟩ := run_prefix split
      have silent := oneShot.empty_silent (not_not.mpr empty) unopened entry member
      exact not_not.mp silent
    foreignRefused := run_each fun state operation connection transactionId presented foreign =>
      step_foreign presented foreign
    reservedRefused := run_each fun state operation connection transactionId decision nowMicros
        same kept => by
      cases same
      exact step_reserved kept
    deadlineTimesOut := run_each fun state operation active nowMicros held clock late =>
      ⟨(step_late held clock late).1, congrArg SessionManager.active (step_late held clock late).2⟩
    timedOutLate := run_each fun state operation transactionId answered => step_timedOut answered
    deadlineFixed := fun left entry right active split held =>
      contract_deadlineFixed empty split held
    cancelledByCancel := run_each fun state operation transactionId answered =>
      step_cancelled answered
    busyRefused := run_each fun state operation grant connection nowMicros same occupied => by
      cases same
      exact step_start_busy occupied
    overflowRefused := fun entry member grant connection nowMicros same slot wide => by
      obtain ⟨first, second, -, taken⟩ := mem_run step member
      rw [taken] at slot ⊢
      rw [entryAt_before] at slot
      rw [← final_config manager first] at wide
      rw [entryAt_output, same]
      exact step_start_overflow slot wide
    failedStartEmpty := run_each fun state operation grant connection nowMicros error same slot
        failed => by
      cases same
      have unchanged := step_start_failed slot failed
      exact ⟨unchanged, (congrArg active unchanged).trans slot⟩
    tokenFresh := run_each fun state operation starts => by
      obtain ⟨active, held, fresh, -, down⟩ := step_start_token starts
      exact ⟨active, held, fresh, down⟩
    tokenRaisedAtEnd := fun left opening segment last right active split starts held => by
      obtain ⟨first, second, -, taken, -⟩ := run_opening split
      rw [taken] at starts
      obtain ⟨known, installed, -, allocated, down⟩ := step_start_token starts
      have same : opening.after = (step (final step manager first) opening.action).2 :=
        congrArg Entry.after taken
      rw [← same] at installed allocated down
      rw [held] at installed
      cases installed
      exact contract_tokenRaisedAtEnd split held allocated down
    tokenBound := run_each fun state operation connection transactionId token same handed => by
      cases same
      exact step_token handed }

/-- A manager with the default transaction duration. -/
def defaultManager : SessionManager := ⟨.default, SessionConfig.default_valid, none, .empty⟩

/-- The contract at a session that is started, refused to others, continued,
timed out by its own cancellation and then started again. -/
theorem run_contract_default :
    SessionContract SessionConfig.default (run step defaultManager
      [.start .test ⟨1⟩ 1_000_000, .cancellationToken ⟨2⟩ ⟨7⟩,
        .progress ⟨1⟩ ⟨7⟩ .holdStill 2_000_000, .cancel ⟨1⟩ ⟨7⟩ 16_000_000,
        .complete ⟨1⟩ ⟨7⟩ .accepted 16_000_001, .start .test ⟨1⟩ 17_000_000]) :=
  run_contract rfl _

end SessionManager

end FaceAuth
