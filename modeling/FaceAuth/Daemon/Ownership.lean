import FaceAuth.Daemon.Ledger

/-!
# The owner of the active operation

The owner record and the coordinator are set together and released together,
as long as no clean-up meets the operation of another call.
-/

namespace FaceAuth

open Foundation

/-- The owner record names the active operation, and there is one only then. -/
def EnrollmentDaemon.Owned (daemon : EnrollmentDaemon) : Prop :=
  daemon.management.owner.map (fun owner => (owner.targetUid, owner.operationId)) =
    daemon.management.coordinator.active.map fun active => (active.uid, active.id)

instance (daemon : EnrollmentDaemon) : Decidable daemon.Owned :=
  inferInstanceAs (Decidable (_ = _))

/-- The authorization that a call goes on with is bound to its target account. -/
def Call.Authorized : Call → Prop
  | .begin _ targetUid (.admitting authorization) => authorization.targetUid = targetUid
  | .begin _ targetUid (.starting _ authorization) => authorization.targetUid = targetUid
  | _ => True

/-- The clean-up after a controller that did not start meets its own operation, or none. -/
def Call.Tidy (daemon : EnrollmentDaemon) : Call → Prop
  | .begin _ targetUid (.rollingBack operationId _) =>
      daemon.management.coordinator.active = none ∨ daemon.HoldsFor targetUid operationId
  | _ => True

instance (daemon : EnrollmentDaemon) : DecidablePred (Call.Tidy daemon) := fun call =>
  decidable_of_iff ((match call with
    | .begin _ targetUid (.rollingBack operationId _) =>
        decide (daemon.management.coordinator.active = none ∨
          daemon.HoldsFor targetUid operationId)
    | _ => true) = true) <| by
    unfold Call.Tidy
    split
    · exact decide_eq_true_iff
    · exact iff_of_true rfl trivial

/-- Turns whose clean-up, if they are one, is tidy. -/
def Manager1.Tidy (state : Manager1) : Turn CallChoice DaemonEvent → Prop
  | .thread index _ => (state.thread index).Tidy state.shared
  | .event _ => True

instance (state : Manager1) : DecidablePred state.Tidy
  | .thread index _ => inferInstanceAs (Decidable ((state.thread index).Tidy state.shared))
  | .event _ => isTrue trivial

variable {uniqueName : String → Bool}

section Sections

variable {daemon after : EnrollmentDaemon} {call own : Call}

/-- A call that begins stays authorized. -/
theorem beginEnrollment_authorized {sender : String} {targetUid : UInt32}
    {phase next : BeginPhase} (authorized : (Call.begin sender targetUid phase).Authorized)
    (begun : Begun daemon sender targetUid phase after next) :
    (Call.begin sender targetUid next).Authorized := by
  cases begun with
  | authorized bound => exact bound
  | admitted fresh empty => exact authorized
  | _ => trivial

/-- A call that goes on stays authorized. -/
theorem advanceCall_authorized {thread : Nat} {choice : CallChoice}
    (authorized : call.Authorized)
    (advanced : advanceCall uniqueName daemon thread choice call = some (after, own)) :
    own.Authorized := by
  cases advanceCall_cases advanced with
  | invoked fresh =>
      rcases fresh_cases fresh with ⟨_, _, rfl⟩ | ⟨_, _, _, rfl⟩ | ⟨_, _, _, rfl⟩ | rfl |
        ⟨_, _, rfl⟩ <;> trivial
  | begin taken => exact beginEnrollment_authorized authorized (beginEnrollment_cases taken)
  | cancel taken => trivial
  | ownerChange taken => trivial
  | reap taken => trivial
  | relay taken => trivial

/-- A section of a call keeps the owner record in step with the operation, unless it
cleans up after an operation that is no longer the active one. -/
theorem EnrollmentDaemon.Owned.governed (owned : daemon.Owned) (authorized : call.Authorized)
    (tidy : call.Tidy daemon) (governs : Governs daemon call after) : after.Owned := by
  unfold EnrollmentDaemon.Owned at owned ⊢
  cases governs with
  | untouched management updates issued => rw [management, owned]
  | admitted at_ fresh empty management updates issued =>
      subst at_
      rw [management]
      simp only [Option.map_some]
      rw [ManagementCoordinator.opened, authorized]
  | spoken held management updates issued => rw [management, owned]
  | interrupted held interrupts reserved management updates issued =>
      rw [management]
      rfl
  | concluded held at_ management updates issued =>
      rw [management]
      rfl
  | erased at_ foreign management updates issued =>
      subst at_
      rw [management]
      rcases tidy with empty | ⟨active, bound⟩
      · rw [empty]
        rfl
      · exact absurd bound (foreign active)

/-- What happens apart from the calls keeps the owner record in step. -/
theorem EnrollmentDaemon.Owned.occurred {event : DaemonEvent} (owned : daemon.Owned)
    (occurred : occurEvent daemon event = some after) : after.Owned := by
  have authorized : Call.idle.Authorized := trivial
  have tidy : Call.idle.Tidy daemon := trivial
  exact owned.governed authorized tidy (EnrollmentDaemon.occurEvent_governs occurred)

/-- At the start there is neither an operation nor an owner. -/
theorem EnrollmentDaemon.initial_owned (config : ManagementConfig) (clock : Nat) :
    (EnrollmentDaemon.initial config clock).Owned := rfl

/-- A clean-up that meets another operation erases its owner. -/
theorem not_owned_of_untidy {thread : Nat} {choice : CallChoice} (untidy : ¬ call.Tidy daemon)
    (advanced : advanceCall uniqueName daemon thread choice call = some (after, own)) :
    ¬ after.Owned := by
  unfold Call.Tidy at untidy
  split at untidy
  · next sender targetUid operationId error =>
      obtain ⟨occupied, stranger⟩ := not_or.mp untidy
      have foreign : daemon.management.coordinator.Foreign targetUid operationId :=
        fun active bound => stranger ⟨active, bound⟩
      obtain ⟨active, held⟩ := Option.ne_none_iff_exists'.mp occupied
      obtain ⟨⟨_, next⟩, taken, same⟩ := Option.map_eq_some_iff.mp advanced
      cases same
      unfold EnrollmentDaemon.Owned
      cases choice <;> cases taken
      rw [EnrollmentDaemon.management_settle, ManagementState.rollBack,
        ManagementCoordinator.cancel_of_foreign foreign]
      simp [held]
  · exact absurd trivial untidy

end Sections

/-- The authorization of every call in a run is bound to its target account. -/
theorem Manager1.authorized {allowed : Manager1 → Turn CallChoice DaemonEvent → Prop}
    {config : ManagementConfig} {clock : Nat} {state : Manager1}
    (reached : (manager1 uniqueName).Reaches allowed (Manager1.initial config clock) state)
    (index : Nat) : (state.thread index).Authorized := by
  have kept : ∀ (state : Manager1) (index : Nat) (choice : CallChoice)
      (after : EnrollmentDaemon) (own : Call), (state.thread index).Authorized →
      (manager1 uniqueName).advance index choice state.shared (state.thread index) =
        some (after, own) → own.Authorized :=
    fun _ _ _ _ _ authorized advanced => advanceCall_authorized authorized advanced
  exact reached.each (fun _ => trivial) kept index

/-- In a run whose clean-ups are tidy, the owner record is present exactly while the
coordinator holds an operation, and names it. The first untidy one breaks this. -/
theorem Manager1.owned_iff_tidy {config : ManagementConfig} {clock : Nat} {state : Manager1}
    (reached : (manager1 uniqueName).Reaches Manager1.Tidy (Manager1.initial config clock) state) :
    state.shared.Owned ∧
      ∀ turn next, (manager1 uniqueName).step state turn = some next →
        (next.shared.Owned ↔ state.Tidy turn) := by
  have owned : state.shared.Owned := by
    have attached := reached.attach fun _ earlier => Manager1.authorized earlier
    exact attached.shared (EnrollmentDaemon.initial_owned config clock)
      (fun _ index _ _ _ owned fits advanced =>
        owned.governed (fits.2 index) fits.1 (advanceCall_governs advanced))
      (fun _ _ _ owned _ occurred => owned.occurred occurred)
  refine ⟨owned, ?_⟩
  intro turn next taken
  cases turn with
  | thread index choice =>
      obtain ⟨after, own, advanced, rfl⟩ := Program.step_thread_eq_some_iff.mp taken
      constructor
      · intro kept
        by_contra untidy
        exact not_owned_of_untidy untidy advanced kept
      · intro tidy
        exact owned.governed (Manager1.authorized reached index) tidy
          (advanceCall_governs advanced)
  | event event =>
      obtain ⟨after, occurred, rfl⟩ := Program.step_event_eq_some_iff.mp taken
      exact iff_of_true (owned.occurred occurred) trivial

/-- One operation that begins and is announced. -/
def announcedTurns : List (Turn CallChoice DaemonEvent) :=
  [.thread 0 (.invoke (.begin ":1.1" 1000 .checking)), .thread 0 (.caller (.ok 1000)),
    .thread 0 (.authorization (.ok ⟨1000⟩)), .thread 0 (.generated ⟨1⟩),
    .thread 0 (.lease (.ok ())), .thread 0 (.emitted true)]

/-- An operation that was announced has its owner. -/
theorem Manager1.owned_iff_tidy_test :
    ((manager1 fun _ => true).after (Manager1.initial .default 0) announcedTurns).shared.Owned := by
  have obeys : (manager1 fun _ => true).Obeys Manager1.Tidy (Manager1.initial .default 0)
      announcedTurns := by decide
  exact (Manager1.owned_iff_tidy obeys.reaches).1

/-- The first operation expires before its controller is started, and its clean-up
erases the owner of the second. -/
def staleCleanUp : List (Turn CallChoice DaemonEvent) :=
  [.thread 0 (.invoke (.begin ":1.1" 1000 .checking)), .thread 0 (.caller (.ok 1000)),
    .thread 0 (.authorization (.ok ⟨1000⟩)), .thread 0 (.generated ⟨1⟩),
    .event (.tick 120_000_000), .thread 1 (.invoke (.reap .reaping)), .thread 1 .proceed,
    .thread 2 (.invoke (.begin ":1.2" 1000 .checking)), .thread 2 (.caller (.ok 1000)),
    .thread 2 (.authorization (.ok ⟨1000⟩)), .thread 2 (.generated ⟨2⟩),
    .thread 2 (.lease (.ok ())), .thread 0 (.lease (.ok ())), .thread 0 .proceed]

/-- A run of the daemon gets to an operation without its owner. -/
theorem Manager1.ownership_fails :
    ∃ state, (manager1 fun _ => true).Reaches (fun _ _ => True) (Manager1.initial .default 0)
      state ∧ ¬ state.shared.Owned := by
  have obeys : (manager1 fun _ => true).Obeys (fun _ _ => True) (Manager1.initial .default 0)
      staleCleanUp := by decide
  exact ⟨_, obeys.reaches, by decide⟩

end FaceAuth
