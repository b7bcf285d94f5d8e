import FaceAuth.Daemon.Ledger
import FaceAuth.Foundation.Silence

/-!
# Cancellation by strangers

A call of CancelEnrollment that does not come from the owner of the operation is
compared with the run in which it was never made.
-/

namespace FaceAuth

open Foundation

/-- The sender, the account and the identifier are those of the owner and of the active
operation. -/
def EnrollmentDaemon.OwnedFor (daemon : EnrollmentDaemon) (sender : String) (targetUid : UInt32)
    (operationId : OperationId) : Prop :=
  (∃ owner, daemon.management.owner = some owner ∧ owner.sender = sender) ∧
    daemon.HoldsFor targetUid operationId

instance (daemon : EnrollmentDaemon) (sender : String) (targetUid : UInt32)
    (operationId : OperationId) : Decidable (daemon.OwnedFor sender targetUid operationId) :=
  decidable_of_iff (daemon.management.owner.any (fun owner => owner.sender = sender) = true ∧
      daemon.HoldsFor targetUid operationId) <| by
    cases owned : daemon.management.owner <;> simp [EnrollmentDaemon.OwnedFor, owned]

/-- A cancellation on its way to an error. -/
def CancelPhase.Refused (parsed : Option OperationId) : CancelPhase → Prop
  | .checking => True
  | .looking operationId => parsed = some operationId
  | .raising operationId _ => parsed = some operationId
  | .claiming operationId => parsed = some operationId
  | .emitting _ => False
  | .returned answer => ∃ error, answer = .error error

/-- Raising a flag makes no difference exactly when it is up already. -/
theorem raise_eq_self_iff {daemon : EnrollmentDaemon} {job : Nat} :
    daemon.raise job = daemon ↔ (daemon.jobs job).cancelled = true := by
  constructor
  · intro same
    rw [← same]
    simp [EnrollmentDaemon.raise]
  · intro up
    have job_ : { daemon.jobs job with cancelled := true } = daemon.jobs job := by
      rw [← up]
    rw [EnrollmentDaemon.raise, EnrollmentDaemon.setJob, job_, Function.update_eq_self]

/-- A sender that does not own the operation cancels nothing. -/
theorem cancelOwned_of_stranger {daemon : EnrollmentDaemon} {sender : String}
    {targetUid : UInt32} {operationId : OperationId}
    (stranger : ¬ daemon.OwnedFor sender targetUid operationId) :
    ∃ error, daemon.management.cancelOwned targetUid operationId daemon.clock sender =
      (.error error, daemon.management) := by
  rcases daemon.management.cancelOwned_cases targetUid operationId daemon.clock sender with
    refused | ⟨owner, active, owned, same, bound, -⟩
  · exact refused
  · exact absurd ⟨⟨owner, owned, same⟩, active, bound⟩ stranger

/-- A section of a stranger's cancellation goes on to an error, and does nothing but
signal the worker. -/
theorem cancelEnrollment_of_stranger {daemon after : EnrollmentDaemon} {sender : String}
    {targetUid : UInt32} {parsed : Option OperationId} {phase next : CancelPhase}
    {choice : CallChoice} (refused : phase.Refused parsed)
    (stranger : ∀ operationId, parsed = some operationId →
      ¬ daemon.OwnedFor sender targetUid operationId)
    (advanced : cancelEnrollment daemon sender targetUid parsed phase choice =
      some (after, next)) :
    next.Refused parsed ∧
      ((∃ operationId job, phase = .raising operationId job ∧ after = daemon.raise job) ∨
        after = daemon ∧ ∀ operationId job, phase ≠ .raising operationId job) := by
  unfold cancelEnrollment at advanced
  split at advanced
  · split at advanced
    · cases advanced
      exact ⟨⟨_, rfl⟩, .inr ⟨rfl, nofun⟩⟩
    · split at advanced <;> cases advanced
      · exact ⟨⟨_, rfl⟩, .inr ⟨rfl, nofun⟩⟩
      · exact ⟨rfl, .inr ⟨rfl, nofun⟩⟩
  · split at advanced <;> cases advanced
    · exact ⟨⟨_, rfl⟩, .inr ⟨rfl, nofun⟩⟩
    · exact ⟨refused, .inr ⟨rfl, nofun⟩⟩
  · cases advanced
    exact ⟨refused, .inl ⟨_, _, rfl, rfl⟩⟩
  · next operationId =>
      obtain ⟨error, answer⟩ := cancelOwned_of_stranger (stranger operationId refused)
      rw [answer] at advanced
      cases advanced
      exact ⟨⟨_, rfl⟩, .inr ⟨rfl, nofun⟩⟩
  · exact refused.elim
  · cases advanced

variable {uniqueName : String → Bool} {state : Manager1} {index : Nat} {sender : String}
  {targetUid : UInt32} {parsed : Option OperationId} {turns : List (Turn CallChoice DaemonEvent)}

/-- A thread that cancels on behalf of a stranger. -/
def Call.Refused (sender : String) (targetUid : UInt32) (parsed : Option OperationId)
    (call : Call) : Prop :=
  ∃ phase, call = .cancel sender targetUid parsed phase ∧ phase.Refused parsed

/-- One turn of a stranger's cancellation. -/
theorem moves_of_stranger {before after : Manager1}
    (stranger : ∀ operationId, parsed = some operationId →
      ¬ before.shared.OwnedFor sender targetUid operationId)
    (refused : (before.thread index).Refused sender targetUid parsed)
    (moves : (manager1 uniqueName).Moves index state turns before after) :
    (after.thread index).Refused sender targetUid parsed ∧
      (after.shared = before.shared ↔ ∀ operationId job,
        before.thread index = .cancel sender targetUid parsed (.raising operationId job) →
          (before.shared.jobs job).cancelled = true) := by
  obtain ⟨earlier, choice, -, -, taken⟩ := moves
  obtain ⟨phase, at_, refused⟩ := refused
  obtain ⟨shared, own, advanced, rfl⟩ := Program.step_thread_eq_some_iff.mp taken
  rw [at_] at advanced ⊢
  obtain ⟨⟨_, next⟩, section_, same⟩ := Option.map_eq_some_iff.mp advanced
  cases same
  obtain ⟨kept, signals⟩ := cancelEnrollment_of_stranger refused stranger section_
  refine ⟨⟨next, by dsimp only; rw [Function.update_self], kept⟩, ?_⟩
  dsimp only
  rcases signals with ⟨operationId, job, rfl, rfl⟩ | ⟨rfl, elsewhere⟩
  · rw [raise_eq_self_iff]
    constructor
    · intro up other number same
      cases same
      exact up
    · intro up
      exact up operationId job rfl
  · refine iff_of_true rfl ?_
    intro operationId job same
    cases same
    exact absurd rfl (elsewhere operationId job)

/-- A cancellation that never has the sender, the account and the identifier of the
current owner and operation returns an error. The rest of the daemon is at every moment
as if the call had never been made, exactly when the flag is up already whenever the
call comes to signal the worker. -/
theorem cancelEnrollment_invisible_iff
    (called : state.thread index = .cancel sender targetUid parsed .checking)
    (stranger : ∀ before after, (manager1 uniqueName).Moves index state turns before after →
      ∀ operationId, parsed = some operationId →
        ¬ before.shared.OwnedFor sender targetUid operationId) :
    (∀ final answer, (manager1 uniqueName).execute state turns = some final →
      final.thread index = .cancel sender targetUid parsed (.returned answer) →
        ∃ error, answer = .error error) ∧
    ((manager1 uniqueName).Invisible index state turns ↔
      ∀ before after, (manager1 uniqueName).Moves index state turns before after →
        ∀ operationId job,
          before.thread index = .cancel sender targetUid parsed (.raising operationId job) →
            (before.shared.jobs job).cancelled = true) := by
  have begins : (state.thread index).Refused sender targetUid parsed :=
    ⟨.checking, called, trivial⟩
  have goesOn : ∀ before after, (manager1 uniqueName).Moves index state turns before after →
      (before.thread index).Refused sender targetUid parsed →
      (after.thread index).Refused sender targetUid parsed :=
    fun before after moves refused =>
      (moves_of_stranger (stranger before after moves) refused moves).1
  constructor
  · intro final answer executed returned
    obtain ⟨phase, at_, refused⟩ := Program.Moves.keeps goesOn begins executed
    rw [returned] at at_
    cases at_
    exact refused
  · rw [Program.invisible_iff]
    apply forall_congr'
    intro before
    apply forall_congr'
    intro after
    apply imp_congr_right
    intro moves
    obtain ⟨earlier, choice, taken, ran, -⟩ := id moves
    have refused : (before.thread index).Refused sender targetUid parsed :=
      Program.Moves.keeps (fun earlier_ later_ moved => goesOn earlier_ later_
        (moved.mono ((List.prefix_append _ _).trans taken))) begins ran
    exact (moves_of_stranger (stranger before after moves) refused moves).2

/-- The operation of `:1.1` is announced, and `:1.2` asks to cancel it. -/
def strangerTurns : List (Turn CallChoice DaemonEvent) :=
  [.thread 0 (.invoke (.begin ":1.1" 1000 .checking)), .thread 0 (.caller (.ok 1000)),
    .thread 0 (.authorization (.ok ⟨1000⟩)), .thread 0 (.generated ⟨1⟩),
    .thread 0 (.lease (.ok ())), .thread 0 (.emitted true),
    .thread 1 (.invoke (.cancel ":1.2" 1000 (some ⟨1⟩) .checking))]

/-- A stranger of another account is turned away without a trace. -/
theorem cancelEnrollment_invisible_iff_test :
    (manager1 fun _ => true).Invisible 1
      ((manager1 fun _ => true).after (Manager1.initial .default 0) strangerTurns)
      [.thread 1 (.caller (.ok 1001))] := by
  have first : ∀ before after, (manager1 fun _ => true).Moves 1
      ((manager1 fun _ => true).after (Manager1.initial .default 0) strangerTurns)
      [.thread 1 (.caller (.ok 1001))] before after →
      before = (manager1 fun _ => true).after (Manager1.initial .default 0) strangerTurns := by
    rintro before after ⟨earlier, choice, taken, ran, -⟩
    obtain ⟨rfl, -⟩ | ⟨-, empty⟩ := List.append_eq_singleton_iff.mp
      (List.IsPrefix.eq_of_length_le taken (by simp))
    · cases ran
      rfl
    · cases empty
  refine (@cancelEnrollment_invisible_iff _ _ 1 ":1.2" 1000 (some ⟨1⟩) _ rfl ?_).2.mpr ?_
  · intro before after moves operationId same
    cases same
    rw [first before after moves]
    decide
  · intro before after moves operationId job at_
    rw [first before after moves] at at_
    cases at_

/-- The call of `:1.2` returns an error, but the worker of `:1.1` is cancelled. -/
theorem cancelEnrollment_interferes :
    ∃ state final turns, (manager1 fun _ => true).Reaches (fun _ _ => True)
        (Manager1.initial .default 0) state ∧
      state.thread 1 = .cancel ":1.2" 1000 (some ⟨1⟩) .checking ∧
      (manager1 fun _ => true).execute state turns = some final ∧
      (∀ turn ∈ turns, turn.isOf 1 = true) ∧
      final.thread 1 = .cancel ":1.2" 1000 (some ⟨1⟩) (.returned (.error
        (.accessDenied "management operation belongs to another D-Bus sender"))) ∧
      ¬ state.shared.OwnedFor ":1.2" 1000 ⟨1⟩ ∧ ¬ final.shared.OwnedFor ":1.2" 1000 ⟨1⟩ ∧
      (state.shared.jobs 0).cancelled = false ∧ (final.shared.jobs 0).cancelled = true := by
  have obeys : (manager1 fun _ => true).Obeys (fun _ _ => True) (Manager1.initial .default 0)
      strangerTurns := by decide
  refine ⟨_, _, [.thread 1 (.caller (.ok 1000)), .thread 1 .proceed, .thread 1 .proceed,
    .thread 1 .proceed], obeys.reaches, rfl, rfl, ?_, rfl, ?_, ?_, rfl, rfl⟩
  · decide
  · decide
  · decide

end FaceAuth
