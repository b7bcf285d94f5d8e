import FaceAuth.Daemon.Persistence
import FaceAuth.Daemon.Signals

/-!
# Publication of terminal updates

As long as the bus accepts every signal, the terminal update of an operation that was
started is emitted once, or in the hand of the call that is about to emit it.
-/

namespace FaceAuth

open Foundation EnrollmentDaemon

variable {uniqueName : String → Bool} {daemon after : EnrollmentDaemon} {call own : Call}

/-- The bus accepts every signal. -/
def Manager1.Accepting (_ : Manager1) : Turn CallChoice DaemonEvent → Prop
  | .thread _ choice => choice ≠ .emitted false
  | .event _ => True

instance (state : Manager1) : DecidablePred state.Accepting
  | .thread _ choice => inferInstanceAs (Decidable (choice ≠ .emitted false))
  | .event _ => isTrue trivial

/-- Nothing was said, or one update that the call has in hand. -/
def Voiced (daemon after : EnrollmentDaemon) (own : Call) : Prop :=
  after.updates = daemon.updates ∨
    ∃ update, after.updates = daemon.updates ++ [update] ∧ own.pending = some update

/-- A call that cancels voices what it settled. -/
theorem cancelEnrollment_voiced {sender : String} {targetUid : UInt32}
    {parsed : Option OperationId} {phase next : CancelPhase} {choice : CallChoice}
    (advanced : cancelEnrollment daemon sender targetUid parsed phase choice =
      some (after, next)) : Voiced daemon after (.cancel sender targetUid parsed next) := by
  unfold cancelEnrollment at advanced
  split at advanced
  · split at advanced
    · cases advanced
      exact .inl rfl
    · split at advanced <;> cases advanced <;> exact .inl rfl
  · split at advanced <;> cases advanced <;> exact .inl rfl
  · cases advanced
    exact .inl rfl
  · split at advanced <;> cases advanced
    · exact .inr ⟨_, rfl, rfl⟩
    · exact .inl rfl
  · cases advanced
    rw [Voiced, emit_eq]
    exact .inl rfl
  · cases advanced

/-- Cancelling for a sender voices what it settled. -/
theorem cancelSender_voiced {sender : String} {phase : DisconnectPhase}
    (live : ∀ result, phase ≠ .settled result) :
    (cancelSender daemon sender phase).1.updates = daemon.updates ∨
      ∃ update, (cancelSender daemon sender phase).2 = .settled (.ok (some update)) ∧
        (cancelSender daemon sender phase).1.updates = daemon.updates ++ [update] := by
  cases phase with
  | reading =>
      unfold cancelSender
      dsimp only
      split <;> exact .inl rfl
  | looking targetUid operationId =>
      unfold cancelSender
      dsimp only
      split <;> exact .inl rfl
  | raising targetUid operationId job => exact .inl rfl
  | claiming targetUid operationId =>
      cases answer : (daemon.management.cancel targetUid operationId daemon.clock).1 with
      | ok update =>
          refine .inr ⟨update, ?_, ?_⟩ <;> unfold cancelSender <;> dsimp only <;> rw [answer]
          rw [updates_settle, answer]
          rfl
      | error error =>
          refine .inl ?_
          unfold cancelSender
          dsimp only
          rw [answer]
          dsimp only
          rw [updates_settle, answer]
          exact List.append_nil _
  | settled result => exact absurd rfl (live result)

/-- A sender that goes away has voiced what was settled for it. -/
theorem handleOwnerChange_voiced {name : String} {oldOwnerPresent newOwnerPresent : Bool}
    {phase next : WatchPhase} {choice : CallChoice}
    (sound : (Call.ownerChange name oldOwnerPresent newOwnerPresent phase).Sound)
    (advanced : handleOwnerChange uniqueName daemon name oldOwnerPresent newOwnerPresent phase
      choice = some (after, next)) :
    Voiced daemon after (.ownerChange name oldOwnerPresent newOwnerPresent next) := by
  unfold handleOwnerChange at advanced
  split at advanced
  · split at advanced <;> cases advanced <;> exact .inl rfl
  · next inner =>
      rcases @cancelSender_voiced daemon name inner sound with same | ⟨update, settled, said⟩
      · refine .inl ?_
        split at advanced
        all_goals
          next answered =>
            cases advanced
            rwa [answered] at same
      · split at advanced
        · next answered =>
            cases advanced
            rw [answered] at settled said
            cases settled
            exact .inr ⟨update, said, rfl⟩
        · next other answered =>
            rw [answered] at settled
            cases settled
            exact (other update rfl).elim
        · next other answered =>
            rw [answered] at settled
            exact (other _ settled).elim
  · cases advanced
    rw [Voiced, emit_eq]
    exact .inl rfl
  · cases advanced

/-- Reaping voices what it settled. -/
theorem reapExpired_voiced {phase next : ReapPhase} {choice : CallChoice}
    (advanced : reapExpired daemon phase choice = some (after, next)) :
    Voiced daemon after (.reap next) := by
  unfold reapExpired at advanced
  split at advanced
  · split at advanced <;> cases advanced
    · exact .inr ⟨_, rfl, rfl⟩
    · exact .inl rfl
  · cases advanced
    rw [Voiced, emit_eq]
    exact .inl rfl
  · cases advanced

/-- A relay voices what it settled. -/
theorem relayed_voiced {thread : Nat} {targetUid : UInt32} {operationId : OperationId}
    {phase next : RelayPhase}
    (relayed : Relayed daemon thread targetUid operationId phase after next) :
    Voiced daemon after (.relay targetUid operationId next) := by
  have answers (job : Nat)
      (outcome : Except ManagementError ManagementUpdate × ManagementState) :
      Voiced daemon (relayAnswer daemon job outcome).1
        (.relay targetUid operationId (relayAnswer daemon job outcome).2) := by
    cases answer : outcome.1 with
    | ok update =>
        refine .inr ⟨update, ?_, ?_⟩ <;> unfold relayAnswer <;> dsimp only
        · rw [updates_settle, answer]
          rfl
        · rw [answer]
          rfl
    | error error =>
        refine .inl ?_
        unfold relayAnswer
        dsimp only
        rw [updates_settle, answer]
        exact List.append_nil _
  cases relayed with
  | progressed => exact answers _ _
  | completed => exact answers _ _
  | finished controlled finishes =>
      rcases finish_cases controlled finishes with ⟨-, rfl⟩ | ⟨-, rfl⟩ <;> exact .inl rfl
  | _ => exact .inl rfl

/-- A terminal update that a section says is in the hand of its call, unless the call takes
its operation back. -/
theorem terminal_of_advance {thread : Nat} {choice : CallChoice} {operationId : OperationId}
    {result : ManagementResult} (sound : call.Sound)
    (advanced : advanceCall uniqueName daemon thread choice call = some (after, own))
    (said : .completed operationId result ∈ after.updates) :
    .completed operationId result ∈ daemon.updates ∨
      own.pending = some (.completed operationId result) ∨
      (∃ sender targetUid error,
        call = .begin sender targetUid (.rollingBack operationId error)) ∨
      ∃ sender targetUid phase, call = .begin sender targetUid (.withdrawing phase) := by
  have hands {rest : Prop} (voiced : Voiced daemon after own) :
      .completed operationId result ∈ daemon.updates ∨
        own.pending = some (.completed operationId result) ∨ rest := by
    rcases voiced with same | ⟨update, added, pending⟩
    · exact .inl (same ▸ said)
    · rw [added, List.mem_append, List.mem_singleton] at said
      rcases said with earlier | rfl
      · exact .inl earlier
      · exact .inr (.inl pending)
  have governs := advanceCall_governs advanced
  cases advanceCall_cases advanced with
  | invoked fresh => exact .inl said
  | @begin sender targetUid phase next after taken =>
      cases governs with
      | untouched management updates issued => exact .inl (updates ▸ said)
      | erased at_ foreign management updates issued => exact .inl (updates ▸ said)
      | admitted at_ fresh empty management updates issued =>
          rw [updates, List.mem_append, List.mem_singleton] at said
          exact .inl (said.resolve_right nofun)
      | spoken held management updates issued =>
          rw [updates, List.mem_append, List.mem_singleton] at said
          exact .inl (said.resolve_right nofun)
      | concluded held at_ management updates issued => cases at_
      | interrupted held interrupts reserved management updates issued =>
          rw [updates, List.mem_append, List.mem_singleton] at said
          rcases said with earlier | same
          · exact .inl earlier
          · cases same
            refine .inr (.inr ?_)
            unfold Call.Interrupts at interrupts
            split at interrupts
            · next at_ =>
                cases at_
                obtain ⟨active, bound⟩ := interrupts
                cases held.symm.trans bound.1
                exact .inl ⟨_, _, _, by rw [bound.2.2]⟩
            · next at_ =>
                cases at_
                exact .inr ⟨_, _, _, rfl⟩
            · next at_ => cases at_
            · next at_ => cases at_
            · next at_ => cases at_
            · next at_ => cases at_
            · exact interrupts.elim
  | cancel taken => exact hands (cancelEnrollment_voiced taken)
  | ownerChange taken => exact hands (handleOwnerChange_voiced sound taken)
  | reap taken => exact hands (reapExpired_voiced taken)
  | relay taken => exact hands (relayed_voiced (relay_cases taken))

/-- A call that takes its operation back, for its controller did not start. -/
def Call.Reverts (operationId : OperationId) : Call → Prop
  | .begin _ _ (.rollingBack reverted _) => reverted = operationId
  | _ => False

/-- A call that withdraws an announcement that was not accepted. -/
def Call.Withdraws : Call → Prop
  | .begin _ _ (.withdrawing _) => True
  | _ => False

/-- A job was submitted for the operation, or its call is about to submit one. -/
def Manager1.Started (state : Manager1) (operationId : OperationId) : Prop :=
  (∃ number < state.shared.jobCount, (state.shared.jobs number).operationId = operationId) ∨
    ∃ index, (state.thread index).Claims operationId

/-- The terminal update of an operation that is started is among the signals or in the hand
of a call, and among the signals once. -/
structure Manager1.Forwards (state : Manager1) : Prop where
  once : ∀ operationId result,
    state.shared.signals.count (.completed operationId result) ≤ 1
  handed : ∀ operationId, state.Started operationId → ∀ result,
    .completed operationId result ∈ state.shared.updates →
      .completed operationId result ∈ state.shared.signals ∨
        ∃ index, (state.thread index).pending = some (.completed operationId result)
  reverted : ∀ index operationId, (state.thread index).Reverts operationId →
    operationId ∈ state.shared.issued ∧ ¬ state.Started operationId
  accepted : ∀ index, ¬ (state.thread index).Withdraws

section Steps

variable {thread : Nat} {choice : CallChoice}

/-- A call with an update in its hand emits it next, if the bus accepts it. -/
theorem advanceCall_emits {update : ManagementUpdate} (pending : call.pending = some update)
    (accepted : choice ≠ .emitted false)
    (advanced : advanceCall uniqueName daemon thread choice call = some (after, own)) :
    after.signals = daemon.signals ++ [update] := by
  have emits {given : Bool} (same : choice = .emitted given) :
      (daemon.emit given update).signals = daemon.signals ++ [update] := by
    cases given with
    | true => rfl
    | false => exact absurd same accepted
  cases advanceCall_cases advanced with
  | invoked fresh => cases pending
  | @begin sender targetUid phase next after taken =>
      cases phase with
      | announcing operationId progress =>
          cases pending
          cases choice <;> cases taken
          exact emits rfl
      | _ => cases pending
  | @cancel sender targetUid parsed phase next after taken =>
      cases phase with
      | emitting said =>
          cases pending
          cases choice <;> cases taken
          exact emits rfl
      | _ => cases pending
  | @ownerChange name oldOwnerPresent newOwnerPresent phase next after taken =>
      cases phase with
      | emitting said =>
          cases pending
          cases choice <;> cases taken
          exact emits rfl
      | _ => cases pending
  | @reap phase next after taken =>
      cases phase with
      | emitting said =>
          cases pending
          cases choice <;> cases taken
          exact emits rfl
      | _ => cases pending
  | @relay targetUid operationId phase next after taken =>
      cases phase with
      | emitting job said =>
          cases pending
          cases choice <;> cases taken
          exact emits rfl
      | _ => cases pending

/-- A call withdraws its announcement when the bus did not accept it. -/
theorem withdraws_of_advance (withdraws : own.Withdraws)
    (advanced : advanceCall uniqueName daemon thread choice call = some (after, own)) :
    call.Withdraws ∨ choice = .emitted false := by
  cases advanceCall_cases advanced with
  | invoked fresh =>
      rcases fresh_cases fresh with ⟨_, _, rfl⟩ | ⟨_, _, _, rfl⟩ | ⟨_, _, _, rfl⟩ | rfl |
        ⟨_, _, rfl⟩ <;> exact withdraws.elim
  | @begin sender targetUid phase next after taken =>
      cases phase with
      | announcing operationId progress =>
          cases choice with
          | emitted accepted =>
              cases accepted with
              | false => exact .inr rfl
              | true =>
                  cases taken
                  exact withdraws.elim
          | _ => cases taken
      | withdrawing inner => exact .inl trivial
      | _ =>
          cases beginEnrollment_cases taken <;> exact withdraws.elim
  | _ => exact withdraws.elim

/-- A job is submitted by the call that claims its operation. -/
theorem claims_of_submit (station : daemon.Station thread call)
    (advanced : advanceCall uniqueName daemon thread choice call = some (after, own))
    {number : Nat} (smaller : number < after.jobCount) :
    number < daemon.jobCount ∨ call.Claims (after.jobs number).operationId := by
  have kept (same : after.jobCount = daemon.jobCount) :
      number < daemon.jobCount ∨ call.Claims (after.jobs number).operationId :=
    .inl (same ▸ smaller)
  cases advanceCall_cases advanced with
  | invoked fresh => exact kept rfl
  | begin taken =>
      rcases (beginEnrollment_cases taken).work with same |
        ⟨operationId, authorization, rfl, rfl, idle, inactive, unrequested, alive, rfl⟩
      · exact kept same.jobCount
      · rcases lt_or_eq_of_submitted smaller with earlier | rfl
        · exact .inl earlier
        · rw [jobs_submitted]
          exact .inr rfl
  | cancel taken => exact kept (cancelEnrollment_sameWork taken).jobCount
  | ownerChange taken => exact kept (handleOwnerChange_sameWork taken).jobCount
  | reap taken => exact kept (reapExpired_sameWork taken).jobCount
  | relay taken => exact kept ((relay_cases taken).consumes station).jobCount

/-- A call takes its operation back when it has claimed it in vain. -/
theorem reverts_of_advance {operationId : OperationId} (reverts : own.Reverts operationId)
    (advanced : advanceCall uniqueName daemon thread choice call = some (after, own)) :
    after = daemon ∧ call.Claims operationId ∧ ¬ own.Claims operationId ∧
      (daemon.Station thread call → daemon.Unstarted operationId) := by
  cases advanceCall_cases advanced with
  | invoked fresh =>
      rcases fresh_cases fresh with ⟨_, _, rfl⟩ | ⟨_, _, _, rfl⟩ | ⟨_, _, _, rfl⟩ | rfl |
        ⟨_, _, rfl⟩ <;> exact reverts.elim
  | begin taken =>
      cases beginEnrollment_cases taken with
      | unstarted error =>
          cases reverts
          exact ⟨rfl, rfl, id, id⟩
      | _ => exact reverts.elim
  | _ => exact reverts.elim

end Steps

variable {state : Manager1}

/-- An operation is started, once it is issued, by the call that claimed it. -/
theorem Manager1.started_of_advance {mover : Nat} {choice : CallChoice}
    {operationId : OperationId}
    (station : state.shared.Station mover (state.thread mover))
    (advanced : advanceCall uniqueName state.shared mover choice (state.thread mover) =
      some (after, own))
    (started : Manager1.Started ⟨after, Function.update state.thread mover own⟩ operationId) :
    state.Started operationId ∨ operationId ∉ state.shared.issued ∧ own.Claims operationId := by
  have persists := advanceCall_persists station advanced
  rcases started with ⟨number, smaller, named⟩ | ⟨index, claims⟩
  · rcases claims_of_submit station advanced smaller with earlier | claims
    · exact .inl (.inl ⟨number, earlier, (persists.operationId number earlier).symm.trans named⟩)
    · exact .inl (.inr ⟨mover, named ▸ claims⟩)
  · dsimp only at claims
    by_cases moved : index = mover
    · subst moved
      rw [Function.update_self] at claims
      rcases advanceCall_claims advanced claims with before | ⟨fresh, -⟩
      · exact .inl (.inr ⟨index, before⟩)
      · exact .inr ⟨fresh, claims⟩
    · rw [Function.update_of_ne moved] at claims
      exact .inl (.inr ⟨index, claims⟩)

/-- A call that claims its operation has no terminal update in its hand. -/
theorem not_terminal_of_claims {operationId named : OperationId} {result : ManagementResult}
    (claims : call.Claims operationId) : call.pending ≠ some (.completed named result) := by
  intro pending
  cases call with
  | begin sender targetUid phase =>
      cases phase with
      | announcing claimed progress => cases pending
      | _ => cases pending
  | _ => exact claims

/-- A section of a call leaves no update unvoiced. -/
theorem Manager1.Forwards.advance {mover : Nat} {choice : CallChoice} (forwards : state.Forwards)
    (station : state.shared.Station mover (state.thread mover)) (apart : state.Apart)
    (ledger : state.shared.Ledger) (outbox : state.Outbox)
    (sound : (state.thread mover).Sound) (accepting : state.Accepting (.thread mover choice))
    (advanced : advanceCall uniqueName state.shared mover choice (state.thread mover) =
      some (after, own)) :
    Manager1.Forwards ⟨after, Function.update state.thread mover own⟩ := by
  have persists := advanceCall_persists station advanced
  have spoke := advanceCall_speaks sound advanced
  have heard := advanceCall_signals sound advanced
  refine ⟨?_, ?_, ?_, ?_⟩
  · intro operationId result
    have once := forwards.once operationId result
    cases spoke with
    | @emits update pending signals idle free =>
        dsimp only
        rw [signals, List.count_append]
        by_cases same : update = .completed operationId result
        · subst same
          have unheard := List.count_eq_zero.mpr (outbox.unheard mover _ pending trivial)
          simp [unheard]
        · simp [same, once]
    | silent signals idle => simpa only [signals] using once
    | computes signals updates pending => simpa only [signals] using once
    | announces signals claims pending => simpa only [signals] using once
  · intro operationId started result said
    rcases Manager1.started_of_advance station advanced started with before | ⟨fresh, claims⟩
    · rcases terminal_of_advance sound advanced said with
        earlier | mine | ⟨_, _, _, at_⟩ | ⟨_, _, _, at_⟩
      · rcases forwards.handed operationId before result earlier with emitted | ⟨index, pending⟩
        · exact .inl (heard _ emitted)
        · by_cases moved : index = mover
          · subst moved
            refine .inl ?_
            dsimp only
            rw [advanceCall_emits pending accepting advanced]
            exact List.mem_append_right _ List.mem_cons_self
          · refine .inr ⟨index, ?_⟩
            dsimp only
            rwa [Function.update_of_ne moved]
      · refine .inr ⟨mover, ?_⟩
        dsimp only
        rwa [Function.update_self]
      · have reverts : (state.thread mover).Reverts operationId := by
          rw [at_]
          rfl
        exact absurd before (forwards.reverted mover operationId reverts).2
      · have withdraws : (state.thread mover).Withdraws := by
          rw [at_]
          trivial
        exact absurd withdraws (forwards.accepted mover)
    · exfalso
      have mine := @not_terminal_of_claims own operationId operationId result claims
      rcases terminal_of_advance sound advanced said with
        earlier | pending | ⟨_, _, _, at_⟩ | ⟨_, _, _, at_⟩
      · have told := mem_history earlier
        cases ledger operationId with
        | unknown absent free silent =>
            rw [silent] at told
            cases told
        | running known held codes whole => exact fresh known
        | closed known free codes last whole => exact fresh known
      · exact mine pending
      · have reverts : (state.thread mover).Reverts operationId := by
          rw [at_]
          rfl
        exact fresh (forwards.reverted mover operationId reverts).1
      · have withdraws : (state.thread mover).Withdraws := by
          rw [at_]
          trivial
        exact forwards.accepted mover withdraws
  · intro index operationId reverts
    dsimp only at reverts ⊢
    by_cases moved : index = mover
    · subst moved
      rw [Function.update_self] at reverts
      obtain ⟨rfl, claims, free, unstarted⟩ := reverts_of_advance reverts advanced
      refine ⟨(apart index operationId claims).1, ?_⟩
      rintro (⟨number, smaller, named⟩ | ⟨other, theirs⟩)
      · exact (unstarted station).2 number smaller named
      · dsimp only at theirs
        by_cases same : other = index
        · subst same
          rw [Function.update_self] at theirs
          exact free theirs
        · rw [Function.update_of_ne same] at theirs
          exact same ((apart index operationId claims).2 other theirs)
    · rw [Function.update_of_ne moved] at reverts
      obtain ⟨known, unstarted⟩ := forwards.reverted index operationId reverts
      refine ⟨persists.issued operationId known, fun started => ?_⟩
      rcases Manager1.started_of_advance station advanced started with before | ⟨fresh, -⟩
      · exact unstarted before
      · exact fresh known
  · intro index withdraws
    dsimp only at withdraws
    by_cases moved : index = mover
    · subst moved
      rw [Function.update_self] at withdraws
      rcases withdraws_of_advance withdraws advanced with before | refused
      · exact forwards.accepted index before
      · exact accepting refused
    · rw [Function.update_of_ne moved] at withdraws
      exact forwards.accepted index withdraws

/-- What happens apart from the calls leaves no update unvoiced. -/
theorem Manager1.Forwards.occur {event : DaemonEvent} (forwards : state.Forwards)
    (occurred : occurEvent state.shared event = some after) :
    Manager1.Forwards ⟨after, state.thread⟩ := by
  have signals := occurEvent_signals occurred
  have persists := occurEvent_persists occurred
  have updates : after.updates = state.shared.updates := by
    cases event with
    | worker choice => exact (workerStep_cases occurred).untouched.2.1
    | tick micros =>
        cases occurred
        rfl
    | shutdown =>
        cases occurred
        rfl
  have jobCount : after.jobCount = state.shared.jobCount := by
    cases event with
    | worker choice => exact (workerStep_cases occurred).kept.1
    | tick micros =>
        cases occurred
        rfl
    | shutdown =>
        cases occurred
        rfl
  have started (operationId : OperationId)
      (later : Manager1.Started ⟨after, state.thread⟩ operationId) : state.Started operationId := by
    rcases later with ⟨number, smaller, named⟩ | claims
    · dsimp only at smaller named
      rw [jobCount] at smaller
      exact .inl ⟨number, smaller, (persists.operationId number smaller).symm.trans named⟩
    · exact .inr claims
  refine ⟨?_, ?_, ?_, forwards.accepted⟩
  · intro operationId result
    simpa only [signals] using forwards.once operationId result
  · intro operationId later result said
    dsimp only at said ⊢
    rw [updates] at said
    rw [signals]
    exact forwards.handed operationId (started operationId later) result said
  · intro index operationId reverts
    obtain ⟨known, unstarted⟩ := forwards.reverted index operationId reverts
    exact ⟨persists.issued operationId known, mt (started operationId) unstarted⟩

/-- In a run whose signals are all accepted, the terminal update of a started operation is
emitted, or in a hand, and emitted once. -/
theorem Manager1.forwards {config : ManagementConfig} {clock : Nat}
    (reached : (manager1 uniqueName).Reaches Manager1.Accepting (Manager1.initial config clock)
      state) : state.Forwards := by
  have begins : (Manager1.initial config clock).Forwards :=
    ⟨fun _ _ => Nat.zero_le _, nofun, nofun, fun _ => id⟩
  have known : ∀ state : Manager1, (manager1 uniqueName).Reaches Manager1.Accepting
      (Manager1.initial config clock) state →
      (∀ index, state.shared.Station index (state.thread index)) ∧ state.Apart ∧
        state.shared.Ledger ∧ state.Outbox ∧ ∀ index, (state.thread index).Sound :=
    fun _ earlier => ⟨(Manager1.stations earlier).2, Manager1.apart earlier,
      Manager1.ledger earlier, Manager1.outbox earlier, Manager1.sound earlier⟩
  refine (reached.attach known).invariant begins ?_
  rintro state turn next forwards ⟨accepting, stations, apart, ledger, outbox, sound⟩ taken
  cases turn with
  | thread mover choice =>
      obtain ⟨after, own, advanced, rfl⟩ := Program.step_thread_eq_some_iff.mp taken
      exact forwards.advance (stations mover) apart ledger outbox (sound mover) accepting advanced
  | event event =>
      obtain ⟨after, occurred, rfl⟩ := Program.step_event_eq_some_iff.mp taken
      exact forwards.occur occurred

/-- One terminal update of the operation was said, and it was emitted once or is in the one
hand that is to emit it. -/
def Manager1.PublishedOnce (state : Manager1) (operationId : OperationId) : Prop :=
  ∃ codes result,
    state.shared.history operationId =
      opening operationId codes ++ [.completed operationId result] ∧
    (state.shared.signals.count (.completed operationId result) = 1 ∧
        (∀ index, (state.thread index).pending ≠ some (.completed operationId result)) ∨
      state.shared.signals.count (.completed operationId result) = 0 ∧
        ∃ index, (state.thread index).pending = some (.completed operationId result) ∧
          ∀ other, (state.thread other).pending = some (.completed operationId result) →
            other = index)

/-- An operation with a job that the coordinator does not hold any more was published. -/
theorem Manager1.publishedOnce {config : ManagementConfig} {clock : Nat}
    (reached : (manager1 uniqueName).Reaches Manager1.Accepting (Manager1.initial config clock)
      state) {number : Nat} (smaller : number < state.shared.jobCount)
    (free : ¬ state.shared.Holds (state.shared.jobs number).operationId) :
    state.PublishedOnce (state.shared.jobs number).operationId := by
  have forwards := Manager1.forwards reached
  have outbox := Manager1.outbox reached
  have known := (Manager1.stations reached).1.known number smaller
  generalize named : (state.shared.jobs number).operationId = operationId at free known ⊢
  cases Manager1.ledger reached operationId with
  | unknown fresh absent silent => exact absurd known fresh
  | running known_ held codes whole => exact absurd held free
  | closed known_ absent codes result whole =>
      have said : .completed operationId result ∈ state.shared.updates := by
        apply List.mem_of_mem_filter
        rw [show state.shared.updates.filter _ = _ from whole]
        exact List.mem_append_right _ List.mem_cons_self
      refine ⟨codes, result, whole, ?_⟩
      rcases forwards.handed operationId (.inl ⟨number, smaller, named⟩) result said with
        emitted | ⟨index, pending⟩
      · have positive := List.count_pos_iff.mpr emitted
        have once := forwards.once operationId result
        exact .inl ⟨by omega, fun index pending => outbox.unheard index _ pending trivial emitted⟩
      · have unheard := outbox.unheard index _ pending trivial
        exact .inr ⟨List.count_eq_zero.mpr unheard, index, pending,
          fun other theirs => outbox.single index other _ pending theirs trivial⟩

end FaceAuth
