import FaceAuth.Daemon.Persistence
import FaceAuth.Daemon.Signals

/-!
# A sender that goes away

The handler reads the owner record, signals the worker and cancels the operation
in separate sections. Its failure would stop the service.
-/

namespace FaceAuth

open Foundation EnrollmentDaemon

variable {uniqueName : String → Bool} {daemon after : EnrollmentDaemon} {call own : Call}

/-- What the handler of an owner change has returned. -/
def WatchPhase.answer : WatchPhase → Option (Except WorkerError (Option ManagementUpdate))
  | .emitting update | .unsent update => some (.ok (some update))
  | .returned answer => some answer
  | .noticing | .cancelling _ => none

/-- The sections that a handler still has before it once it has read the owner record. -/
def WatchPhase.rank : WatchPhase → Nat
  | .cancelling (.looking _ _) => 4
  | .cancelling (.raising _ _ _) => 3
  | .cancelling (.claiming _ _) => 2
  | .emitting _ => 1
  | _ => 0

/-- A handler that comes to signal the worker finds that the bridge controls the operation,
and one that comes to cancel finds that the coordinator holds it. -/
def Manager1.Present (state : Manager1) : Turn CallChoice DaemonEvent → Prop
  | .thread index _ =>
      match state.thread index with
      | .ownerChange _ _ _ (.cancelling (.looking _ operationId)) =>
          (state.shared.controlled operationId).isSome
      | .ownerChange _ _ _ (.cancelling (.claiming targetUid operationId)) =>
          state.shared.HoldsFor targetUid operationId
      | _ => True
  | .event _ => True

instance (state : Manager1) : DecidablePred state.Present
  | .thread index _ => by
      unfold Manager1.Present
      dsimp only
      split <;> infer_instance
  | .event _ => isTrue trivial

namespace EnrollmentDaemon

/-- The operation was called off: its one terminal update was said, the coordinator and the
owner record have let go of it, and its one job is cancelled. -/
structure CalledOff (daemon : EnrollmentDaemon) (operationId : OperationId)
    (result : ManagementResult) : Prop where
  told : ∃ codes, daemon.history operationId =
    opening operationId codes ++ [.completed operationId result]
  released : ¬ daemon.Holds operationId
  disowned : ¬ daemon.Recorded operationId
  cancelled : ∃ number < daemon.jobCount, (daemon.jobs number).operationId = operationId ∧
    (daemon.jobs number).cancelled = true ∧
    ∀ other < daemon.jobCount, (daemon.jobs other).operationId = operationId → other = number

/-- What a handler knows of the operation of its sender. -/
def Cancelling (daemon : EnrollmentDaemon) (targetUid : UInt32) (operationId : OperationId) :
    WatchPhase → Prop
  | .cancelling (.looking uid named) => uid = targetUid ∧ named = operationId
  | .cancelling (.raising uid named job) => uid = targetUid ∧ named = operationId ∧
      job < daemon.jobCount ∧ (daemon.jobs job).operationId = operationId
  | .cancelling (.claiming uid named) => uid = targetUid ∧ named = operationId ∧
      ∃ number < daemon.jobCount, (daemon.jobs number).operationId = operationId ∧
        (daemon.jobs number).cancelled = true
  | .emitting update | .unsent update => ∃ result, update = .completed operationId result ∧
      daemon.CalledOff operationId result
  | .returned (.ok (some update)) => ∃ result, update = .completed operationId result ∧
      daemon.CalledOff operationId result ∧ update ∈ daemon.signals
  | _ => False

/-- An operation that was called off has been told to be over. -/
theorem CalledOff.said {operationId : OperationId} {result : ManagementResult}
    (calledOff : daemon.CalledOff operationId result) :
    .completed operationId result ∈ daemon.updates := by
  obtain ⟨codes, told⟩ := calledOff.told
  apply List.mem_of_mem_filter
  rw [show daemon.updates.filter _ = _ from told]
  exact List.mem_append_right _ List.mem_cons_self

/-- What was called off stays so. -/
theorem CalledOff.persist {operationId : OperationId} {result : ManagementResult}
    (calledOff : daemon.CalledOff operationId result) (ledger : daemon.Ledger)
    (later : after.Ledger) (workshop : after.Workshop) (persists : daemon.Persists after) :
    after.CalledOff operationId result := by
  have known := (ledger.told calledOff.said).1
  obtain ⟨number, smaller, named, raised, -⟩ := calledOff.cancelled
  have smaller_ := Nat.lt_of_lt_of_le smaller persists.jobCount
  have named_ := (persists.operationId number smaller).trans named
  exact ⟨(later.told (persists.said _ calledOff.said)).2.2,
    mt (persists.holds operationId known) calledOff.released,
    mt (persists.recorded operationId known) calledOff.disowned,
    number, smaller_, named_, persists.cancelled number smaller raised,
    fun other less same => workshop.distinct other less number smaller_ (same.trans named_.symm)⟩

/-- A call that cancels goes on whatever the others do. -/
theorem Cancelling.persist {targetUid : UInt32} {operationId : OperationId} {phase : WatchPhase}
    (cancelling : daemon.Cancelling targetUid operationId phase) (ledger : daemon.Ledger)
    (later : after.Ledger) (workshop : after.Workshop) (persists : daemon.Persists after)
    (heard : ∀ update ∈ daemon.signals, update ∈ after.signals) :
    after.Cancelling targetUid operationId phase := by
  cases phase with
  | noticing => exact cancelling
  | cancelling inner =>
      cases inner with
      | reading => exact cancelling
      | looking uid named => exact cancelling
      | raising uid named job =>
          obtain ⟨rfl, rfl, smaller, same⟩ := cancelling
          exact ⟨rfl, rfl, Nat.lt_of_lt_of_le smaller persists.jobCount,
            (persists.operationId job smaller).trans same⟩
      | claiming uid named =>
          obtain ⟨rfl, rfl, number, smaller, same, raised⟩ := cancelling
          exact ⟨rfl, rfl, number, Nat.lt_of_lt_of_le smaller persists.jobCount,
            (persists.operationId number smaller).trans same,
            persists.cancelled number smaller raised⟩
      | settled result => exact cancelling
  | emitting update =>
      obtain ⟨result, rfl, calledOff⟩ := cancelling
      exact ⟨result, rfl, calledOff.persist ledger later workshop persists⟩
  | unsent update =>
      obtain ⟨result, rfl, calledOff⟩ := cancelling
      exact ⟨result, rfl, calledOff.persist ledger later workshop persists⟩
  | returned answer =>
      cases answer with
      | error error => exact cancelling
      | ok update =>
          cases update with
          | none => exact cancelling
          | some update =>
              obtain ⟨result, rfl, calledOff, emitted⟩ := cancelling
              exact ⟨result, rfl, calledOff.persist ledger later workshop persists,
                heard _ emitted⟩

end EnrollmentDaemon

/-- A section of a handler goes on with its operation, and nearer to its end. -/
theorem handleOwnerChange_cancelling {name : String} {oldOwnerPresent newOwnerPresent : Bool}
    {phase next : WatchPhase} {choice : CallChoice} {targetUid : UInt32}
    {operationId : OperationId} (workshop : daemon.Workshop) (ledger : after.Ledger)
    (cancelling : daemon.Cancelling targetUid operationId phase)
    (controls : phase = .cancelling (.looking targetUid operationId) →
      (daemon.controlled operationId).isSome)
    (holds : phase = .cancelling (.claiming targetUid operationId) →
      daemon.HoldsFor targetUid operationId)
    (advanced : handleOwnerChange uniqueName daemon name oldOwnerPresent newOwnerPresent phase
      choice = some (after, next)) :
    after.Cancelling targetUid operationId next ∧ 1 + next.rank ≤ phase.rank := by
  cases phase with
  | noticing => exact cancelling.elim
  | cancelling inner =>
      cases choice with
      | proceed =>
          cases inner with
          | reading => exact cancelling.elim
          | looking uid named =>
              obtain ⟨rfl, rfl⟩ := cancelling
              obtain ⟨operation, controlled⟩ := Option.isSome_iff_exists.mp (controls rfl)
              obtain ⟨held, same⟩ := controlled_eq_some controlled
              have looked : cancelSender daemon name (.looking uid named) =
                  (daemon, .raising uid named operation.job) := by
                simp only [cancelSender, cancellationOf, controlled]
              unfold handleOwnerChange at advanced
              dsimp only at advanced
              rw [looked] at advanced
              cases advanced
              obtain ⟨smaller, bridged⟩ := workshop.bridged operation held
              exact ⟨⟨rfl, rfl, smaller, bridged.trans same⟩, Nat.le_refl _⟩
          | raising uid named job =>
              obtain ⟨rfl, rfl, smaller, same⟩ := cancelling
              cases advanced
              refine ⟨⟨rfl, rfl, job, smaller, ?_, ?_⟩, Nat.le_refl _⟩
              · rw [raise_job]
                exact same
              · rw [raise_job]
                simp
          | claiming uid named =>
              obtain ⟨rfl, rfl, number, smaller, same, raised⟩ := cancelling
              obtain ⟨active, bound⟩ := holds rfl
              have claimed := ManagementState.cancel_of_bound bound daemon.clock
              unfold handleOwnerChange cancelSender at advanced
              dsimp only at advanced
              rw [claimed] at advanced
              cases advanced
              have said := List.mem_append_right daemon.updates
                (List.mem_singleton_self (ManagementUpdate.completed named
                  (if active.deadlineMicros ≤ daemon.clock then .timedOut else .cancelled)))
              refine ⟨⟨_, rfl, (ledger.told said).2.2, ?_, ?_, number, smaller, same, raised, ?_⟩,
                Nat.le_refl _⟩
              · exact not_holds_of_empty rfl named
              · rintro ⟨owner, held, -⟩
                cases held
              · intro other less equal
                exact workshop.distinct other less number smaller (equal.trans same.symm)
          | settled result => exact cancelling.elim
      | _ => cases advanced
  | emitting update =>
      obtain ⟨result, rfl, calledOff⟩ := cancelling
      cases choice with
      | emitted accepted =>
          cases accepted with
          | true =>
              cases advanced
              have emitted := List.mem_append_right daemon.signals
                (List.mem_singleton_self (ManagementUpdate.completed operationId result))
              exact ⟨⟨result, rfl, ⟨calledOff.told, calledOff.released, calledOff.disowned,
                calledOff.cancelled⟩, emitted⟩, Nat.le_refl _⟩
          | false =>
              cases advanced
              exact ⟨⟨result, rfl, calledOff⟩, Nat.le_refl _⟩
      | _ => cases advanced
  | returned answer => cases advanced
  | unsent update => cases advanced

/-- A handler that knows its operation has a next section until it has returned, and returns
the terminal update of the operation. -/
theorem handler_enabled {name : String} {oldOwnerPresent newOwnerPresent : Bool}
    {targetUid : UInt32} {operationId : OperationId} {phase : WatchPhase}
    (cancelling : daemon.Cancelling targetUid operationId phase) :
    phase.answer = none ∧
        (∃ choice, (handleOwnerChange uniqueName daemon name oldOwnerPresent newOwnerPresent phase
          choice).isSome) ∨
      ∃ result, phase.answer = some (.ok (some (.completed operationId result))) ∧
        daemon.CalledOff operationId result ∧
        ((∃ answer, phase = .returned answer) →
          .completed operationId result ∈ daemon.signals) := by
  cases phase with
  | noticing => exact cancelling.elim
  | cancelling inner =>
      refine .inl ⟨rfl, .proceed, ?_⟩
      unfold handleOwnerChange
      dsimp only
      split <;> rfl
  | emitting update =>
      obtain ⟨result, rfl, calledOff⟩ := cancelling
      exact .inr ⟨result, rfl, calledOff, fun ⟨_, returned⟩ => by cases returned⟩
  | unsent update =>
      obtain ⟨result, rfl, calledOff⟩ := cancelling
      exact .inr ⟨result, rfl, calledOff, fun ⟨_, returned⟩ => by cases returned⟩
  | returned answer =>
      cases answer with
      | error error => exact cancelling.elim
      | ok update =>
          cases update with
          | none => exact cancelling.elim
          | some update =>
              obtain ⟨result, rfl, calledOff, emitted⟩ := cancelling
              exact .inr ⟨result, rfl, calledOff, fun _ => emitted⟩

/-- A thread handles the departure of a sender, and knows its operation. -/
structure Manager1.Handles (state : Manager1) (index : Nat) (name : String)
    (oldOwnerPresent newOwnerPresent : Bool) (targetUid : UInt32) (operationId : OperationId)
    (phase : WatchPhase) : Prop where
  at_ : state.thread index = .ownerChange name oldOwnerPresent newOwnerPresent phase
  cancelling : state.shared.Cancelling targetUid operationId phase

/-- Each turn leaves a handler with its operation, and its own turns bring it nearer to its
end. -/
theorem Manager1.Handles.step {state next : Manager1} {turn : Turn CallChoice DaemonEvent}
    {index : Nat} {name : String} {oldOwnerPresent newOwnerPresent : Bool} {targetUid : UInt32}
    {operationId : OperationId} {phase : WatchPhase}
    (handles : state.Handles index name oldOwnerPresent newOwnerPresent targetUid operationId phase)
    (workshop : state.shared.Workshop)
    (stations : ∀ index, state.shared.Station index (state.thread index))
    (ledger : state.shared.Ledger) (sound : ∀ index, (state.thread index).Sound)
    (later : next.shared.Workshop) (ledger_ : next.shared.Ledger)
    (present : state.Present turn) (taken : (manager1 uniqueName).step state turn = some next) :
    ∃ phase_, next.Handles index name oldOwnerPresent newOwnerPresent targetUid operationId
        phase_ ∧ (turn.isOf index).toNat + phase_.rank ≤ phase.rank := by
  have at_ := handles.at_
  cases turn with
  | event event =>
      obtain ⟨after, occurred, rfl⟩ := Program.step_event_eq_some_iff.mp taken
      have heard : ∀ update ∈ state.shared.signals, update ∈ after.signals := by
        rw [occurEvent_signals occurred]
        exact fun _ => id
      exact ⟨phase, ⟨at_, handles.cancelling.persist ledger ledger_ later
        (occurEvent_persists occurred) heard⟩, by simp [Turn.isOf]⟩
  | thread mover choice =>
      obtain ⟨after, own, advanced, rfl⟩ := Program.step_thread_eq_some_iff.mp taken
      by_cases moved : index = mover
      · subst moved
        have advanced : advanceCall uniqueName state.shared index choice (state.thread index) =
          some (after, own) := advanced
        unfold Manager1.Present at present
        dsimp only at present
        rw [at_] at advanced present
        cases advanceCall_cases advanced with
        | @ownerChange _ _ _ _ phase_ after handled =>
            obtain ⟨cancelling, lower⟩ := handleOwnerChange_cancelling workshop ledger_
              handles.cancelling (by rintro rfl; exact present) (by rintro rfl; exact present)
              handled
            exact ⟨phase_, ⟨Function.update_self .., cancelling⟩, by simpa [Turn.isOf] using lower⟩
      · have thread : Function.update state.thread mover own index = state.thread index :=
          Function.update_of_ne moved ..
        exact ⟨phase, ⟨thread.trans at_, handles.cancelling.persist ledger ledger_ later
          (advanceCall_persists (stations mover) advanced)
          (advanceCall_signals (sound mover) advanced)⟩, by simp [Turn.isOf, Ne.symm moved]⟩

/-- The sections that the handler of a thread still has before it. -/
def Manager1.handlerRank (state : Manager1) (index : Nat) : Nat :=
  match state.thread index with
  | .ownerChange _ _ _ phase => phase.rank
  | _ => 0

/-- A handler that has read the owner record goes on to its end. -/
theorem Manager1.disconnect_goesOn {config : ManagementConfig} {clock : Nat} {state : Manager1}
    {index : Nat} {name : String} {oldOwnerPresent newOwnerPresent : Bool} {targetUid : UInt32}
    {operationId : OperationId} {phase : WatchPhase} {turns : List (Turn CallChoice DaemonEvent)}
    (reached : (manager1 uniqueName).Reaches Manager1.Present (Manager1.initial config clock)
      state)
    (handles : state.Handles index name oldOwnerPresent newOwnerPresent targetUid operationId phase)
    (obeys : (manager1 uniqueName).Obeys Manager1.Present state turns) :
    ∃ next, ((manager1 uniqueName).after state turns).thread index =
        .ownerChange name oldOwnerPresent newOwnerPresent next ∧
      turns.countP (Turn.isOf index) + next.rank ≤ phase.rank ∧
      (next.answer = none ∧
          (∃ choice, ((manager1 uniqueName).step ((manager1 uniqueName).after state turns)
            (.thread index choice)).isSome) ∨
        ∃ result, next.answer = some (.ok (some (.completed operationId result))) ∧
          ((manager1 uniqueName).after state turns).shared.CalledOff operationId result ∧
          ((∃ answer, next = .returned answer) → .completed operationId result ∈
            ((manager1 uniqueName).after state turns).shared.signals)) := by
  have kept : ∀ (state : Manager1) turn (next : Manager1),
      ((manager1 uniqueName).Reaches Manager1.Present (Manager1.initial config clock) state ∧
        ∃ phase, state.Handles index name oldOwnerPresent newOwnerPresent targetUid operationId
          phase) → state.Present turn → (manager1 uniqueName).step state turn = some next →
        ((manager1 uniqueName).Reaches Manager1.Present (Manager1.initial config clock) next ∧
          ∃ phase, next.Handles index name oldOwnerPresent newOwnerPresent targetUid operationId
            phase) ∧
        (turn.isOf index).toNat + next.handlerRank index ≤ state.handlerRank index := by
    rintro state turn next ⟨run, phase, handles⟩ present taken
    have later := Program.Reaches.next run present taken
    obtain ⟨workshop, stations⟩ := Manager1.stations run
    obtain ⟨phase_, goesOn, lower⟩ := handles.step workshop stations (Manager1.ledger run)
      (Manager1.sound run) (Manager1.stations later).1 (Manager1.ledger later) present taken
    refine ⟨⟨later, phase_, goesOn⟩, ?_⟩
    rw [handlerRank, goesOn.at_, handlerRank, handles.at_]
    exact lower
  obtain ⟨⟨run, next, goesOn⟩, bound⟩ := obeys.countP_add_le kept ⟨reached, phase, handles⟩
  generalize (manager1 uniqueName).after state turns = final at run goesOn bound ⊢
  rw [handlerRank, goesOn.at_, handlerRank, handles.at_] at bound
  refine ⟨next, goesOn.at_, bound, ?_⟩
  rcases @handler_enabled uniqueName final.shared name oldOwnerPresent newOwnerPresent _ _ _
    goesOn.cancelling with ⟨unfinished, choice, possible⟩ | finished
  · refine .inl ⟨unfinished, choice, ?_⟩
    rw [Program.step, Option.isSome_map, goesOn.at_]
    exact (Option.isSome_map ..).trans possible
  · exact .inr finished

/-- A handler that finds the operation of its sender in the bridge and in the coordinator
has at most four sections before it, is never stuck in them, and returns the terminal update
of the operation, which is then called off. A handler whose sender owns nothing returns at
once and changes nothing. -/
theorem Manager1.disconnect_completes {config : ManagementConfig} {clock : Nat}
    {state read : Manager1} {index : Nat} {name : String} {oldOwnerPresent newOwnerPresent : Bool}
    {choice : CallChoice} {turns : List (Turn CallChoice DaemonEvent)}
    (reached : (manager1 uniqueName).Reaches Manager1.Present (Manager1.initial config clock)
      state)
    (reads : state.thread index =
      .ownerChange name oldOwnerPresent newOwnerPresent (.cancelling .reading))
    (taken : (manager1 uniqueName).step state (.thread index choice) = some read)
    (obeys : (manager1 uniqueName).Obeys Manager1.Present read turns) :
    (state.shared.management.ownedBy name = none →
      read.shared = state.shared ∧ turns.countP (Turn.isOf index) = 0 ∧
        ((manager1 uniqueName).after read turns).thread index =
          .ownerChange name oldOwnerPresent newOwnerPresent (.returned (.ok none))) ∧
    ∀ targetUid operationId,
      state.shared.management.ownedBy name = some (targetUid, operationId) →
      ∃ phase, ((manager1 uniqueName).after read turns).thread index =
          .ownerChange name oldOwnerPresent newOwnerPresent phase ∧
        turns.countP (Turn.isOf index) + phase.rank ≤ 4 ∧
        (phase.answer = none ∧
            (∃ choice, ((manager1 uniqueName).step ((manager1 uniqueName).after read turns)
              (.thread index choice)).isSome) ∨
          ∃ result, phase.answer = some (.ok (some (.completed operationId result))) ∧
            ((manager1 uniqueName).after read turns).shared.CalledOff operationId result ∧
            ((∃ answer, phase = .returned answer) → .completed operationId result ∈
              ((manager1 uniqueName).after read turns).shared.signals)) := by
  have run : (manager1 uniqueName).Reaches Manager1.Present (Manager1.initial config clock)
      read := by
    refine .next reached ?_ taken
    unfold Manager1.Present
    dsimp only
    rw [reads]
    trivial
  obtain ⟨after, own, advanced, rfl⟩ := Program.step_thread_eq_some_iff.mp taken
  have advanced : advanceCall uniqueName state.shared index choice (state.thread index) =
    some (after, own) := advanced
  rw [reads] at advanced
  cases advanceCall_cases advanced with
  | @ownerChange _ _ _ _ phase after handled =>
      cases choice with
      | proceed =>
          refine ⟨?_, ?_⟩
          · intro owned
            have looked : cancelSender state.shared name .reading =
                (state.shared, .settled (.ok none)) := by
              unfold cancelSender
              dsimp only
              rw [owned]
            unfold handleOwnerChange at handled
            dsimp only at handled
            rw [looked] at handled
            cases handled
            obtain ⟨stays, none_⟩ := obeys.stays (fun _ _ => rfl) (Function.update_self ..)
            exact ⟨rfl, none_, stays⟩
          · intro targetUid operationId owned
            have looked : cancelSender state.shared name .reading =
                (state.shared, .looking targetUid operationId) := by
              unfold cancelSender
              dsimp only
              rw [owned]
            unfold handleOwnerChange at handled
            dsimp only at handled
            rw [looked] at handled
            cases handled
            exact Manager1.disconnect_goesOn run
              ⟨Function.update_self .., rfl, rfl⟩ obeys
      | _ => cases handled

/-- An operation runs when its sender goes away. -/
def departedTurns : List (Turn CallChoice DaemonEvent) :=
  begunTurns ++ [.thread 0 (.emitted true),
    .thread 1 (.invoke (.ownerChange ":1.1" true false .noticing)), .thread 1 .proceed]

/-- A sender that goes away after its operation began has it called off. -/
theorem Manager1.disconnect_completes_test :
    ∃ result, ((manager1 fun _ => true).after
      ((manager1 fun _ => true).after (Manager1.initial .default 0)
        (departedTurns ++ [.thread 1 .proceed]))
      [.thread 1 .proceed, .thread 1 .proceed, .thread 1 .proceed,
        .thread 1 (.emitted true)]).shared.CalledOff ⟨1⟩ result := by
  have departed : (manager1 fun _ => true).Obeys Manager1.Present (Manager1.initial .default 0)
      departedTurns := by decide
  have handled : (manager1 fun _ => true).Obeys Manager1.Present
      ((manager1 fun _ => true).after (Manager1.initial .default 0)
        (departedTurns ++ [.thread 1 .proceed]))
      [.thread 1 .proceed, .thread 1 .proceed, .thread 1 .proceed,
        .thread 1 (.emitted true)] := by decide
  obtain ⟨phase, at_, -, ⟨unfinished, -⟩ | ⟨result, -, calledOff, -⟩⟩ :=
    (@Manager1.disconnect_completes (fun _ => true) .default 0 _ _ 1 ":1.1" true false .proceed _
      departed.reaches rfl rfl handled).2 1000 ⟨1⟩ rfl
  · have returned : WatchPhase.returned (.ok (some (.completed ⟨1⟩ .cancelled))) = phase := by
      injection at_
    rw [← returned] at unfinished
    cases unfinished
  · exact ⟨result, calledOff⟩

/-- A sender goes away when its operation has begun and its controller has not started. -/
def forsakenTurns : List (Turn CallChoice DaemonEvent) :=
  begunTurns.dropLast ++ [.thread 1 (.invoke (.ownerChange ":1.1" true false .noticing)),
    .thread 1 .proceed, .thread 1 .proceed, .thread 1 .proceed]

/-- A sender that goes away before its job is submitted leaves the operation behind. -/
theorem Manager1.disconnect_fails :
    ∃ state, (manager1 fun _ => true).Reaches (fun _ _ => True) (Manager1.initial .default 0)
      state ∧ state.thread 1 = .ownerChange ":1.1" true false
        (.returned (.error (.controller EnrollmentDaemon.notActive.message))) ∧
      state.shared.Holds ⟨1⟩ ∧ state.shared.Recorded ⟨1⟩ := by
  have obeys : (manager1 fun _ => true).Obeys (fun _ _ => True) (Manager1.initial .default 0)
      forsakenTurns := by decide
  exact ⟨_, obeys.reaches, rfl, ⟨_, rfl, rfl⟩, _, rfl, rfl⟩

end FaceAuth
