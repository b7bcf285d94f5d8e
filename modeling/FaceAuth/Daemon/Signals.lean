import FaceAuth.Daemon.Stations

/-!
# Signals

An update is computed under the lock and emitted after it, by the call that
computed it. What is emitted is what the coordinator said; the order is that of
the emissions.
-/

namespace FaceAuth

open Foundation

/-- The update that a call has in hand to emit. -/
def Call.pending : Call → Option ManagementUpdate
  | .begin _ _ (.announcing operationId progress) => some (.progress operationId progress)
  | .cancel _ _ _ (.emitting update) => some update
  | .ownerChange _ _ _ (.emitting update) => some update
  | .reap (.emitting update) => some update
  | .relay _ _ (.emitting _ update) => some update
  | _ => none

/-- What a call keeps to itself: an operation is announced as preparing, and a
cancellation that is settled is not gone on with. -/
def Call.Sound : Call → Prop
  | .begin _ _ (.announcing _ progress) => progress = .preparing
  | .ownerChange _ _ _ (.cancelling phase) => ∀ result, phase ≠ .settled result
  | _ => True

/-- What a section of a call does to the signals and to the update in its hand. -/
inductive Speaks (daemon : EnrollmentDaemon) (call : Call) (after : EnrollmentDaemon)
    (own : Call) : Prop where
  | silent (signals : after.signals = daemon.signals) (idle : own.pending = none)
  | computes {update : ManagementUpdate} (signals : after.signals = daemon.signals)
      (updates : after.updates = daemon.updates ++ [update])
      (pending : own.pending = some update)
  | announces {operationId : OperationId} (signals : after.signals = daemon.signals)
      (claims : call.Claims operationId)
      (pending : own.pending = some (.progress operationId .preparing))
  | emits {update : ManagementUpdate} (pending : call.pending = some update)
      (signals : after.signals = daemon.signals ++ [update]) (idle : own.pending = none)
      (free : ∀ operationId, ¬ own.Claims operationId)

section Sections

variable {uniqueName : String → Bool} {daemon after : EnrollmentDaemon} {call own : Call}

/-- Emitting either adds the update to the signals or leaves them. -/
theorem speaks_emit {accepted : Bool} {update : ManagementUpdate}
    (pending : call.pending = some update) (idle : own.pending = none)
    (free : ∀ operationId, ¬ own.Claims operationId) :
    Speaks daemon call (daemon.emit accepted update) own := by
  rw [EnrollmentDaemon.emit_eq]
  cases accepted
  · exact .silent (List.append_nil _) idle
  · exact .emits pending rfl idle free

/-- Cancelling for a sender emits nothing. -/
theorem cancelSender_signals (sender : String) (phase : DisconnectPhase) :
    (cancelSender daemon sender phase).1.signals = daemon.signals := by
  cases phase <;> unfold cancelSender <;> dsimp only <;> first | rfl | (split <;> rfl)

/-- What a cancellation for a vanished sender hands on, the coordinator has just said. -/
theorem cancelSender_updates {sender : String} {phase : DisconnectPhase}
    {update : ManagementUpdate} (live : ∀ result, phase ≠ .settled result)
    (answered : (cancelSender daemon sender phase).2 = .settled (.ok (some update))) :
    (cancelSender daemon sender phase).1.updates = daemon.updates ++ [update] := by
  cases phase with
  | reading =>
      unfold cancelSender at answered
      dsimp only at answered
      split at answered <;> cases answered
  | looking targetUid operationId =>
      unfold cancelSender at answered
      dsimp only at answered
      split at answered <;> cases answered
  | raising targetUid operationId job => cases answered
  | claiming targetUid operationId =>
      unfold cancelSender at answered ⊢
      dsimp only at answered ⊢
      split at answered
      · next said =>
          cases answered
          rw [EnrollmentDaemon.updates_settle, said]
          rfl
      · cases answered
  | settled result => exact absurd rfl (live result)

/-- A call that cancels emits what it has settled. -/
theorem cancelEnrollment_speaks {sender : String} {targetUid : UInt32}
    {parsed : Option OperationId} {phase next : CancelPhase} {choice : CallChoice}
    (advanced : cancelEnrollment daemon sender targetUid parsed phase choice =
      some (after, next)) :
    Speaks daemon (.cancel sender targetUid parsed phase) after
      (.cancel sender targetUid parsed next) := by
  unfold cancelEnrollment at advanced
  split at advanced
  · split at advanced
    · cases advanced
      exact .silent rfl rfl
    · split at advanced <;> cases advanced <;> exact .silent rfl rfl
  · split at advanced <;> cases advanced <;> exact .silent rfl rfl
  · cases advanced
    exact .silent rfl rfl
  · split at advanced
    · cases advanced
      exact .computes rfl rfl rfl
    · cases advanced
      exact .silent rfl rfl
  · cases advanced
    exact speaks_emit rfl rfl fun _ => id
  · cases advanced

/-- A sender that goes away has what was settled emitted. -/
theorem handleOwnerChange_speaks {name : String} {oldOwnerPresent newOwnerPresent : Bool}
    {phase next : WatchPhase} {choice : CallChoice}
    (sound : (Call.ownerChange name oldOwnerPresent newOwnerPresent phase).Sound)
    (advanced : handleOwnerChange uniqueName daemon name oldOwnerPresent newOwnerPresent phase
      choice = some (after, next)) :
    Speaks daemon (.ownerChange name oldOwnerPresent newOwnerPresent phase) after
      (.ownerChange name oldOwnerPresent newOwnerPresent next) := by
  unfold handleOwnerChange at advanced
  split at advanced
  · split at advanced <;> cases advanced <;> exact .silent rfl rfl
  · next inner =>
      have signals := @cancelSender_signals daemon name inner
      have updates := @cancelSender_updates daemon name inner
      split at advanced
      · next answered =>
          cases advanced
          rw [answered] at signals updates
          exact .computes signals (updates sound rfl) rfl
      · next answered =>
          cases advanced
          rw [answered] at signals
          exact .silent signals rfl
      · next answered =>
          cases advanced
          rw [answered] at signals
          exact .silent signals rfl
  · cases advanced
    refine speaks_emit rfl ?_ fun _ => id
    split <;> rfl
  · cases advanced

/-- Reaping emits what it has settled. -/
theorem reapExpired_speaks {phase next : ReapPhase} {choice : CallChoice}
    (advanced : reapExpired daemon phase choice = some (after, next)) :
    Speaks daemon (.reap phase) after (.reap next) := by
  unfold reapExpired at advanced
  split at advanced
  · split at advanced
    · cases advanced
      exact .computes rfl rfl rfl
    · cases advanced
      exact .silent rfl rfl
  · cases advanced
    exact speaks_emit rfl rfl fun _ => id
  · cases advanced

/-- A relay emits what it has settled. -/
theorem relayed_speaks {thread : Nat} {targetUid : UInt32} {operationId : OperationId}
    {phase next : RelayPhase}
    (relayed : Relayed daemon thread targetUid operationId phase after next) :
    Speaks daemon (.relay targetUid operationId phase) after
      (.relay targetUid operationId next) := by
  have answers (job : Nat)
      (outcome : Except ManagementError ManagementUpdate × ManagementState) :
      Speaks daemon (.relay targetUid operationId phase) (relayAnswer daemon job outcome).1
        (.relay targetUid operationId (relayAnswer daemon job outcome).2) := by
    unfold relayAnswer
    dsimp only
    split
    · next said => exact .computes rfl (by rw [EnrollmentDaemon.updates_settle, said]; rfl) rfl
    · exact .silent rfl rfl
    · exact .silent rfl rfl
  cases relayed with
  | progressed => exact answers _ _
  | completed => exact answers _ _
  | emitted =>
      refine speaks_emit rfl ?_ fun _ => id
      split <;> rfl
  | finished controlled finishes =>
      rcases EnrollmentDaemon.finish_cases controlled finishes with ⟨-, rfl⟩ | ⟨-, rfl⟩ <;>
        exact .silent rfl rfl
  | _ => exact .silent rfl rfl

/-- A call holds no update of another operation. -/
theorem advanceCall_sound {thread : Nat} {choice : CallChoice}
    (advanced : advanceCall uniqueName daemon thread choice call = some (after, own)) :
    own.Sound := by
  cases advanceCall_cases advanced with
  | invoked fresh =>
      rcases fresh_cases fresh with ⟨_, _, rfl⟩ | ⟨_, _, _, rfl⟩ | ⟨_, _, _, rfl⟩ | rfl |
        ⟨_, _, rfl⟩ <;> trivial
  | begin taken =>
      cases beginEnrollment_cases taken with
      | started idle inactive unrequested alive => rfl
      | _ => trivial
  | cancel taken => trivial
  | ownerChange taken =>
      unfold handleOwnerChange at taken
      split at taken
      · split at taken <;> cases taken
        · trivial
        · exact nofun
      · split at taken
        · cases taken
          trivial
        · cases taken
          trivial
        · next live _ =>
            cases taken
            exact live
      · cases taken
        split <;> trivial
      · cases taken
  | reap taken => trivial
  | relay taken => trivial

/-- What a section of a call does to the signals. -/
theorem advanceCall_speaks {thread : Nat} {choice : CallChoice} (sound : call.Sound)
    (advanced : advanceCall uniqueName daemon thread choice call = some (after, own)) :
    Speaks daemon call after own := by
  cases advanceCall_cases advanced with
  | invoked fresh =>
      refine .silent rfl ?_
      rcases fresh_cases fresh with ⟨_, _, rfl⟩ | ⟨_, _, _, rfl⟩ | ⟨_, _, _, rfl⟩ | rfl |
        ⟨_, _, rfl⟩ <;> rfl
  | @begin sender targetUid phase next after taken =>
      cases beginEnrollment_cases taken with
      | started idle inactive unrequested alive => exact .announces rfl rfl rfl
      | announced => exact .emits rfl rfl rfl fun _ => id
      | @withdrawing inner next after answered =>
          have signals := @cancelSender_signals daemon sender inner
          rw [answered] at signals
          exact .silent signals rfl
      | @withdrawn inner after result answered =>
          have signals := @cancelSender_signals daemon sender inner
          rw [answered] at signals
          exact .silent signals rfl
      | _ => exact .silent rfl rfl
  | cancel taken => exact cancelEnrollment_speaks taken
  | ownerChange taken => exact handleOwnerChange_speaks sound taken
  | reap taken => exact reapExpired_speaks taken
  | relay taken => exact relayed_speaks (relay_cases taken)

/-- What was emitted stays emitted. -/
theorem advanceCall_signals {thread : Nat} {choice : CallChoice} (sound : call.Sound)
    (advanced : advanceCall uniqueName daemon thread choice call = some (after, own)) :
    ∀ update ∈ daemon.signals, update ∈ after.signals := by
  intro update emitted
  cases advanceCall_speaks sound advanced with
  | emits pending signals idle free =>
      rw [signals]
      exact List.mem_append_left _ emitted
  | silent signals idle => rwa [signals]
  | computes signals updates pending => rwa [signals]
  | announces signals claims pending => rwa [signals]

end Sections

/-! ## What is heard -/

/-- The signals are updates that the coordinator has said, and so are those in hand. A
terminal update is in one hand, and not among the signals yet. -/
structure Manager1.Outbox (state : Manager1) : Prop where
  heard : ∀ update ∈ state.shared.signals, update ∈ state.shared.updates
  given : ∀ index update, (state.thread index).pending = some update →
    update ∈ state.shared.updates
  unheard : ∀ index update, (state.thread index).pending = some update → update.IsTerminal →
    update ∉ state.shared.signals
  single : ∀ index other update, (state.thread index).pending = some update →
    (state.thread other).pending = some update → update.IsTerminal → other = index

variable {uniqueName : String → Bool} {state : Manager1} {after : EnrollmentDaemon} {own : Call}

/-- A section of a call emits nothing that was not settled. -/
theorem Manager1.Outbox.advance {mover : Nat} {choice : CallChoice} (outbox : state.Outbox)
    (apart : state.Apart) (ledger : state.shared.Ledger) (sound : (state.thread mover).Sound)
    (advanced : advanceCall uniqueName state.shared mover choice (state.thread mover) =
      some (after, own)) :
    Manager1.Outbox ⟨after, Function.update state.thread mover own⟩ := by
  have governs := advanceCall_governs advanced
  have grows : ∀ update ∈ state.shared.updates, update ∈ after.updates :=
    fun _ said => EnrollmentDaemon.said_of_governs governs said
  -- Where the mover ends up with nothing in hand, the hands are those of the others.
  have others (idle : own.pending = none) {index : Nat} {update : ManagementUpdate}
      (pending : (Function.update state.thread mover own index).pending = some update) :
      index ≠ mover ∧ (state.thread index).pending = some update := by
    by_cases same : index = mover
    · subst same
      rw [Function.update_self, idle] at pending
      cases pending
    · rw [Function.update_of_ne same] at pending
      exact ⟨same, pending⟩
  have hands {said : ManagementUpdate} (mine : own.pending = some said) {index : Nat}
      {update : ManagementUpdate}
      (pending : (Function.update state.thread mover own index).pending = some update) :
      index = mover ∧ update = said ∨
        index ≠ mover ∧ (state.thread index).pending = some update := by
    by_cases same : index = mover
    · subst same
      rw [Function.update_self, mine] at pending
      exact .inl ⟨rfl, (Option.some.inj pending).symm⟩
    · rw [Function.update_of_ne same] at pending
      exact .inr ⟨same, pending⟩
  cases advanceCall_speaks sound advanced with
  | silent signals idle =>
      refine ⟨?_, ?_, ?_, ?_⟩
      · intro update emitted
        exact grows update (outbox.heard update (signals ▸ emitted))
      · intro index update pending
        exact grows update (outbox.given index update (others idle pending).2)
      · intro index update pending terminal
        exact signals ▸ outbox.unheard index update (others idle pending).2 terminal
      · intro index other update pending pending_ terminal
        exact outbox.single index other update (others idle pending).2 (others idle pending_).2
          terminal
  | @computes said signals updates mine =>
      have new : said.IsTerminal → said ∉ state.shared.updates := by
        intro terminal
        cases said with
        | progress operationId code => exact terminal.elim
        | completed operationId result =>
            exact EnrollmentDaemon.Ledger.fresh (ledger.governed governs) updates result
      refine ⟨?_, ?_, ?_, ?_⟩
      · intro update emitted
        exact grows update (outbox.heard update (signals ▸ emitted))
      · intro index update pending
        rcases hands mine pending with ⟨-, rfl⟩ | ⟨-, theirs⟩
        · dsimp only
          rw [updates]
          exact List.mem_append_right _ List.mem_cons_self
        · exact grows update (outbox.given index update theirs)
      · intro index update pending terminal
        dsimp only
        rw [signals]
        rcases hands mine pending with ⟨-, rfl⟩ | ⟨-, theirs⟩
        · exact fun emitted => new terminal (outbox.heard _ emitted)
        · exact outbox.unheard index update theirs terminal
      · intro index other update pending pending_ terminal
        rcases hands mine pending with ⟨rfl, rfl⟩ | ⟨-, theirs⟩ <;>
          rcases hands mine pending_ with ⟨rfl, same⟩ | ⟨-, others_⟩
        · rfl
        · exact absurd (outbox.given other _ others_) (new terminal)
        · subst same
          exact absurd (outbox.given index _ theirs) (new terminal)
        · exact outbox.single index other update theirs others_ terminal
  | @announces operationId signals claims mine =>
      refine ⟨?_, ?_, ?_, ?_⟩
      · intro update emitted
        exact grows update (outbox.heard update (signals ▸ emitted))
      · intro index update pending
        rcases hands mine pending with ⟨-, rfl⟩ | ⟨-, theirs⟩
        · exact grows _ (ledger.prepared (apart mover operationId claims).1)
        · exact grows update (outbox.given index update theirs)
      · intro index update pending terminal
        rcases hands mine pending with ⟨-, rfl⟩ | ⟨-, theirs⟩
        · exact terminal.elim
        · exact signals ▸ outbox.unheard index update theirs terminal
      · intro index other update pending pending_ terminal
        rcases hands mine pending with ⟨-, rfl⟩ | ⟨-, theirs⟩
        · exact terminal.elim
        · rcases hands mine pending_ with ⟨-, rfl⟩ | ⟨-, others_⟩
          · exact terminal.elim
          · exact outbox.single index other update theirs others_ terminal
  | @emits said pending_ signals idle free =>
      refine ⟨?_, ?_, ?_, ?_⟩
      · intro update emitted
        dsimp only at emitted
        rw [signals, List.mem_append, List.mem_singleton] at emitted
        rcases emitted with earlier | rfl
        · exact grows update (outbox.heard update earlier)
        · exact grows update (outbox.given mover update pending_)
      · intro index update pending
        exact grows update (outbox.given index update (others idle pending).2)
      · intro index update pending terminal emitted
        obtain ⟨distinct, theirs⟩ := others idle pending
        dsimp only at emitted
        rw [signals, List.mem_append, List.mem_singleton] at emitted
        rcases emitted with earlier | rfl
        · exact outbox.unheard index update theirs terminal earlier
        · exact distinct (outbox.single mover index update pending_ theirs terminal)
      · intro index other update pending pending_ terminal
        exact outbox.single index other update (others idle pending).2 (others idle pending_).2
          terminal

/-- What happens apart from the calls emits nothing. -/
theorem Manager1.Outbox.occur {state : Manager1} {event : DaemonEvent} (outbox : state.Outbox)
    (signals : after.signals = state.shared.signals)
    (occurred : occurEvent state.shared event = some after) :
    Manager1.Outbox ⟨after, state.thread⟩ where
  heard update emitted := EnrollmentDaemon.said_of_governs
    (EnrollmentDaemon.occurEvent_governs occurred) (outbox.heard update (signals ▸ emitted))
  given index update pending := EnrollmentDaemon.said_of_governs
    (EnrollmentDaemon.occurEvent_governs occurred) (outbox.given index update pending)
  unheard index update pending terminal := signals ▸ outbox.unheard index update pending terminal
  single := outbox.single

/-- What happens apart from the calls leaves the signals. -/
theorem occurEvent_signals {daemon : EnrollmentDaemon} {event : DaemonEvent}
    (occurred : occurEvent daemon event = some after) : after.signals = daemon.signals := by
  cases event with
  | worker choice => cases EnrollmentDaemon.workerStep_cases occurred <;> rfl
  | tick micros =>
      cases occurred
      rfl
  | shutdown =>
      cases occurred
      rfl

section Runs

variable {allowed : Manager1 → Turn CallChoice DaemonEvent → Prop} {config : ManagementConfig}
  {clock : Nat}

/-- Every call is sound wherever the daemon gets. -/
theorem Manager1.sound
    (reached : (manager1 uniqueName).Reaches allowed (Manager1.initial config clock) state)
    (index : Nat) : (state.thread index).Sound := by
  have kept : ∀ (state : Manager1) (index : Nat) (choice : CallChoice)
      (after : EnrollmentDaemon) (own : Call), (state.thread index).Sound →
      (manager1 uniqueName).advance index choice state.shared (state.thread index) =
        some (after, own) → own.Sound :=
    fun _ _ _ _ _ _ advanced => advanceCall_sound advanced
  exact reached.each (fun _ => trivial) kept index

/-- Nothing is emitted that was not settled. -/
theorem Manager1.outbox
    (reached : (manager1 uniqueName).Reaches allowed (Manager1.initial config clock) state) :
    state.Outbox := by
  have begins : (Manager1.initial config clock).Outbox :=
    ⟨nofun, nofun, nofun, nofun⟩
  have known : ∀ state : Manager1, (manager1 uniqueName).Reaches allowed
      (Manager1.initial config clock)
      state → state.Apart ∧ state.shared.Ledger ∧ ∀ index, (state.thread index).Sound :=
    fun _ earlier => ⟨Manager1.apart earlier, Manager1.ledger earlier, Manager1.sound earlier⟩
  refine (reached.attach known).invariant begins ?_
  rintro state turn next outbox ⟨-, apart, ledger, sound⟩ taken
  cases turn with
  | thread mover choice =>
      obtain ⟨after, own, advanced, rfl⟩ := Program.step_thread_eq_some_iff.mp taken
      exact outbox.advance apart ledger (sound mover) advanced
  | event event =>
      obtain ⟨after, occurred, rfl⟩ := Program.step_event_eq_some_iff.mp taken
      exact outbox.occur (occurEvent_signals occurred) occurred

end Runs

/-! ## The order of the signals -/

/-- The signals of one operation, in the order of the emissions. -/
def EnrollmentDaemon.signalled (daemon : EnrollmentDaemon) (operationId : OperationId) :
    List ManagementUpdate :=
  daemon.signals.filter fun update => update.operationId = operationId

/-- Signals of an operation in a right order: nothing yet, the preparing progress and
other progress after it, and then one completion that is the last. -/
inductive Told (operationId : OperationId) : List ManagementUpdate → Prop where
  | nothing : Told operationId []
  | begun (codes : List ManagementProgress) :
      Told operationId (EnrollmentDaemon.opening operationId codes)
  | ended (codes : List ManagementProgress) (result : ManagementResult) :
      Told operationId
        (EnrollmentDaemon.opening operationId codes ++ [.completed operationId result])

/-- Unless the bus refuses it, a signal is emitted by the call that announces its
operation or after that call has done so, and a completion when no call has progress of
its operation in hand. -/
def Manager1.Orderly (state : Manager1) : Turn CallChoice DaemonEvent → Prop
  | .thread index choice => choice ≠ .emitted false →
      ∀ update, (state.thread index).pending = some update →
        ((state.thread index).Claims update.operationId ∨
          .progress update.operationId .preparing ∈ state.shared.signals) ∧
        (update.IsTerminal → ∀ other code,
          (state.thread other).pending ≠ some (.progress update.operationId code))
  | .event _ => True

/-- A signal that the bus does not accept is no signal. -/
theorem advanceCall_unsent {daemon : EnrollmentDaemon} {call : Call} {thread : Nat}
    (advanced : advanceCall uniqueName daemon thread (.emitted false) call = some (after, own)) :
    after.signals = daemon.signals := by
  cases advanceCall_cases advanced with
  | invoked fresh => rfl
  | @begin _ _ phase _ _ taken =>
      cases phase <;> cases taken
      rfl
  | @cancel _ _ _ phase _ _ taken =>
      cases phase <;> cases taken
      rfl
  | @ownerChange _ _ _ phase _ _ taken =>
      cases phase <;> cases taken
      rfl
  | @reap phase _ _ taken =>
      cases phase <;> cases taken
      rfl
  | @relay _ _ phase _ _ taken =>
      cases phase with
      | handling job update => cases update <;> cases taken
      | emitting job update =>
          cases taken
          rfl
      | _ => cases taken

/-- What an orderly run keeps of the signals and of the updates in hand. -/
structure Manager1.InOrder (state : Manager1) : Prop where
  told : ∀ operationId, Told operationId (state.shared.signalled operationId)
  unopened : ∀ index operationId, (state.thread index).Claims operationId →
    state.shared.signalled operationId = []
  unended : ∀ index operationId code,
    (state.thread index).pending = some (.progress operationId code) →
      ∀ result, .completed operationId result ∉ state.shared.signals

/-- A signal of the operation comes last. -/
theorem signalled_append_self {daemon : EnrollmentDaemon} {update : ManagementUpdate}
    {operationId : OperationId} (signals : after.signals = daemon.signals ++ [update])
    (same : update.operationId = operationId) :
    after.signalled operationId = daemon.signalled operationId ++ [update] := by
  rw [EnrollmentDaemon.signalled, signals, List.filter_append, EnrollmentDaemon.signalled]
  simp [same]

/-- A signal of another operation leaves those of this one. -/
theorem signalled_append_other {daemon : EnrollmentDaemon} {update : ManagementUpdate}
    {operationId : OperationId} (signals : after.signals = daemon.signals ++ [update])
    (other : update.operationId ≠ operationId) :
    after.signalled operationId = daemon.signalled operationId := by
  rw [EnrollmentDaemon.signalled, signals, List.filter_append, EnrollmentDaemon.signalled]
  simp [other]

/-- A signal is among those of its operation. -/
theorem mem_signalled {daemon : EnrollmentDaemon} {update : ManagementUpdate} :
    update ∈ daemon.signalled update.operationId ↔ update ∈ daemon.signals := by
  simp [EnrollmentDaemon.signalled]

/-- Nothing is heard of an operation before it is issued. -/
theorem Manager1.Outbox.silent (outbox : state.Outbox) (ledger : state.shared.Ledger)
    {operationId : OperationId} (fresh : operationId ∉ state.shared.issued) :
    state.shared.signalled operationId = [] := by
  rw [EnrollmentDaemon.signalled, List.filter_eq_nil_iff]
  intro update emitted named
  have said : update ∈ state.shared.history operationId :=
    List.mem_filter.mpr ⟨outbox.heard update emitted, named⟩
  cases ledger operationId with
  | unknown _ free told =>
      rw [told] at said
      cases said
  | running known held codes told => exact fresh known
  | closed known free codes result told => exact fresh known

/-- The next signal of an operation continues what was told of it. -/
theorem Manager1.InOrder.emit (inOrder : state.InOrder) (outbox : state.Outbox)
    (ledger : state.shared.Ledger) (sound : ∀ index, (state.thread index).Sound)
    {mover : Nat} {update : ManagementUpdate}
    (pending : (state.thread mover).pending = some update)
    (opened : (state.thread mover).Claims update.operationId ∨
      .progress update.operationId .preparing ∈ state.shared.signals) :
    Told update.operationId (state.shared.signalled update.operationId ++ [update]) := by
  rcases opened with claims | prepared
  · rw [inOrder.unopened mover _ claims, List.nil_append]
    have mine := sound mover
    cases at_ : state.thread mover with
    | begin sender targetUid phase =>
        rw [at_] at claims pending mine
        cases phase with
        | announcing operationId progress =>
            cases pending
            rw [show progress = .preparing from mine]
            exact .begun []
        | _ => cases pending
    | _ =>
        rw [at_] at claims
        exact claims.elim
  · have before := mem_signalled.mpr prepared
    cases update with
    | progress operationId code =>
        have unended := inOrder.unended mover operationId code pending
        have told := inOrder.told operationId
        dsimp only [ManagementUpdate.operationId] at before ⊢
        generalize heard : state.shared.signalled operationId = signals at told before ⊢
        cases told with
        | nothing => cases before
        | begun codes =>
            rw [EnrollmentDaemon.opening_append]
            exact .begun _
        | ended codes result =>
            have last : .completed operationId result ∈ state.shared.signalled operationId := by
              rw [heard]
              exact List.mem_append_right _ List.mem_cons_self
            exact absurd (List.mem_of_mem_filter last) (unended result)
    | completed operationId result =>
        have told := inOrder.told operationId
        dsimp only [ManagementUpdate.operationId] at before ⊢
        generalize heard : state.shared.signalled operationId = signals at told before ⊢
        cases told with
        | nothing => cases before
        | begun codes => exact .ended codes result
        | ended codes earlier =>
            have last : .completed operationId earlier ∈ state.shared.signalled operationId := by
              rw [heard]
              exact List.mem_append_right _ List.mem_cons_self
            have emitted := List.mem_of_mem_filter last
            have same := ledger.unique (outbox.heard _ emitted) (outbox.given mover _ pending)
            subst same
            exact absurd emitted (outbox.unheard mover _ pending trivial)

/-- A section of a call keeps the signals in their order. -/
theorem Manager1.InOrder.advance {mover : Nat} {choice : CallChoice} (inOrder : state.InOrder)
    (outbox : state.Outbox) (apart : state.Apart) (ledger : state.shared.Ledger)
    (sound : ∀ index, (state.thread index).Sound)
    (orderly : state.Orderly (.thread mover choice))
    (advanced : advanceCall uniqueName state.shared mover choice (state.thread mover) =
      some (after, own)) :
    Manager1.InOrder ⟨after, Function.update state.thread mover own⟩ := by
  have governs := advanceCall_governs advanced
  -- Where nothing is emitted, only the mover's claim and its hand may be new.
  have quiet (signals : after.signals = state.shared.signals)
      (mine : ∀ operationId code, own.pending = some (.progress operationId code) →
        ∀ result, .completed operationId result ∉ state.shared.signals) :
      Manager1.InOrder ⟨after, Function.update state.thread mover own⟩ := by
    have signalled : ∀ operationId,
        after.signalled operationId = state.shared.signalled operationId := by
      intro operationId
      rw [EnrollmentDaemon.signalled, signals, EnrollmentDaemon.signalled]
    refine ⟨?_, ?_, ?_⟩
    · intro operationId
      exact signalled operationId ▸ inOrder.told operationId
    · intro index operationId claims
      dsimp only at claims ⊢
      rw [signalled]
      by_cases same : index = mover
      · subst same
        rw [Function.update_self] at claims
        rcases advanceCall_claims advanced claims with before | ⟨fresh, -⟩
        · exact inOrder.unopened index operationId before
        · exact outbox.silent ledger fresh
      · rw [Function.update_of_ne same] at claims
        exact inOrder.unopened index operationId claims
    · intro index operationId code pending result
      dsimp only at pending ⊢
      rw [signals]
      by_cases same : index = mover
      · subst same
        rw [Function.update_self] at pending
        exact mine operationId code pending result
      · rw [Function.update_of_ne same] at pending
        exact inOrder.unended index operationId code pending result
  cases advanceCall_speaks (sound mover) advanced with
  | silent signals idle =>
      refine quiet signals ?_
      intro operationId code pending
      rw [idle] at pending
      cases pending
  | @computes said signals updates mine =>
      refine quiet signals ?_
      intro operationId code pending result emitted
      rw [mine] at pending
      cases pending
      exact EnrollmentDaemon.Ledger.open_ (ledger.governed governs) updates result
        (outbox.heard _ emitted)
  | @announces operationId signals claims mine =>
      refine quiet signals ?_
      intro named code pending result emitted
      rw [mine] at pending
      cases pending
      have heard := inOrder.unopened mover operationId claims
      have told := mem_signalled.mpr emitted
      dsimp only [ManagementUpdate.operationId] at told
      rw [heard] at told
      cases told
  | @emits said pending signals idle free =>
      have accepted : choice ≠ .emitted false := by
        rintro rfl
        rw [advanceCall_unsent advanced] at signals
        exact absurd signals (by simp)
      obtain ⟨opened, last⟩ := orderly accepted said pending
      refine ⟨?_, ?_, ?_⟩
      · intro operationId
        by_cases same : said.operationId = operationId
        · subst same
          dsimp only
          rw [signalled_append_self signals rfl]
          exact inOrder.emit outbox ledger sound pending opened
        · dsimp only
          rw [signalled_append_other signals same]
          exact inOrder.told operationId
      · intro index operationId claims
        dsimp only at claims ⊢
        by_cases moved : index = mover
        · subst moved
          rw [Function.update_self] at claims
          exact absurd claims (free operationId)
        · rw [Function.update_of_ne moved] at claims
          by_cases same : said.operationId = operationId
          · subst same
            rcases opened with mine | prepared
            · exact absurd ((apart mover _ mine).2 index claims) moved
            · have heard : .progress said.operationId .preparing ∈
                  state.shared.signalled said.operationId := mem_signalled.mpr prepared
              rw [inOrder.unopened index _ claims] at heard
              cases heard
          · rw [signalled_append_other signals same]
            exact inOrder.unopened index operationId claims
      · intro index operationId code pending_ result emitted
        dsimp only at pending_ emitted
        by_cases moved : index = mover
        · subst moved
          rw [Function.update_self, idle] at pending_
          cases pending_
        · rw [Function.update_of_ne moved] at pending_
          rw [signals, List.mem_append, List.mem_singleton] at emitted
          rcases emitted with earlier | rfl
          · exact inOrder.unended index operationId code pending_ result earlier
          · exact last trivial index code pending_

/-- In an orderly run, the signals of every operation are the preparing progress, then
other progress, then one completion, and nothing after it. -/
theorem Manager1.signals_told {config : ManagementConfig} {clock : Nat} {state : Manager1}
    (reached : (manager1 uniqueName).Reaches Manager1.Orderly (Manager1.initial config clock)
      state) (operationId : OperationId) :
        Told operationId (state.shared.signalled operationId) := by
  have begins : (Manager1.initial config clock).InOrder :=
    ⟨fun _ => .nothing, nofun, nofun⟩
  have known : ∀ state : Manager1, (manager1 uniqueName).Reaches Manager1.Orderly
      (Manager1.initial config clock) state →
      state.Outbox ∧ state.Apart ∧ state.shared.Ledger ∧ ∀ index, (state.thread index).Sound :=
    fun _ earlier => ⟨Manager1.outbox earlier, Manager1.apart earlier, Manager1.ledger earlier,
      Manager1.sound earlier⟩
  have inOrder : state.InOrder := by
    refine (reached.attach known).invariant begins ?_
    rintro state turn next inOrder ⟨orderly, outbox, apart, ledger, sound⟩ taken
    cases turn with
    | thread mover choice =>
        obtain ⟨after, own, advanced, rfl⟩ := Program.step_thread_eq_some_iff.mp taken
        exact inOrder.advance outbox apart ledger sound orderly advanced
    | event event =>
        obtain ⟨after, occurred, rfl⟩ := Program.step_event_eq_some_iff.mp taken
        have signals := occurEvent_signals occurred
        refine ⟨?_, ?_, ?_⟩
        · intro operationId
          dsimp only
          rw [EnrollmentDaemon.signalled, signals]
          exact inOrder.told operationId
        · intro index operationId claims
          dsimp only
          rw [EnrollmentDaemon.signalled, signals]
          exact inOrder.unopened index operationId claims
        · intro index operationId code pending
          dsimp only
          rw [signals]
          exact inOrder.unended index operationId code pending
  exact inOrder.told operationId

/-- Turns of calls that have nothing in hand to emit. -/
def Manager1.Quiet (state : Manager1) : Turn CallChoice DaemonEvent → Prop
  | .thread index _ => (state.thread index).pending = none
  | .event _ => True

instance (state : Manager1) : DecidablePred state.Quiet
  | .thread _ _ => inferInstanceAs (Decidable (_ = _))
  | .event _ => isTrue trivial

/-- A quiet turn is an orderly one. -/
theorem Manager1.Quiet.orderly (turn : Turn CallChoice DaemonEvent) (quiet : state.Quiet turn) :
    state.Orderly turn := by
  cases turn with
  | thread index choice =>
      intro accepted update pending
      rw [show (state.thread index).pending = none from quiet] at pending
      cases pending
  | event event => trivial

/-- One operation that begins, to its announcement. -/
def begunTurns : List (Turn CallChoice DaemonEvent) :=
  [.thread 0 (.invoke (.begin ":1.1" 1000 .checking)), .thread 0 (.caller (.ok 1000)),
    .thread 0 (.authorization (.ok ⟨1000⟩)), .thread 0 (.generated ⟨1⟩),
    .thread 0 (.lease (.ok ()))]

/-- An operation is announced when it has begun. -/
theorem Manager1.signals_told_test :
    Told ⟨1⟩ (((manager1 fun _ => true).after (Manager1.initial .default 0)
      (begunTurns ++ [.thread 0 (.emitted true)])).shared.signalled ⟨1⟩) := by
  have obeys : (manager1 fun _ => true).Obeys Manager1.Quiet (Manager1.initial .default 0)
      begunTurns := by decide
  have begun := obeys.reaches.mono fun _ turn quiet => Manager1.Quiet.orderly turn quiet
  have fits : Manager1.Orderly ((manager1 fun _ => true).after (Manager1.initial .default 0)
      begunTurns) (.thread 0 (.emitted true)) := by
    intro accepted update pending
    cases pending
    exact ⟨.inl rfl, fun terminal => terminal.elim⟩
  exact Manager1.signals_told (.next begun fits rfl) ⟨1⟩

/-- The relay has computed progress when the owner cancels, and emits it after the
completion. -/
def lateProgress : List (Turn CallChoice DaemonEvent) :=
  begunTurns ++ [.thread 0 (.emitted true),
    .thread 1 (.invoke (.relay 1000 ⟨1⟩ .taking)), .thread 1 .proceed,
    .event (.worker .take), .event (.worker .proceed),
    .event (.worker (.report .positionFace)), .event (.worker .proceed),
    .thread 1 .proceed, .thread 1 .proceed,
    .thread 2 (.invoke (.cancel ":1.1" 1000 (some ⟨1⟩) .checking)), .thread 2 (.caller (.ok 1000)),
    .thread 2 .proceed, .thread 2 .proceed, .thread 2 .proceed, .thread 2 (.emitted true),
    .thread 1 (.emitted true)]

/-- A run of the daemon emits progress after its terminal. -/
theorem Manager1.signals_disordered :
    ∃ state, (manager1 fun _ => true).Reaches (fun _ _ => True) (Manager1.initial .default 0)
      state ∧ ¬ Told ⟨1⟩ (state.shared.signalled ⟨1⟩) := by
  have obeys : (manager1 fun _ => true).Obeys (fun _ _ => True) (Manager1.initial .default 0)
      lateProgress := by decide
  refine ⟨_, obeys.reaches, ?_⟩
  have heard : ((manager1 fun _ => true).after (Manager1.initial .default 0)
      lateProgress).shared.signalled ⟨1⟩ =
      [.progress ⟨1⟩ .preparing, .completed ⟨1⟩ .cancelled, .progress ⟨1⟩ .positionFace] := rfl
  rw [heard]
  intro told
  generalize order : [ManagementUpdate.progress ⟨1⟩ .preparing, .completed ⟨1⟩ .cancelled,
    .progress ⟨1⟩ .positionFace] = signals at told
  cases told with
  | nothing => cases order
  | begun codes =>
      cases codes with
      | nil => cases order
      | cons code codes => cases order
  | ended codes result =>
      cases codes with
      | nil => cases order
      | cons code codes => cases order

end FaceAuth
