import FaceAuth.Daemon.StateAnswers

/-!
# The worker gets to every request

A call that waits is answered after a bounded number of turns of the worker, and a source that
is dropped waits no longer than that for the worker to end.
-/

namespace FaceAuth

open Foundation

/-- The turns that the worker needs for the request that it holds. -/
def TemplateStateWorker.turns : TemplateStateWorker → Nat
  | .reading _ _ => 2
  | .responding _ _ => 1
  | .receiving | .ended | .panicked => 0

/-- The turns that `drop` still needs, with that of the worker for its request. -/
def SourceOwner.turns : SourceOwner → Nat
  | .closing => 5
  | .joining => 1
  | .alive | .gone => 0

namespace BoundedEnrollmentStateSource

/-- The worker takes the turn. -/
def isWorkers : Turn StateCallChoice StateSourceEvent → Bool
  | .event .work | .event .panic => true
  | _ => false

/-- The worker or the owner takes the turn. -/
def isClosers : Turn StateCallChoice StateSourceEvent → Bool
  | .event .work | .event .panic | .event .sendShutdown | .event .join => true
  | _ => false

section Turns

variable (source : BoundedEnrollmentStateSource)

/-- The requests that the worker takes before that of a call. -/
def position (call : Nat) : Nat :=
  source.requests.findIdx fun request => decide (request.asker = some call)

/-- The turns of the worker until it has answered a call. -/
def turnsLeft (call : Nat) : Nat :=
  if source.worker.serves = some call then source.worker.turns
  else source.worker.turns + 3 * (source.position call + 1)

/-- The turns of the worker and the owner until a source that is dropped is gone. -/
def closingTurns : Nat :=
  source.owner.turns + 3 * source.requests.length + source.worker.turns

variable {source} {reader : Nat → UInt32 → Except BackendError Bool}
  {after : BoundedEnrollmentStateSource} {call : Nat} {event : StateSourceEvent}

/-- A queued request has a place in the queue. -/
theorem position_lt (queued : some call ∈ source.requests.map TemplateStateRequest.asker) :
    source.position call < source.requests.length := by
  obtain ⟨request, member, asks⟩ := List.mem_map.mp queued
  exact List.findIdx_lt_length_of_exists ⟨request, member, decide_eq_true asks⟩

/-- The worker is two turns from its next request at most. -/
theorem turns_le (worker : TemplateStateWorker) : worker.turns ≤ 2 := by
  cases worker <;> simp [TemplateStateWorker.turns]

/-- A worker that serves has a turn to go. -/
theorem turns_of_serves {worker : TemplateStateWorker} (serves : worker.serves = some call) :
    0 < worker.turns := by
  cases worker <;> simp [TemplateStateWorker.serves, TemplateStateWorker.turns] at serves ⊢

/-- An outstanding request is answered within a bound that the capacity gives. -/
theorem turnsLeft_le (held : source.Outstanding call) :
    0 < source.turnsLeft call ∧ source.turnsLeft call ≤ 3 * source.capacity + 2 := by
  have turns := turns_le source.worker
  have fits := source.fits
  unfold turnsLeft
  split
  · next serves => exact ⟨turns_of_serves serves, by omega⟩
  · next free =>
      have queued := position_lt (held.resolve_right free)
      omega

/-- A request at the end of the queue delays nobody before it. -/
theorem turnsLeft_sent {request : TemplateStateRequest} (held : source.Outstanding call)
    (sends : source.trySend request = some after) :
    after.turnsLeft call = source.turnsLeft call := by
  obtain ⟨running, room, rfl⟩ := trySend_eq_some_iff.mp sends
  unfold turnsLeft
  dsimp only
  split
  · rfl
  · next free =>
      have queued := position_lt (held.resolve_right free)
      unfold position at queued ⊢
      rw [List.findIdx_append, if_pos queued]

/-- A turn of the worker brings a call that still waits nearer to its answer. -/
theorem turnsLeft_occurs (occurs : source.Occurs reader event after)
    (held : source.Outstanding call) (pending : after.responses call = .pending) :
    (isWorkers (.event event)).toNat + after.turnsLeft call ≤ source.turnsLeft call := by
  have lost (worker : TemplateStateWorker)
      (pending : (source.leave worker).responses call = .pending) : False := by
    simp only [leave, held, if_true] at pending
    cases pending
  cases occurs with
  | @took targetUid response rest waiting first =>
      have free : source.worker.serves ≠ some call := by simp [waiting, TemplateStateWorker.serves]
      have before : source.turnsLeft call = 3 * (source.position call + 1) := by
        simp [turnsLeft, waiting, TemplateStateWorker.serves, TemplateStateWorker.turns]
      have taken : (source.receive (.reading targetUid response)).requests = rest := by
        rw [receive_requests, first, List.tail_cons]
      by_cases mine : response = call
      · subst mine
        have now : (source.receive (.reading targetUid response)).turnsLeft response = 2 :=
          if_pos rfl
        rw [before, now]
        simp only [isWorkers, Bool.toNat_true]
        omega
      · have others : some response ≠ some call := fun same => mine (Option.some.inj same)
        have later : source.position call =
            (source.receive (.reading targetUid response)).position call + 1 := by
          simp only [position, taken, first, List.findIdx_cons, TemplateStateRequest.asker, others,
            decide_false, cond_false]
        have now : (source.receive (.reading targetUid response)).turnsLeft call =
            2 + 3 * ((source.receive (.reading targetUid response)).position call + 1) :=
          if_neg others
        rw [before, now, later]
        simp only [isWorkers, Bool.toNat_true]
        omega
  | shut waiting first => exact (lost _ pending).elim
  | deserted waiting empty gone => exact (lost _ pending).elim
  | panicked reading => exact (lost _ pending).elim
  | @read targetUid response reading =>
      have same : (source.withWorker (.responding (reader source.now targetUid) response)).turnsLeft
          call + 1 = source.turnsLeft call := by
        by_cases mine : some response = some call <;>
          simp only [turnsLeft, position, withWorker, reading, TemplateStateWorker.serves,
            TemplateStateWorker.turns, mine, if_true, if_false]
        omega
      simp only [isWorkers, Bool.toNat_true]
      omega
  | @responded result response responding =>
      have others : some response ≠ some call := by
        rintro ⟨⟩
        rw [withWorker, respond_self] at pending
        cases pending
      have same : ((source.respond response (.sent result)).withWorker .receiving).turnsLeft
          call + 1 = source.turnsLeft call := by
        simp only [turnsLeft, position, withWorker, respond, responding, others,
          TemplateStateWorker.serves, TemplateStateWorker.turns, reduceCtorEq, if_false]
        omega
      simp only [isWorkers, Bool.toNat_true]
      omega
  | waited => exact Nat.le_of_eq (Nat.zero_add _)
  | dropped alive idle => exact Nat.le_of_eq (Nat.zero_add _)
  | closed away sends =>
      have sent := turnsLeft_sent held sends
      exact Nat.le_of_eq ((Nat.zero_add _).trans sent)
  | unsent away halted => exact Nat.le_of_eq (Nat.zero_add _)
  | joined away halted => exact Nat.le_of_eq (Nat.zero_add _)

/-- What happens apart from the calls leaves the capacity. -/
theorem occurs_capacity (occurs : source.Occurs reader event after) :
    after.capacity = source.capacity := by
  cases occurs with
  | closed away sends =>
      obtain ⟨running, room, rfl⟩ := trySend_eq_some_iff.mp sends
      rfl
  | took | shut | deserted | read | responded | panicked | waited | dropped | unsent | joined => rfl

/-- A worker that has something to do has a turn. -/
theorem work_of_busy (reader : Nat → UInt32 → Except BackendError Bool)
    (running : source.worker.isRunning = true)
    (busy : source.requests ≠ [] ∨ source.worker.serves ≠ none) :
    ∃ after, source.work reader = some after := by
  unfold work
  cases worker : source.worker with
  | receiving =>
      cases requests : source.requests with
      | nil =>
          rw [worker] at busy
          exact (busy.elim (· requests) (· rfl)).elim
      | cons request rest => cases request <;> exact ⟨_, rfl⟩
  | reading targetUid response => exact ⟨_, rfl⟩
  | responding result response => exact ⟨_, rfl⟩
  | ended | panicked =>
      rw [worker] at running
      cases running

/-- The worker has a turn as long as a call waits for it. -/
theorem work_of_outstanding (reader : Nat → UInt32 → Except BackendError Bool)
    (coherent : source.Coherent) (held : source.Outstanding call) :
    ∃ after, source.work reader = some after := by
  obtain queued | served := held
  · have waiting : source.requests ≠ [] := by
      intro empty
      rw [empty] at queued
      cases queued
    refine work_of_busy reader ?_ (.inl waiting)
    by_contra down
    exact waiting (coherent.halted (by simpa using down))
  · refine work_of_busy reader ?_ (.inr (by simp [served]))
    cases worker : source.worker <;> rw [worker] at served <;> first | rfl | cases served

/-- A turn of the worker or of the owner brings the end of a dropped source nearer. -/
theorem closingTurns_occurs (coherent : source.Coherent) (away : source.owner ≠ .alive)
    (occurs : source.Occurs reader event after) :
    after.owner ≠ .alive ∧
      (isClosers (.event event)).toNat + after.closingTurns ≤ source.closingTurns := by
  unfold closingTurns
  cases occurs with
  | took waiting first =>
      refine ⟨away, ?_⟩
      simp only [receive, waiting, first, isClosers, TemplateStateWorker.turns, List.tail_cons,
        List.length_cons, Bool.toNat_true]
      omega
  | shut waiting first =>
      refine ⟨away, ?_⟩
      simp only [leave, waiting, first, isClosers, TemplateStateWorker.turns, List.length_cons,
        List.length_nil, Bool.toNat_true]
      omega
  | deserted waiting empty gone =>
      have halted := coherent.gone gone
      rw [waiting] at halted
      cases halted
  | read reading =>
      refine ⟨away, ?_⟩
      simp only [withWorker, reading, isClosers, TemplateStateWorker.turns, Bool.toNat_true]
      omega
  | responded responding =>
      refine ⟨away, ?_⟩
      simp only [withWorker, respond, responding, isClosers, TemplateStateWorker.turns,
        Bool.toNat_true]
      omega
  | panicked reading =>
      refine ⟨away, ?_⟩
      simp only [leave, reading, isClosers, TemplateStateWorker.turns, List.length_nil,
        Bool.toNat_true]
      omega
  | waited => exact ⟨away, Nat.le_of_eq (Nat.zero_add _)⟩
  | dropped alive free => exact (away alive).elim
  | closed closing sends =>
      obtain ⟨running, room, rfl⟩ := trySend_eq_some_iff.mp sends
      refine ⟨by simp, ?_⟩
      simp only [closing, SourceOwner.turns, isClosers, List.length_append, List.length_cons,
        List.length_nil, Bool.toNat_true]
      omega
  | unsent closing halted =>
      refine ⟨by simp, ?_⟩
      simp only [closing, SourceOwner.turns, isClosers, Bool.toNat_true]
      omega
  | joined joining halted =>
      refine ⟨by simp, ?_⟩
      simp only [joining, SourceOwner.turns, isClosers, Bool.toNat_true]
      omega

/-- Closing takes a bounded number of turns. -/
theorem closingTurns_le (source : BoundedEnrollmentStateSource) :
    source.closingTurns ≤ 3 * source.capacity + 7 := by
  have turns := turns_le source.worker
  have fits := source.fits
  unfold closingTurns
  cases source.owner <;> simp only [SourceOwner.turns] <;> omega

/-- A source that is dropped is never stuck before it is gone. -/
theorem closers_move (reader : Nat → UInt32 → Except BackendError Bool)
    (coherent : source.Coherent) (room : 0 < source.capacity)
    (away : source.owner ≠ .alive) (left : source.owner ≠ .gone) :
    ∃ event after, isClosers (.event event) = true ∧ source.occur reader event = some after := by
  cases owner : source.owner with
  | alive => exact (away owner).elim
  | gone => exact (left owner).elim
  | closing =>
      cases running : source.worker.isRunning with
      | false =>
          refine ⟨.sendShutdown, { source with owner := .joining }, rfl, ?_⟩
          simp [occur, sendShutdown, owner, running]
      | true =>
          cases sends : source.trySend .shutdown with
          | some sent =>
              refine ⟨.sendShutdown, { sent with owner := .joining }, rfl, ?_⟩
              simp [occur, sendShutdown, owner, running, sends]
          | none =>
              obtain down | full := trySend_eq_none_iff.mp sends
              · rw [running] at down
                cases down
              · have queued : source.requests ≠ [] := by
                  intro empty
                  rw [empty] at full
                  exact absurd full (Nat.ne_of_lt room)
                obtain ⟨after, worked⟩ := work_of_busy reader running (.inl queued)
                exact ⟨.work, after, rfl, worked⟩
  | joining =>
      cases running : source.worker.isRunning with
      | false =>
          refine ⟨.join, { source with owner := .gone }, rfl, ?_⟩
          simp [occur, join, owner, running]
      | true =>
          have queued := List.ne_nil_of_mem (coherent.joining owner running)
          obtain ⟨after, worked⟩ := work_of_busy reader running (.inl queued)
          exact ⟨.work, after, rfl, worked⟩

end Turns

end BoundedEnrollmentStateSource

open BoundedEnrollmentStateSource

namespace StateCall

variable {authority : Nat → String → Except BackendError UInt32}
  {reader : Nat → UInt32 → Except BackendError Bool} {index : Nat}
  {source after : BoundedEnrollmentStateSource} {call own : StateCall}

/-- A section of a call leaves the capacity. -/
theorem Advances.capacity (advances : Advances authority index source call after own) :
    after.capacity = source.capacity := by
  cases advances with
  | requested requesting sends =>
      obtain ⟨running, room, rfl⟩ := trySend_eq_some_iff.mp sends
      rfl
  | began | unnamed | identified | confirmed | finished | cancelled => rfl

/-- A section of another call delays no answer. -/
theorem Advances.turnsLeft {other : Nat}
    (advances : Advances authority index source call after own) (held : source.Outstanding other) :
    after.turnsLeft other = source.turnsLeft other := by
  cases advances with
  | requested requesting sends =>
      have sent := turnsLeft_sent held sends
      exact sent
  | began | unnamed | identified | confirmed | finished | cancelled => rfl

/-- A call that has its response returns. -/
theorem advance_awaiting (authority : Nat → String → Except BackendError UInt32)
    {sender : String} {began : Nat} (awaiting : call.phase = .awaiting sender began)
    (answered : source.responses index ≠ .pending) :
    ∃ after own result, advance authority index .proceed source call = some (after, own) ∧
      own.phase = .returned began result := by
  unfold advance
  rw [awaiting]
  cases response : source.responses index with
  | pending => exact (answered response).elim
  | sent result => exact ⟨_, _, _, rfl, rfl⟩
  | dropped => exact ⟨_, _, _, rfl, rfl⟩

section Runs

variable {start state next : Threads BoundedEnrollmentStateSource StateCall} {queueCapacity : Nat}
  {spawned : Except String Unit}

/-- The capacity stays what it was made with. -/
theorem capacity_of_reaches
    (reached : (program authority reader).Reaches (fun _ _ => True) start state) :
    state.shared.capacity = start.shared.capacity := by
  induction reached with
  | start => rfl
  | @next state _ turn earlier fits taken ih =>
      rw [← ih]
      cases turn with
      | thread index choice =>
          obtain ⟨shared, own, advanced, rfl⟩ := Program.step_thread_eq_some_iff.mp taken
          exact (advance_cases advanced).capacity
      | event event =>
          obtain ⟨shared, occurred, rfl⟩ := Program.step_event_eq_some_iff.mp taken
          exact occurs_capacity (occur_cases occurred)

/-- The call began at a moment, and it waits, has returned or was dropped. -/
def Asked (index began : Nat) (state : Threads BoundedEnrollmentStateSource StateCall) : Prop :=
  (∃ sender, (state.thread index).phase = .awaiting sender began) ∨
    (∃ result, (state.thread index).phase = .returned began result) ∨
    (state.thread index).phase = .cancelled

/-- The call waits and has no response yet. -/
def Waits (index : Nat) (state : Threads BoundedEnrollmentStateSource StateCall) : Prop :=
  (∃ sender began, (state.thread index).phase = .awaiting sender began) ∧
    state.shared.responses index = .pending

/-- The request of a call that waits is outstanding. -/
theorem Follows.outstanding
    (follows : Follows authority reader index state.shared (state.thread index))
    (waits : Waits index state) : state.shared.Outstanding index := by
  obtain ⟨⟨sender, began, awaiting⟩, pending⟩ := waits
  have known := follows.2
  rw [awaiting] at known
  obtain ⟨-, last, -, awaits⟩ := known
  exact awaits.pending pending

/-- A call that waits only goes on to return or to be dropped. -/
theorem Advances.asked {began : Nat} (advances : Advances authority index source call after own)
    (asked : (∃ sender, call.phase = .awaiting sender began) ∨
      (∃ result, call.phase = .returned began result) ∨ call.phase = .cancelled) :
    (∃ result, own.phase = .returned began result) ∨ own.phase = .cancelled := by
  cases advances with
  | began ready | unnamed ready => rw [ready] at asked; simp at asked
  | identified phase | confirmed phase | requested phase => rw [phase] at asked; simp at asked
  | cancelled inFlight => exact .inr rfl
  | @finished moment result outcome =>
      refine .inl ⟨result, ?_⟩
      cases outcome with
      | unidentified asking | foreign asking =>
          obtain phase | phase := asking <;> rw [phase] at asked <;> simp at asked
      | refused phase => rw [phase] at asked; simp at asked
      | answered phase | stopped phase =>
          rw [phase] at asked
          obtain ⟨sender, same⟩ | ⟨result, same⟩ | same := asked <;> cases same
          rfl

/-- One turn answers a call that waits or leaves it waiting, and each of the worker's own brings the
answer nearer. -/
theorem waits_step {began : Nat} {turn : Turn StateCallChoice StateSourceEvent}
    (coherent : state.shared.Coherent)
    (follows : Follows authority reader index state.shared (state.thread index))
    (asked : Asked index began state)
    (taken : (program authority reader).step state turn = some next) :
    Asked index began next ∧ (Waits index next → Waits index state ∧
      (isWorkers turn).toNat + next.shared.turnsLeft index ≤ state.shared.turnsLeft index) := by
  cases turn with
  | event event =>
      obtain ⟨shared, occurred, rfl⟩ := Program.step_event_eq_some_iff.mp taken
      have occurs := occur_cases occurred
      refine ⟨asked, fun ⟨awaiting, pending⟩ => ?_⟩
      have waits : Waits index state :=
        ⟨awaiting, ((occurs_frame coherent occurs).pending pending).1⟩
      exact ⟨waits, turnsLeft_occurs occurs (follows.outstanding waits) pending⟩
  | thread mover choice =>
      obtain ⟨shared, own, advanced, rfl⟩ := Program.step_thread_eq_some_iff.mp taken
      have advances := advance_cases advanced
      by_cases mine : index = mover
      · subst mine
        have halted := advances.asked asked
        refine ⟨.inr ?_, ?_⟩
        · simpa only [Function.update_self] using halted
        · rintro ⟨⟨sender, moment, awaiting⟩, -⟩
          dsimp only at awaiting
          rw [Function.update_self] at awaiting
          rw [awaiting] at halted
          simp at halted
      · have same : Function.update state.thread mover own index = state.thread index :=
          Function.update_of_ne mine ..
        refine ⟨by simpa only [Asked, same] using asked, ?_⟩
        rintro ⟨awaiting, pending⟩
        dsimp only at awaiting
        rw [same] at awaiting
        have frame : Frame reader index state.shared shared := advances.frame mine
        have waits : Waits index state := ⟨awaiting, (frame.pending pending).1⟩
        refine ⟨waits, Nat.le_of_eq ?_⟩
        exact (Nat.zero_add _).trans (advances.turnsLeft (follows.outstanding waits))

/-- A call that waits is answered, whatever else happens in between. At every later moment it is
dropped, it has returned, its next section returns, or the worker has a turn and has taken fewer
than `3 * queueCapacity + 2` of them. -/
theorem awaiting_answered (made : new queueCapacity spawned = .ok start.shared)
    (ready : ∀ index, (start.thread index).phase = .ready)
    (reached : (program authority reader).Reaches (fun _ _ => True) start state)
    {sender : String} {began : Nat}
    (awaiting : (state.thread index).phase = .awaiting sender began)
    {turns : List (Turn StateCallChoice StateSourceEvent)}
    (obeys : (program authority reader).Obeys (fun _ _ => True) state turns) :
    let final := (program authority reader).after state turns
    (final.thread index).phase = .cancelled ∨
      (∃ result, (final.thread index).phase = .returned began result) ∨
      (∃ next result, (program authority reader).step final (.thread index .proceed) = some next ∧
        (next.thread index).phase = .returned began result) ∨
      turns.countP isWorkers < 3 * queueCapacity + 2 ∧
        ∃ next, (program authority reader).step final (.event .work) = some next := by
  have capacity : state.shared.capacity = queueCapacity :=
    (capacity_of_reaches reached).trans (new_eq_ok made).2.1
  have here := follows_of_reaches made ready reached
  have kept : ∀ (earlier : Threads BoundedEnrollmentStateSource StateCall) turn
      (next : Threads BoundedEnrollmentStateSource StateCall),
      ((program authority reader).Reaches (fun _ _ => True) start earlier ∧
        Asked index began earlier) → True →
      (program authority reader).step earlier turn = some next →
        ((program authority reader).Reaches (fun _ _ => True) start next ∧
          Asked index began next) ∧
        (Waits index next → Waits index earlier ∧
          (isWorkers turn).toNat + next.shared.turnsLeft index ≤
            earlier.shared.turnsLeft index) := by
    rintro earlier turn next ⟨reached, asked⟩ _ taken
    obtain ⟨coherent, follows⟩ := follows_of_reaches made ready reached
    obtain ⟨later, lower⟩ := waits_step coherent (follows index) asked taken
    exact ⟨⟨.next reached trivial taken, later⟩, lower⟩
  obtain ⟨⟨reaches, asked⟩, bound⟩ :=
    obeys.countP_add_le_while kept ⟨reached, .inl ⟨sender, awaiting⟩⟩
  intro final
  obtain ⟨sender, awaiting⟩ | returned | cancelled := asked
  · refine .inr (.inr ?_)
    by_cases pending : final.shared.responses index = .pending
    · have waits : Waits index final := ⟨⟨sender, began, awaiting⟩, pending⟩
      obtain ⟨first, fewer⟩ := bound waits
      have there := follows_of_reaches made ready reaches
      have held := (there.2 index).outstanding waits
      have last := turnsLeft_le held
      have most := turnsLeft_le ((here.2 index).outstanding first)
      rw [capacity] at most
      obtain ⟨after, worked⟩ := work_of_outstanding reader there.1 held
      exact .inr ⟨by omega, _, Program.step_event_eq_some_iff.mpr ⟨after, worked, rfl⟩⟩
    · obtain ⟨shared, own, result, advanced, returned⟩ :=
        advance_awaiting authority awaiting pending
      refine .inl ⟨_, result, Program.step_thread_eq_some_iff.mpr ⟨shared, own, advanced, rfl⟩, ?_⟩
      simpa only [Function.update_self] using returned
  · exact .inr (.inl returned)
  · exact .inl cancelled

/-- A call takes turns only as long as the source is there. -/
theorem Advances.alive (advances : Advances authority index source call after own)
    (coherent : source.Coherent) (follows : Follows authority reader index source call) :
    source.owner = .alive := by
  have held (inFlight : call.phase.inFlight = true) : source.owner = .alive := by
    have member := follows.1.mpr inFlight
    by_contra away
    rw [coherent.idle away] at member
    cases member
  cases advances with
  | began ready named alive => exact alive
  | unnamed ready unnamed alive => exact alive
  | identified phase | confirmed phase | requested phase => exact held (by rw [phase]; rfl)
  | finished outcome => exact held outcome.inFlight
  | cancelled inFlight => exact held inFlight

/-- `drop` returns. The worker and the owner take no more than `3 * queueCapacity + 7` turns
from then on, and one of them has a turn until the worker has ended, with nothing left in its
queue and no call that waits. -/
theorem drop_returns (made : new queueCapacity spawned = .ok start.shared)
    (ready : ∀ index, (start.thread index).phase = .ready)
    (reached : (program authority reader).Reaches (fun _ _ => True) start state)
    (away : state.shared.owner ≠ .alive)
    {turns : List (Turn StateCallChoice StateSourceEvent)}
    (obeys : (program authority reader).Obeys (fun _ _ => True) state turns) :
    let final := (program authority reader).after state turns
    turns.countP isClosers ≤ 3 * queueCapacity + 7 ∧
      (final.shared.owner = .gone ∧ final.shared.worker.isRunning = false ∧
          final.shared.requests = [] ∧ final.shared.calls = [] ∨
        ∃ event next, isClosers (.event event) = true ∧
          (program authority reader).step final (.event event) = some next) := by
  have capacity {later : Threads BoundedEnrollmentStateSource StateCall}
      (reached : (program authority reader).Reaches (fun _ _ => True) start later) :
      later.shared.capacity = queueCapacity :=
    (capacity_of_reaches reached).trans (new_eq_ok made).2.1
  have kept : ∀ (earlier : Threads BoundedEnrollmentStateSource StateCall) turn
      (next : Threads BoundedEnrollmentStateSource StateCall),
      ((program authority reader).Reaches (fun _ _ => True) start earlier ∧
        earlier.shared.owner ≠ .alive) → True →
      (program authority reader).step earlier turn = some next →
        ((program authority reader).Reaches (fun _ _ => True) start next ∧
          next.shared.owner ≠ .alive) ∧
        (isClosers turn).toNat + next.shared.closingTurns ≤ earlier.shared.closingTurns := by
    rintro earlier turn next ⟨reached, away⟩ _ taken
    obtain ⟨coherent, follows⟩ := follows_of_reaches made ready reached
    cases turn with
    | thread mover choice =>
        obtain ⟨shared, own, advanced, rfl⟩ := Program.step_thread_eq_some_iff.mp taken
        exact (away ((advance_cases advanced).alive coherent (follows mover))).elim
    | event event =>
        obtain ⟨shared, occurred, rfl⟩ := Program.step_event_eq_some_iff.mp taken
        obtain ⟨later, lower⟩ := closingTurns_occurs coherent away (occur_cases occurred)
        exact ⟨⟨.next reached trivial taken, later⟩, lower⟩
  obtain ⟨⟨reaches, later⟩, few⟩ := obeys.countP_add_le kept ⟨reached, away⟩
  have most := closingTurns_le state.shared
  rw [capacity reached] at most
  intro final
  have there := (follows_of_reaches made ready reaches).1
  refine ⟨by omega, ?_⟩
  by_cases gone : final.shared.owner = .gone
  · have down := there.gone gone
    exact .inl ⟨gone, down, there.halted down, there.idle later⟩
  · have room : 0 < final.shared.capacity := capacity reaches ▸ (new_eq_ok made).1
    obtain ⟨event, after, closers, occurred⟩ := closers_move reader there room later gone
    exact .inr ⟨event, _, closers, Program.step_event_eq_some_iff.mpr ⟨after, occurred, rfl⟩⟩

end Runs

/-- After three turns of the worker the call returns its answer. -/
theorem awaiting_answered_test : ∃ next result,
    exampleProgram.step (exampleProgram.after (exampleProgram.after exampleCalls exampleRequest)
        [.event .work, .event .work, .event .work]) (.thread 0 .proceed) = some next ∧
      (next.thread 0).phase = .returned 0 result := by
  have obeys : exampleProgram.Obeys (fun _ _ => True) exampleCalls exampleRequest := by
    decide
  have worked : exampleProgram.Obeys (fun _ _ => True)
      (exampleProgram.after exampleCalls exampleRequest)
      [.event .work, .event .work, .event .work] := by
    decide
  have waits : ((exampleProgram.after (exampleProgram.after exampleCalls exampleRequest)
      [.event .work, .event .work, .event .work]).thread 0).phase = .awaiting ":1.7" 0 := by
    decide
  obtain cancelled | ⟨result, returned⟩ | returns | ⟨-, next, stepped⟩ :=
    @awaiting_answered exampleAuthority (managementTemplateStateReader exampleTemplates) 0
      exampleCalls _ 1 (.ok ()) rfl (fun _ => rfl) obeys.reaches ":1.7" 0 (by decide) _ worked
  · cases waits.symm.trans cancelled
  · cases waits.symm.trans returned
  · exact returns
  · cases stepped

/-- A call is cancelled whose request fills the queue, and the source is dropped. -/
def exampleDrop : List (Turn StateCallChoice StateSourceEvent) :=
  exampleRequest ++ [.thread 0 .cancel, .event .drop]

/-- The worker reads for nobody, then takes the shutdown that had to wait for room, and ends. -/
def exampleClosing : List (Turn StateCallChoice StateSourceEvent) :=
  [.event .work, .event .sendShutdown, .event .work, .event .work, .event .work, .event .join]

/-- The source goes after the worker, and what was queued goes with them. -/
theorem drop_returns_test :
    (exampleProgram.after exampleCalls exampleDrop).shared.requests = [.query 1000 0] ∧
    (exampleProgram.step (exampleProgram.after exampleCalls exampleDrop)
      (.event .sendShutdown)).isNone = true ∧
    exampleClosing.countP isClosers ≤ 10 ∧
    (exampleProgram.after (exampleProgram.after exampleCalls exampleDrop)
      exampleClosing).shared.owner = .gone ∧
    (exampleProgram.after (exampleProgram.after exampleCalls exampleDrop)
      exampleClosing).shared.worker.isRunning = false ∧
    (exampleProgram.after (exampleProgram.after exampleCalls exampleDrop)
      exampleClosing).shared.requests = [] ∧
    (exampleProgram.after (exampleProgram.after exampleCalls exampleDrop)
      exampleClosing).shared.calls = [] := by
  have obeys : exampleProgram.Obeys (fun _ _ => True) exampleCalls exampleDrop := by
    decide
  have worked : exampleProgram.Obeys (fun _ _ => True)
      (exampleProgram.after exampleCalls exampleDrop) exampleClosing := by
    decide
  have closed (event : StateSourceEvent) : isClosers (.event event) = true →
      (exampleProgram.step (exampleProgram.after (exampleProgram.after exampleCalls exampleDrop)
        exampleClosing) (.event event)).isNone = true := by
    cases event <;> decide
  obtain ⟨few, down | ⟨event, next, closers, stepped⟩⟩ := @drop_returns exampleAuthority
    (managementTemplateStateReader exampleTemplates) exampleCalls _ 1 (.ok ()) rfl
    (fun _ => rfl) obeys.reaches (by decide) exampleClosing worked
  · exact ⟨by decide, by decide, few, down⟩
  · have still := (congrArg Option.isNone stepped).symm.trans (closed event closers)
    cases still

end StateCall

end FaceAuth
