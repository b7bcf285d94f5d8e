import FaceAuth.Daemon.StateSource

/-!
# What a call for the enrollment state returns

Whatever the order of the turns, an answer is the reader's own for the account that the bus
attested, read while the call was waiting.
-/

namespace FaceAuth

open Foundation

namespace BoundedEnrollmentStateSource

/-- What the queue, the worker and the owner have to do with each other. -/
structure Coherent (source : BoundedEnrollmentStateSource) : Prop where
  closing : .shutdown ∈ source.requests → source.owner = .joining
  shut : source.worker = .ended → source.owner = .joining ∨ source.owner = .gone
  joining : source.owner = .joining → source.worker.isRunning = true →
    .shutdown ∈ source.requests
  gone : source.owner = .gone → source.worker.isRunning = false
  halted : source.worker.isRunning = false → source.requests = []
  idle : source.owner ≠ .alive → source.calls = []

/-- What a turn that is not its own leaves of a call. -/
structure Frame (reader : Nat → UInt32 → Except BackendError Bool) (call : Nat)
    (source after : BoundedEnrollmentStateSource) : Prop where
  calls : call ∈ after.calls ↔ call ∈ source.calls
  now : source.now ≤ after.now
  outstanding : after.Outstanding call → source.Outstanding call
  asks : ∀ targetUid, after.Asks call targetUid → source.Asks call targetUid
  answers : ∀ result, after.Answers call result → source.Answers call result ∨
    ∃ targetUid, source.Asks call targetUid ∧ result = reader source.now targetUid
  pending : after.responses call = .pending → source.responses call = .pending ∧
    (source.Outstanding call → after.Outstanding call)
  dropped : after.responses call = .dropped → source.responses call = .dropped ∨
    after.worker = .panicked ∨ source.calls = []
  panicked : source.worker = .panicked → after.worker = .panicked

section Shared

variable {reader : Nat → UInt32 → Except BackendError Bool}
  {source after : BoundedEnrollmentStateSource} {call : Nat}

/-- A source that was made has an empty queue and a worker that receives. -/
theorem new_eq_ok {queueCapacity : Nat} {spawned : Except String Unit}
    (made : new queueCapacity spawned = .ok source) :
    0 < queueCapacity ∧ source.capacity = queueCapacity ∧ source.requests = [] ∧
      source.worker = .receiving ∧ source.calls = [] ∧ source.owner = .alive := by
  unfold new at made
  split at made
  · cases made
  · next valid =>
      split at made <;> cases made
      exact ⟨by omega, rfl, rfl, rfl, rfl, rfl⟩

/-- A source that was made is coherent. -/
theorem coherent_new {queueCapacity : Nat} {spawned : Except String Unit}
    (made : new queueCapacity spawned = .ok source) : source.Coherent := by
  obtain ⟨-, -, empty, waiting, free, alive⟩ := new_eq_ok made
  constructor <;> simp [empty, waiting, free, alive, TemplateStateWorker.isRunning]

/-- What happens apart from the calls keeps the source coherent. -/
theorem occurs_coherent {event : StateSourceEvent} (coherent : source.Coherent)
    (occurs : source.Occurs reader event after) :
    after.Coherent := by
  obtain ⟨closing, shut, joining, gone, halted, idle⟩ := coherent
  cases occurs with
  | took waiting first =>
      refine ⟨?_, ?_, ?_, ?_, ?_, idle⟩ <;>
        simp_all [receive, TemplateStateWorker.isRunning]
  | shut waiting first =>
      refine ⟨?_, ?_, ?_, ?_, ?_, idle⟩ <;>
        simp_all [leave, TemplateStateWorker.isRunning]
  | deserted waiting empty gone =>
      refine ⟨?_, ?_, ?_, ?_, ?_, idle⟩ <;>
        simp_all [TemplateStateWorker.isRunning]
  | read reading =>
      refine ⟨closing, ?_, ?_, ?_, ?_, idle⟩ <;>
        simp_all [withWorker, TemplateStateWorker.isRunning]
  | responded responding =>
      refine ⟨closing, ?_, ?_, ?_, ?_, idle⟩ <;>
        simp_all [withWorker, respond, TemplateStateWorker.isRunning]
  | panicked reading =>
      refine ⟨?_, ?_, ?_, ?_, ?_, idle⟩ <;>
        simp_all [leave, TemplateStateWorker.isRunning]
  | waited => exact ⟨closing, shut, joining, gone, halted, idle⟩
  | dropped alive free =>
      refine ⟨?_, ?_, ?_, ?_, halted, fun _ => free⟩ <;> simp_all
  | closed away sends =>
      obtain ⟨running, room, rfl⟩ := trySend_eq_some_iff.mp sends
      refine ⟨?_, ?_, ?_, ?_, ?_, ?_⟩ <;> simp_all [TemplateStateWorker.isRunning]
  | unsent away halted =>
      refine ⟨?_, ?_, ?_, ?_, ?_, ?_⟩ <;> simp_all
  | joined away halted =>
      refine ⟨?_, ?_, ?_, ?_, ?_, ?_⟩ <;> simp_all

/-- A turn that changes neither the queue, the worker nor the channels. -/
theorem Frame.same (requests : after.requests = source.requests)
    (worker : after.worker = source.worker) (responses : after.responses = source.responses)
    (calls : call ∈ after.calls ↔ call ∈ source.calls) (now : source.now ≤ after.now) :
    Frame reader call source after := by
  constructor <;>
    simp_all [Outstanding, Asks, Answers]

/-- A worker that leaves closes the channels of the requests that it leaves behind. -/
theorem frame_leave {worker : TemplateStateWorker}
    (left : worker = .ended ∧ source.worker = .receiving ∧ source.calls = [] ∨
      worker = .panicked) : Frame reader call source (source.leave worker) where
  calls := Iff.rfl
  now := Nat.le_refl _
  outstanding held := by
    obtain queued | served := held
    · cases queued
    · obtain ⟨rfl, -⟩ | rfl := left <;> cases served
  asks targetUid asked := by
    obtain queued | read := asked
    · cases queued
    · obtain ⟨rfl, -⟩ | rfl := left <;> cases read
  answers result answered := by
    obtain sending | sent := answered
    · obtain ⟨rfl, -⟩ | rfl := left <;> cases sending
    · simp only [leave] at sent
      split at sent
      · cases sent
      · exact .inl (.inr sent)
  pending response := by
    simp only [leave] at response
    split at response
    · cases response
    · next free => exact ⟨response, fun held => (free held).elim⟩
  dropped _ := by
    obtain ⟨-, -, free⟩ | rfl := left
    · exact .inr (.inr free)
    · exact .inr (.inl rfl)
  panicked panicked := by
    obtain ⟨-, waiting, -⟩ | rfl := left
    · rw [waiting] at panicked
      cases panicked
    · rfl

/-- Taking a request leaves the other calls alone. -/
theorem frame_took {targetUid : UInt32} {response : Nat} {rest : List TemplateStateRequest}
    (waiting : source.worker = .receiving)
    (first : source.requests = .query targetUid response :: rest) :
    Frame reader call source (source.receive (.reading targetUid response)) := by
  have left : (source.receive (.reading targetUid response)).requests = rest := by
    rw [receive_requests, first, List.tail_cons]
  refine ⟨Iff.rfl, Nat.le_refl _, ?_, ?_, ?_, ?_, .inl, ?_⟩
  · rintro (queued | served)
    · rw [left] at queued
      exact .inl (first ▸ List.mem_cons_of_mem _ queued)
    · cases served
      exact .inl (first ▸ List.mem_cons_self)
  · rintro other (queued | read)
    · rw [left] at queued
      exact .inl (first ▸ List.mem_cons_of_mem _ queued)
    · cases read
      exact .inl (first ▸ List.mem_cons_self)
  · rintro result (sending | sent)
    · cases sending
    · exact .inl (.inr sent)
  · intro pending
    refine ⟨pending, ?_⟩
    rintro (queued | served)
    · rw [first] at queued
      obtain same | queued := List.mem_cons.mp queued
      · exact .inr same.symm
      · exact .inl (left ▸ queued)
    · rw [waiting] at served
      cases served
  · intro panicked
    rw [waiting] at panicked
    cases panicked

/-- Reading for one call leaves the others alone. -/
theorem frame_read {targetUid : UInt32} {response : Nat}
    (reading : source.worker = .reading targetUid response) :
    Frame reader call source
      (source.withWorker (.responding (reader source.now targetUid) response)) := by
  have serves : source.worker.serves = some response := by rw [reading]; rfl
  refine ⟨Iff.rfl, Nat.le_refl _, ?_, ?_, ?_, ?_, .inl, ?_⟩
  · exact Or.imp_right serves.trans
  · rintro other (queued | read)
    · exact .inl queued
    · cases read
  · rintro result (sending | sent)
    · cases sending
      exact .inr ⟨targetUid, .inr reading, rfl⟩
    · exact .inl (.inr sent)
  · exact fun pending => ⟨pending, Or.imp_right serves.symm.trans⟩
  · intro panicked
    rw [reading] at panicked
    cases panicked

/-- Answering one call leaves the others alone. -/
theorem frame_responded {result : Except BackendError Bool} {response : Nat}
    (responding : source.worker = .responding result response) :
    Frame reader call source
      ((source.respond response (.sent result)).withWorker .receiving) := by
  have mine (other : StateResponse)
      (holds : (source.respond response (.sent result)).responses call = other) :
      source.responses call = other ∨ call = response ∧ other = .sent result := by
    by_cases same : call = response
    · subst same
      rw [respond_self] at holds
      exact .inr ⟨rfl, holds.symm⟩
    · rw [respond_of_ne same] at holds
      exact .inl holds
  refine ⟨Iff.rfl, Nat.le_refl _, ?_, ?_, ?_, ?_, ?_, ?_⟩
  · rintro (queued | served)
    · exact .inl queued
    · cases served
  · rintro other (queued | read)
    · exact .inl queued
    · cases read
  · rintro other (sending | sent)
    · cases sending
    · obtain before | ⟨rfl, same⟩ := mine _ sent
      · exact .inl (.inr before)
      · cases same
        exact .inl (.inl responding)
  · intro pending
    obtain before | ⟨-, same⟩ := mine _ pending
    · refine ⟨before, ?_⟩
      rintro (queued | served)
      · exact .inl queued
      · rw [responding] at served
        cases served
        rw [withWorker, respond_self] at pending
        cases pending
    · cases same
  · intro dropped
    obtain before | ⟨-, same⟩ := mine _ dropped
    · exact .inl before
    · cases same
  · intro panicked
    rw [responding] at panicked
    cases panicked

/-- A request of nobody or of another call. -/
theorem frame_sent {request : TemplateStateRequest} (others : request.asker ≠ some call)
    (sends : source.trySend request = some after) : Frame reader call source after := by
  obtain ⟨running, room, rfl⟩ := trySend_eq_some_iff.mp sends
  have held : some call ∈ (source.requests ++ [request]).map TemplateStateRequest.asker ↔
      some call ∈ source.requests.map TemplateStateRequest.asker := by
    simp [Ne.symm others]
  refine ⟨Iff.rfl, Nat.le_refl _, Or.imp_left held.mp, ?_, fun _ => .inl,
    fun pending => ⟨pending, Or.imp_left held.mpr⟩, .inl, id⟩
  rintro targetUid (queued | read)
  · obtain queued | last := List.mem_append.mp queued
    · exact .inl queued
    · cases List.mem_singleton.mp last
      exact (others rfl).elim
  · exact .inr read

/-- What happens apart from the calls serves each as it should. -/
theorem occurs_frame {event : StateSourceEvent} (coherent : source.Coherent)
    (occurs : source.Occurs reader event after) :
    Frame reader call source after := by
  cases occurs with
  | took waiting first => exact frame_took waiting first
  | shut waiting first =>
      have joining := coherent.closing (first ▸ List.mem_cons_self)
      exact frame_leave (.inl ⟨rfl, waiting, coherent.idle (by simp [joining])⟩)
  | deserted waiting empty gone =>
      exact frame_leave (.inl ⟨rfl, waiting, coherent.idle (by simp [gone])⟩)
  | read reading => exact frame_read reading
  | responded responding => exact frame_responded responding
  | panicked reading => exact frame_leave (.inr rfl)
  | waited => exact .same rfl rfl rfl Iff.rfl (Nat.le_succ _)
  | dropped alive free => exact .same rfl rfl rfl Iff.rfl (Nat.le_refl _)
  | @closed sent away sends =>
      obtain ⟨calls, now, outstanding, asks, answers, pending, dropped, panicked⟩ :
        Frame reader call source sent := frame_sent (by simp [TemplateStateRequest.asker]) sends
      exact ⟨calls, now, outstanding, asks, answers, pending, dropped, panicked⟩
  | unsent away halted => exact .same rfl rfl rfl Iff.rfl (Nat.le_refl _)
  | joined away halted => exact .same rfl rfl rfl Iff.rfl (Nat.le_refl _)

/-- A call that asks has its request outstanding. -/
theorem Asks.outstanding {targetUid : UInt32} (asks : source.Asks call targetUid) :
    source.Outstanding call := by
  obtain queued | read := asks
  · exact .inl (List.mem_map.mpr ⟨_, queued, rfl⟩)
  · refine .inr ?_
    rw [read]
    rfl

end Shared

end BoundedEnrollmentStateSource

open BoundedEnrollmentStateSource

namespace StateCall

variable (authority : Nat → String → Except BackendError UInt32)
  (reader : Nat → UInt32 → Except BackendError Bool)

/-- Since a moment the bus attested the account of a sender twice, the second time at `last`. -/
def Vouched (sender : String) (uid : UInt32) (began last : Nat) : Prop :=
  ∃ first, began ≤ first ∧ first ≤ last ∧ authority first sender = .ok uid ∧
    authority last sender = .ok uid

/-- What a call that waits may count on. -/
structure Awaits (index : Nat) (source : BoundedEnrollmentStateSource) (call : StateCall)
    (last : Nat) : Prop where
  past : last ≤ source.now
  asks : ∀ targetUid, source.Asks index targetUid → targetUid = call.targetUid
  answers : ∀ result, source.Answers index result →
    ∃ moment, last ≤ moment ∧ moment ≤ source.now ∧ result = reader moment call.targetUid
  pending : source.responses index = .pending → source.Outstanding index
  dropped : source.responses index = .dropped → source.worker = .panicked

/-- What holds of a call in each of its phases. -/
def Follows (index : Nat) (source : BoundedEnrollmentStateSource) (call : StateCall) : Prop :=
  (index ∈ source.calls ↔ call.phase.inFlight = true) ∧
  match call.phase with
  | .ready => ¬ source.Outstanding index
  | .identifying sender began =>
      ¬ source.Outstanding index ∧ call.header = some sender ∧ began ≤ source.now
  | .confirming sender began =>
      ¬ source.Outstanding index ∧ call.header = some sender ∧
        ∃ first, began ≤ first ∧ first ≤ source.now ∧ authority first sender = .ok call.targetUid
  | .requesting sender began =>
      ¬ source.Outstanding index ∧ call.header = some sender ∧
        ∃ last, last ≤ source.now ∧ Vouched authority sender call.targetUid began last
  | .awaiting sender began =>
      call.header = some sender ∧
        ∃ last, Vouched authority sender call.targetUid began last ∧
          Awaits reader index source call last
  | .returned _ _ | .cancelled => True

variable {authority reader} {index : Nat} {source after : BoundedEnrollmentStateSource}
  {call own : StateCall}

/-- A call that waits goes on waiting, or has its answer. -/
theorem Awaits.frame {last : Nat} (awaits : Awaits reader index source call last)
    (held : index ∈ source.calls) (frame : Frame reader index source after) :
    Awaits reader index after call last where
  past := awaits.past.trans frame.now
  asks targetUid asked := awaits.asks targetUid (frame.asks targetUid asked)
  answers result answered := by
    obtain before | ⟨targetUid, asked, rfl⟩ := frame.answers result answered
    · obtain ⟨moment, later, earlier, read⟩ := awaits.answers result before
      exact ⟨moment, later, earlier.trans frame.now, read⟩
    · rw [awaits.asks targetUid asked]
      exact ⟨source.now, awaits.past, frame.now, rfl⟩
  pending pending := by
    obtain ⟨before, kept⟩ := frame.pending pending
    exact kept (awaits.pending before)
  dropped dropped := by
    obtain before | panicked | free := frame.dropped dropped
    · exact frame.panicked (awaits.dropped before)
    · exact panicked
    · rw [free] at held
      cases held

/-- The turns of the others keep what holds of a call. -/
theorem Follows.frame (follows : Follows authority reader index source call)
    (frame : Frame reader index source after) : Follows authority reader index after call := by
  obtain ⟨held, known⟩ := follows
  refine ⟨frame.calls.trans held, ?_⟩
  cases phase : call.phase with
  | ready =>
      rw [phase] at known
      exact fun outstanding => known (frame.outstanding outstanding)
  | identifying sender began =>
      rw [phase] at known
      obtain ⟨unasked, named, past⟩ := known
      exact ⟨fun outstanding => unasked (frame.outstanding outstanding), named,
        past.trans frame.now⟩
  | confirming sender began =>
      rw [phase] at known
      obtain ⟨unasked, named, first, later, past, asked⟩ := known
      exact ⟨fun outstanding => unasked (frame.outstanding outstanding), named, first, later,
        past.trans frame.now, asked⟩
  | requesting sender began =>
      rw [phase] at known
      obtain ⟨unasked, named, last, past, vouched⟩ := known
      exact ⟨fun outstanding => unasked (frame.outstanding outstanding), named, last,
        past.trans frame.now, vouched⟩
  | awaiting sender began =>
      rw [phase] at known held
      obtain ⟨named, last, vouched, awaits⟩ := known
      exact ⟨named, last, vouched, awaits.frame (held.mpr rfl) frame⟩
  | returned began result => trivial
  | cancelled => trivial

/-- A section keeps what holds of its own call. -/
theorem Follows.advances (follows : Follows authority reader index source call)
    (advances : Advances authority index source call after own) :
    Follows authority reader index after own := by
  obtain ⟨held, known⟩ := follows
  cases advances with
  | began ready named alive =>
      rw [ready] at known
      exact ⟨by simp [hold, StateCallPhase.inFlight], known, named, Nat.le_refl _⟩
  | unnamed ready unnamed alive =>
      rw [ready] at held
      exact ⟨held, trivial⟩
  | identified identifying own =>
      rw [identifying] at known held
      obtain ⟨unasked, named, past⟩ := known
      exact ⟨held, unasked, named, source.now, past, Nat.le_refl _, own⟩
  | confirmed confirming own =>
      rw [confirming] at known held
      obtain ⟨unasked, named, first, later, past, asked⟩ := known
      exact ⟨held, unasked, named, source.now, Nat.le_refl _, first, later, past, asked, own⟩
  | requested requesting sends =>
      rw [requesting] at known held
      obtain ⟨unasked, named, last, past, vouched⟩ := known
      obtain ⟨running, room, rfl⟩ := trySend_eq_some_iff.mp sends
      refine ⟨held, named, last, vouched, past, ?_, ?_, ?_, ?_⟩
      · rintro targetUid (queued | read)
        · obtain queued | last := List.mem_append.mp queued
          · exact (unasked (Asks.outstanding (.inl queued))).elim
          · cases List.mem_singleton.mp last
            rfl
        · exact (unasked (Asks.outstanding (.inr read))).elim
      · rintro result (sending | sent)
        · refine (unasked (.inr ?_)).elim
          change source.worker = _ at sending
          rw [sending]
          rfl
        · rw [respond_self] at sent
          cases sent
      · exact fun _ => .inl (List.mem_map.mpr ⟨_, List.mem_append_right _ List.mem_cons_self, rfl⟩)
      · intro dropped
        rw [respond_self] at dropped
        cases dropped
  | finished outcome => exact ⟨by simp [release, StateCallPhase.inFlight], trivial⟩
  | cancelled inFlight => exact ⟨by simp [release, StateCallPhase.inFlight], trivial⟩

/-- A section of one call is none of the others' business. -/
theorem Advances.frame {other : Nat} (differs : other ≠ index)
    (advances : Advances authority index source call after own) :
    Frame reader other source after := by
  cases advances with
  | began ready named alive =>
      exact .same rfl rfl rfl (by simp [hold, differs]) (Nat.le_refl _)
  | unnamed ready unnamed alive => exact .same rfl rfl rfl Iff.rfl (Nat.le_refl _)
  | identified identifying own => exact .same rfl rfl rfl Iff.rfl (Nat.le_refl _)
  | confirmed confirming own => exact .same rfl rfl rfl Iff.rfl (Nat.le_refl _)
  | @requested sender began sent requesting sends =>
      obtain ⟨calls, now, outstanding, asks, answers, pending, dropped, panicked⟩ :
        Frame reader other source sent := by
          refine frame_sent ?_ sends
          rintro ⟨⟩
          exact differs rfl
      have kept := sent.respond_of_ne differs .pending
      refine ⟨calls, now, outstanding, asks, fun result => ?_, fun response => ?_,
        fun response => ?_, panicked⟩
      · rintro (sending | answered)
        · exact answers result (.inl sending)
        · exact answers result (.inr (kept ▸ answered))
      · exact pending (kept ▸ response)
      · exact dropped (kept ▸ response)
  | finished outcome => exact .same rfl rfl rfl (by simp [release, differs]) (Nat.le_refl _)
  | cancelled inFlight => exact .same rfl rfl rfl (by simp [release, differs]) (Nat.le_refl _)

/-- A section of a call keeps the source coherent. -/
theorem Advances.coherent (advances : Advances authority index source call after own)
    (coherent : source.Coherent) : after.Coherent := by
  obtain ⟨closing, shut, joining, gone, halted, idle⟩ := coherent
  cases advances with
  | began ready named alive =>
      exact ⟨closing, shut, joining, gone, halted, fun away => (away alive).elim⟩
  | unnamed ready unnamed alive => exact ⟨closing, shut, joining, gone, halted, idle⟩
  | identified identifying own => exact ⟨closing, shut, joining, gone, halted, idle⟩
  | confirmed confirming own => exact ⟨closing, shut, joining, gone, halted, idle⟩
  | requested requesting sends =>
      obtain ⟨running, room, rfl⟩ := trySend_eq_some_iff.mp sends
      refine ⟨fun queued => closing ?_, shut, fun away up => ?_, gone, fun down => ?_, idle⟩
      · obtain queued | last := List.mem_append.mp queued
        · exact queued
        · cases List.mem_singleton.mp last
      · exact List.mem_append_left _ (joining away up)
      · exact Bool.noConfusion (running.symm.trans down)
  | finished outcome =>
      refine ⟨closing, shut, joining, gone, halted, fun away => ?_⟩
      change source.calls.filter _ = []
      rw [idle away]
      rfl
  | cancelled inFlight =>
      refine ⟨closing, shut, joining, gone, halted, fun away => ?_⟩
      change source.calls.filter _ = []
      rw [idle away]
      rfl

/-- Every turn keeps the source coherent and the calls in step with it. -/
theorem stable : (program authority reader).Stable (fun _ _ => True) Coherent
    (Follows authority reader) where
  advances state index choice shared after coherent follows _ advanced := by
    have advances := advance_cases advanced
    exact ⟨advances.coherent coherent, (follows index).advances advances,
      fun other differs => (follows other).frame (advances.frame differs)⟩
  occurs state event shared coherent follows _ occurred := by
    have occurs := occur_cases occurred
    exact ⟨occurs_coherent coherent occurs,
      fun other => (follows other).frame (occurs_frame coherent occurs)⟩

/-- Why a call returned, at the moment of its return. -/
inductive Explained (authority : Nat → String → Except BackendError UInt32)
    (reader : Nat → UInt32 → Except BackendError Bool) (source : BoundedEnrollmentStateSource)
    (header : Option String) (targetUid : UInt32) (began : Nat) : Except FdoError Bool → Prop where
  | unnamed (unnamed : header = none) :
      Explained authority reader source header targetUid began
        (.error (.accessDenied "message sender is unavailable"))
  | unidentified {sender : String} {error : BackendError} {moment : Nat}
      (named : header = some sender) (later : began ≤ moment) (past : moment ≤ source.now)
      (asked : authority moment sender = .error error) :
      Explained authority reader source header targetUid began (.error (mapBackendError error))
  | foreign {sender : String} {callerUid : UInt32} {moment : Nat}
      (named : header = some sender) (later : began ≤ moment) (past : moment ≤ source.now)
      (asked : authority moment sender = .ok callerUid) (differs : callerUid ≠ targetUid) :
      Explained authority reader source header targetUid began
        (.error (.accessDenied "caller is not the target account"))
  | refused {sender : String} {last : Nat} (named : header = some sender)
      (past : last ≤ source.now) (vouched : Vouched authority sender targetUid began last)
      (full : source.worker = .panicked ∨ source.requests.length = source.capacity) :
      Explained authority reader source header targetUid began
        (.error (.accessDenied "template state worker queue is unavailable or full"))
  | answered {sender : String} {last moment : Nat} (named : header = some sender)
      (vouched : Vouched authority sender targetUid began last) (later : last ≤ moment)
      (past : moment ≤ source.now) :
      Explained authority reader source header targetUid began
        ((reader moment targetUid).mapError mapBackendError)
  | stopped {sender : String} {last : Nat} (named : header = some sender)
      (past : last ≤ source.now) (vouched : Vouched authority sender targetUid began last)
      (panicked : source.worker = .panicked) :
      Explained authority reader source header targetUid began
        (.error (.accessDenied "template state worker stopped"))

/-- A worker that is gone while a call holds the source has panicked. -/
theorem Coherent.panicked (coherent : source.Coherent) (held : index ∈ source.calls)
    (down : source.worker.isRunning = false) : source.worker = .panicked := by
  have alive : source.owner = .alive := by
    by_contra away
    rw [coherent.idle away] at held
    cases held
  cases worker : source.worker with
  | ended =>
      obtain joining | gone := coherent.shut worker
      · rw [joining] at alive
        cases alive
      · rw [gone] at alive
        cases alive
  | panicked => rfl
  | receiving | reading | responding =>
      rw [worker] at down
      cases down

/-- What is known of a call in flight explains whatever it returns. -/
theorem Outcome.explained {began : Nat} {result : Except FdoError Bool}
    (outcome : Outcome authority index source call began result) (coherent : source.Coherent)
    (follows : Follows authority reader index source call) :
    Explained authority reader source call.header call.targetUid began result := by
  have held := follows.1.mpr outcome.inFlight
  have known := follows.2
  cases outcome with
  | unidentified asking asked =>
      obtain identifying | confirming := asking
      · rw [identifying] at known
        exact .unidentified known.2.1 known.2.2 (Nat.le_refl _) asked
      · rw [confirming] at known
        obtain ⟨-, named, first, later, past, -⟩ := known
        exact .unidentified named (later.trans past) (Nat.le_refl _) asked
  | foreign asking asked differs =>
      obtain identifying | confirming := asking
      · rw [identifying] at known
        exact .foreign known.2.1 known.2.2 (Nat.le_refl _) asked differs
      · rw [confirming] at known
        obtain ⟨-, named, first, later, past, -⟩ := known
        exact .foreign named (later.trans past) (Nat.le_refl _) asked differs
  | refused requesting full =>
      rw [requesting] at known
      obtain ⟨-, named, last, past, vouched⟩ := known
      exact .refused named past vouched (full.imp_left (Coherent.panicked coherent held))
  | answered awaiting sent =>
      rw [awaiting] at known
      obtain ⟨named, last, vouched, awaits⟩ := known
      obtain ⟨moment, later, past, rfl⟩ := awaits.answers _ (.inr sent)
      exact .answered named vouched later past
  | stopped awaiting dropped =>
      rw [awaiting] at known
      obtain ⟨named, last, vouched, awaits⟩ := known
      exact .stopped named awaits.past vouched (awaits.dropped dropped)

/-- An account is enrolled when its template loads, and is not when there is none. -/
theorem isEnrolled_eq_ok_iff {loaded : Except StorageError TemplateRecord} {enrolled : Bool} :
    AuthenticatedTemplateStateReader.isEnrolled loaded = .ok enrolled ↔
      (enrolled = true ∧ ∃ record, loaded = .ok record) ∨
        (enrolled = false ∧ ∃ error, error.kind = .notFound ∧ loaded = .error (.io error)) := by
  cases loaded with
  | ok record =>
      constructor
      · rintro ⟨⟩
        exact .inl ⟨rfl, record, rfl⟩
      · rintro (⟨rfl, _⟩ | ⟨_, error, _, same⟩)
        · rfl
        · cases same
  | error error =>
      constructor
      · intro told
        unfold AuthenticatedTemplateStateReader.isEnrolled at told
        split at told
        · next same => cases same
        · next error absent =>
            split at told <;> cases told
            next missing =>
              cases absent
              exact .inr ⟨rfl, _, missing, rfl⟩
        · cases told
      · rintro (⟨_, record, same⟩ | ⟨rfl, error, missing, ⟨⟩⟩)
        · cases same
        · exact if_pos missing

section Runs

variable {loaded : Nat → UInt32 → Except StorageError TemplateRecord}
  {start state : Threads BoundedEnrollmentStateSource StateCall} {queueCapacity : Nat}
  {spawned : Except String Unit}

/-- The source is coherent and the calls in step with it wherever it gets. -/
theorem follows_of_reaches (made : new queueCapacity spawned = .ok start.shared)
    (ready : ∀ index, (start.thread index).phase = .ready)
    (reached : (program authority reader).Reaches (fun _ _ => True) start state) :
    state.shared.Coherent ∧
      ∀ index, Follows authority reader index state.shared (state.thread index) := by
  obtain ⟨-, -, empty, waiting, free, -⟩ := new_eq_ok made
  refine stable.reaches (coherent_new made) (fun other => ?_) reached
  have idle : ¬ start.shared.Outstanding other := by
    simp [Outstanding, empty, waiting, TemplateStateWorker.serves]
  unfold Follows
  rw [ready other]
  exact ⟨by simp [free, StateCallPhase.inFlight], idle⟩

/-- An account is named as enrolled or not as the storage had it in the time of the call. -/
theorem Explained.answer {began : Nat} {header : Option String} {targetUid : UInt32}
    {enrolled : Bool}
    (explained : Explained authority (managementTemplateStateReader loaded) source header targetUid
      began (.ok enrolled)) :
    ∃ sender last moment, header = some sender ∧ Vouched authority sender targetUid began last ∧
      last ≤ moment ∧ moment ≤ source.now ∧
      ((enrolled = true ∧ ∃ record, loaded moment targetUid = .ok record) ∨
        (enrolled = false ∧ ∃ error, error.kind = .notFound ∧
          loaded moment targetUid = .error (.io error))) := by
  generalize returned : Except.ok enrolled = result at explained
  cases explained with
  | @answered sender last moment named vouched later past =>
      have read := mapError_eq_ok_iff.mp returned.symm
      exact ⟨sender, last, moment, named, vouched, later, past, isEnrolled_eq_ok_iff.mp read⟩
  | unnamed | unidentified | foreign | refused | stopped => cases returned

/-- Whatever the order of the turns, a call that has returned has a reason from the time in which
it was under way. It names the account as enrolled or not only to a sender whose account it is,
as the storage had it after the bus attested that account. -/
theorem enrollmentState_explained (made : new queueCapacity spawned = .ok start.shared)
    (ready : ∀ index, (start.thread index).phase = .ready)
    (reached : (program authority (managementTemplateStateReader loaded)).Reaches
      (fun _ _ => True) start state)
    {index began : Nat} {result : Except FdoError Bool}
    (returned : (state.thread index).phase = .returned began result) :
    ∃ earlier, (program authority (managementTemplateStateReader loaded)).Reaches
        (fun _ _ => True) start earlier ∧
      (program authority (managementTemplateStateReader loaded)).Reaches
        (fun _ _ => True) earlier state ∧
      Explained authority (managementTemplateStateReader loaded) earlier.shared
        (state.thread index).header (state.thread index).targetUid began result ∧
      ∀ enrolled, result = .ok enrolled → ∃ sender last moment,
        (state.thread index).header = some sender ∧
        Vouched authority sender (state.thread index).targetUid began last ∧
        last ≤ moment ∧ moment ≤ earlier.shared.now ∧
        ((enrolled = true ∧ ∃ record, loaded moment (state.thread index).targetUid = .ok record) ∨
          (enrolled = false ∧ ∃ error, error.kind = .notFound ∧
            loaded moment (state.thread index).targetUid = .error (.io error))) := by
  have before : start.thread index ≠ state.thread index := by
    intro same
    rw [← same, ready index] at returned
    cases returned
  obtain ⟨earlier, choice, shared, after, first, advanced, -, same, later⟩ :=
    reached.entered (fun call => call = state.thread index) before rfl
  obtain ⟨coherent, follows⟩ := follows_of_reaches made ready first
  have taken := Program.step_thread_eq_some_iff.mpr ⟨shared, after, advanced, rfl⟩
  have explained : Explained authority (managementTemplateStateReader loaded) earlier.shared
      (state.thread index).header (state.thread index).targetUid began result := by
    rw [← same] at returned ⊢
    cases advance_cases advanced with
    | unnamed ready unnamed alive =>
        cases returned
        exact .unnamed unnamed
    | finished outcome =>
        cases returned
        exact outcome.explained coherent (follows index)
    | began | identified | confirmed | requested | cancelled => cases returned
  refine ⟨earlier, first, (Program.Reaches.next .start trivial taken).trans later, explained, ?_⟩
  rintro enrolled rfl
  exact explained.answer

end Runs

section Example

/-- Everybody asks for their own account, which has no template. -/
def exampleCalls : Threads BoundedEnrollmentStateSource StateCall :=
  ⟨⟨1, [], Nat.zero_le _, .receiving, fun _ => .dropped, [], .alive, 0⟩,
    fun _ => ⟨some ":1.7", 1000, .ready⟩⟩

/-- Every sender belongs to one account. -/
def exampleAuthority (_ : Nat) (_ : String) : Except BackendError UInt32 := .ok 1000

/-- No account has a template. -/
def exampleTemplates (_ : Nat) (_ : UInt32) : Except StorageError TemplateRecord :=
  .error (.io ⟨.notFound, "No such file or directory (os error 2)"⟩)

/-- The calls of the example on their source. -/
def exampleProgram :
    Program BoundedEnrollmentStateSource StateCall StateCallChoice StateSourceEvent :=
  program exampleAuthority (managementTemplateStateReader exampleTemplates)

/-- A call waits for its answer. -/
def exampleRequest : List (Turn StateCallChoice StateSourceEvent) :=
  List.replicate 4 (.thread 0 .proceed)

/-- An account without a template is told that it is not enrolled. -/
theorem enrollmentState_explained_test :
    ((exampleProgram.after exampleCalls (exampleRequest ++
        [.event .work, .event .work, .event .work, .thread 0 .proceed])).thread 0).phase =
      .returned 0 (.ok false) ∧
    ∃ source, Explained exampleAuthority (managementTemplateStateReader exampleTemplates) source
      (some ":1.7") 1000 0 (.ok false) := by
  have returned : ((exampleProgram.after exampleCalls (exampleRequest ++
      [.event .work, .event .work, .event .work, .thread 0 .proceed])).thread 0).phase =
        .returned 0 (.ok false) := by
    decide
  have obeys : exampleProgram.Obeys (fun _ _ => True) exampleCalls (exampleRequest ++
      [.event .work, .event .work, .event .work, .thread 0 .proceed]) := by
    decide
  obtain ⟨earlier, -, -, explained, -⟩ := @enrollmentState_explained exampleAuthority
    exampleTemplates exampleCalls _ 1 (.ok ()) rfl (fun _ => rfl) obeys.reaches 0 0 _ returned
  exact ⟨returned, earlier.shared, explained⟩

end Example

end StateCall

end FaceAuth
