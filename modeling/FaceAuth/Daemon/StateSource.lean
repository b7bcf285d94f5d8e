import FaceAuth.Daemon.Manager1

/-!
# Enrollment state behind one worker

Manager1 answers whether an account is enrolled. Its calls run on the D-Bus executor and hand
their lookups to one storage worker through a bounded queue; each waits on a channel of its own.
-/

namespace FaceAuth

open Foundation

/-- Maximum queued encrypted-template state lookups. -/
def MAX_TEMPLATE_STATE_QUEUE_CAPACITY : Nat := 64

/-- What an authenticated template source tells about an account. -/
def AuthenticatedTemplateStateReader.isEnrolled (loaded : Except StorageError TemplateRecord) :
    Except BackendError Bool :=
  match loaded with
  | .ok _ => .ok true
  | .error (.io error) =>
      if error.kind = .notFound then .ok false
      else .error ⟨"unable to authenticate encrypted template state"⟩
  | .error _ => .error ⟨"unable to authenticate encrypted template state"⟩

/-- The reader that the daemon gives to the worker: what it tells at each moment. -/
def managementTemplateStateReader (loaded : Nat → UInt32 → Except StorageError TemplateRecord)
    (moment : Nat) (targetUid : UInt32) : Except BackendError Bool :=
  AuthenticatedTemplateStateReader.isEnrolled (loaded moment targetUid)

/-- A lookup goes with the number of the call that waits for its response. -/
inductive TemplateStateRequest where
  | query (targetUid : UInt32) (response : Nat)
  | shutdown
deriving DecidableEq

/-- The call that waits for a request. -/
def TemplateStateRequest.asker : TemplateStateRequest → Option Nat
  | .query _ response => some response
  | .shutdown => none

/-- What the response channel of a call holds. -/
inductive StateResponse where
  | pending
  | sent (result : Except BackendError Bool)
  | dropped

/-- Where `template_state_worker` stands. A reader that panics takes the worker with it. -/
inductive TemplateStateWorker where
  | receiving
  | reading (targetUid : UInt32) (response : Nat)
  | responding (result : Except BackendError Bool) (response : Nat)
  | ended
  | panicked
deriving DecidableEq

/-- The worker still holds the receiver of the queue. -/
def TemplateStateWorker.isRunning : TemplateStateWorker → Bool
  | .receiving | .reading _ _ | .responding _ _ => true
  | .ended | .panicked => false

/-- The call whose request the worker holds. -/
def TemplateStateWorker.serves : TemplateStateWorker → Option Nat
  | .reading _ response | .responding _ response => some response
  | .receiving | .ended | .panicked => none

/-- Where the owner of the source stands: before `drop`, before its two steps, and after it. -/
inductive SourceOwner where
  | alive | closing | joining | gone
deriving DecidableEq

/-- The queue, its worker and the response channels, the calls that hold the source, and the
time. -/
structure BoundedEnrollmentStateSource where
  capacity : Nat
  requests : List TemplateStateRequest
  fits : requests.length ≤ capacity
  worker : TemplateStateWorker
  responses : Nat → StateResponse
  calls : List Nat
  owner : SourceOwner
  now : Nat

namespace BoundedEnrollmentStateSource

/-- Start the worker, if the system gives the thread. -/
def new (queueCapacity : Nat) (spawned : Except String Unit) :
    Except BackendError BoundedEnrollmentStateSource :=
  if queueCapacity = 0 ∨ MAX_TEMPLATE_STATE_QUEUE_CAPACITY < queueCapacity then
    .error ⟨"template state queue capacity is invalid"⟩
  else
    match spawned with
    | .error error => .error ⟨"unable to start template state worker: " ++ error⟩
    | .ok () =>
        .ok ⟨queueCapacity, [], Nat.zero_le _, .receiving, fun _ => .dropped, [], .alive, 0⟩

section Operations

variable (source : BoundedEnrollmentStateSource)

/-- The queue or the worker holds the request of a call. -/
def Outstanding (call : Nat) : Prop :=
  some call ∈ source.requests.map TemplateStateRequest.asker ∨ source.worker.serves = some call

instance (call : Nat) : Decidable (source.Outstanding call) :=
  inferInstanceAs (Decidable (_ ∨ _))

/-- The source with its worker elsewhere. -/
def withWorker (worker : TemplateStateWorker) : BoundedEnrollmentStateSource :=
  { source with worker }

/-- Put a response into the channel of a call. -/
def respond (call : Nat) (response : StateResponse) : BoundedEnrollmentStateSource :=
  { source with responses := Function.update source.responses call response }

/-- A call takes hold of the source. -/
def hold (call : Nat) : BoundedEnrollmentStateSource :=
  { source with calls := call :: source.calls }

/-- A call lets go of the source. -/
def release (call : Nat) : BoundedEnrollmentStateSource :=
  { source with calls := source.calls.filter (· ≠ call) }

/-- A send that does not block fails when the queue is full or nobody is left to receive. -/
def trySend (request : TemplateStateRequest) : Option BoundedEnrollmentStateSource :=
  if room : source.worker.isRunning = true ∧ source.requests.length < source.capacity then
    some { source with
      requests := source.requests ++ [request]
      fits := by
        rw [List.length_append]
        exact room.2 }
  else none

/-- The worker goes. The request that it holds and those in its queue go with it, and their
channels close. -/
def leave (worker : TemplateStateWorker) : BoundedEnrollmentStateSource :=
  { source with
    requests := []
    fits := Nat.zero_le _
    worker
    responses := fun call =>
      if source.Outstanding call then .dropped else source.responses call }

/-- The worker takes the first request. -/
def receive (worker : TemplateStateWorker) : BoundedEnrollmentStateSource :=
  { source with
    requests := source.requests.tail
    fits := by
      have fits := source.fits
      rw [List.length_tail]
      omega
    worker }

/-- One step of the worker, which reads the storage as it is at the moment. -/
def work (reader : Nat → UInt32 → Except BackendError Bool) : Option BoundedEnrollmentStateSource :=
  match source.worker with
  | .receiving =>
      match source.requests with
      | .query targetUid response :: _ => some (source.receive (.reading targetUid response))
      | .shutdown :: _ => some (source.leave .ended)
      | [] => if source.owner = .gone then some (source.leave .ended) else none
  | .reading targetUid response =>
      some (source.withWorker (.responding (reader source.now targetUid) response))
  | .responding result response =>
      some ((source.respond response (.sent result)).withWorker .receiving)
  | .ended | .panicked => none

/-- The reader panics. -/
def panic : Option BoundedEnrollmentStateSource :=
  match source.worker with
  | .reading _ _ => some (source.leave .panicked)
  | _ => none

/-- The last call and the service let go of the source. -/
def drop : Option BoundedEnrollmentStateSource :=
  if source.owner = .alive ∧ source.calls = [] then some { source with owner := .closing } else none

/-- `drop` waits for room in the queue, unless the worker is gone. -/
def sendShutdown : Option BoundedEnrollmentStateSource :=
  if source.owner = .closing then
    if source.worker.isRunning then
      (source.trySend .shutdown).map fun sent => { sent with owner := .joining }
    else some { source with owner := .joining }
  else none

/-- `drop` waits for the end of the worker. -/
def join : Option BoundedEnrollmentStateSource :=
  if source.owner = .joining ∧ source.worker.isRunning = false then
    some { source with owner := .gone }
  else none

end Operations

end BoundedEnrollmentStateSource

/-- Where a call of `get_enrollment_state` stands, with the moment at which it began. -/
inductive StateCallPhase where
  | ready
  | identifying (sender : String) (began : Nat)
  | confirming (sender : String) (began : Nat)
  | requesting (sender : String) (began : Nat)
  | awaiting (sender : String) (began : Nat)
  | returned (began : Nat) (result : Except FdoError Bool)
  | cancelled
deriving DecidableEq

/-- The call holds the source. -/
def StateCallPhase.inFlight : StateCallPhase → Bool
  | .ready | .returned _ _ | .cancelled => false
  | .identifying _ _ | .confirming _ _ | .requesting _ _ | .awaiting _ _ => true

/-- One call of `get_enrollment_state`: the sender in its header, and its argument. -/
structure StateCall where
  header : Option String
  targetUid : UInt32
  phase : StateCallPhase

/-- A call goes on, or the executor drops it. -/
inductive StateCallChoice where
  | proceed | cancel

/-- Events around the calls. -/
inductive StateSourceEvent where
  | work | panic | wait | drop | sendShutdown | join
deriving DecidableEq

namespace StateCall

/-- The backend asks for the account of the sender once more. -/
def enrollmentState (answer : Except BackendError UInt32) (targetUid : UInt32) :
    Except BackendError Unit := do
  let callerUid ← answer
  require (callerUid = targetUid) ⟨"caller is not the target account"⟩

section Advance

variable (authority : Nat → String → Except BackendError UInt32)

/-- A call returns and lets go of the source. -/
def finish (call : StateCall) (index began : Nat) (source : BoundedEnrollmentStateSource)
    (result : Except FdoError Bool) : BoundedEnrollmentStateSource × StateCall :=
  (source.release index, { call with phase := .returned began result })

/-- One section of a call: `get_enrollment_state` with `require_target`, `enrollment_state` and
`is_enrolled`. -/
def advance (index : Nat) (choice : StateCallChoice) (source : BoundedEnrollmentStateSource)
    (call : StateCall) : Option (BoundedEnrollmentStateSource × StateCall) :=
  match call.phase, choice with
  | .ready, .proceed =>
      if source.owner = .alive then
        match call.header with
        | some sender =>
            some (source.hold index, { call with phase := .identifying sender source.now })
        | none =>
            some (source, { call with
              phase := .returned source.now
                (.error (.accessDenied "message sender is unavailable")) })
      else none
  | .identifying sender began, .proceed =>
      match requireTarget (authority source.now sender) call.targetUid with
      | .ok () => some (source, { call with phase := .confirming sender began })
      | .error error => some (call.finish index began source (.error error))
  | .confirming sender began, .proceed =>
      match enrollmentState (authority source.now sender) call.targetUid with
      | .ok () => some (source, { call with phase := .requesting sender began })
      | .error error => some (call.finish index began source (.error (mapBackendError error)))
  | .requesting sender began, .proceed =>
      match source.trySend (.query call.targetUid index) with
      | some sent =>
          some (sent.respond index .pending, { call with phase := .awaiting sender began })
      | none =>
          some (call.finish index began source
            (.error (mapBackendError ⟨"template state worker queue is unavailable or full"⟩)))
  | .awaiting _ began, .proceed =>
      match source.responses index with
      | .pending => none
      | .sent result => some (call.finish index began source (result.mapError mapBackendError))
      | .dropped =>
          some (call.finish index began source
            (.error (mapBackendError ⟨"template state worker stopped"⟩)))
  | .identifying _ _, .cancel | .confirming _ _, .cancel | .requesting _ _, .cancel
  | .awaiting _ _, .cancel => some (source.release index, { call with phase := .cancelled })
  | _, _ => none

end Advance

end StateCall

namespace BoundedEnrollmentStateSource

/-- What happens apart from the calls. -/
def occur (reader : Nat → UInt32 → Except BackendError Bool) (event : StateSourceEvent)
    (source : BoundedEnrollmentStateSource) : Option BoundedEnrollmentStateSource :=
  match event with
  | .work => source.work reader
  | .panic => source.panic
  | .wait => some { source with now := source.now + 1 }
  | .drop => source.drop
  | .sendShutdown => source.sendShutdown
  | .join => source.join

/-- The calls, the worker and the owner take their turns in any order. -/
def program (authority : Nat → String → Except BackendError UInt32)
    (reader : Nat → UInt32 → Except BackendError Bool) :
    Program BoundedEnrollmentStateSource StateCall StateCallChoice StateSourceEvent :=
  ⟨StateCall.advance authority, occur reader⟩

/-! ## What a turn can do -/

/-- The request of a call is in the queue or with the reader. -/
def Asks (source : BoundedEnrollmentStateSource) (call : Nat) (targetUid : UInt32) : Prop :=
  .query targetUid call ∈ source.requests ∨ source.worker = .reading targetUid call

/-- The answer for a call is on its way or has come. -/
def Answers (source : BoundedEnrollmentStateSource) (call : Nat)
    (result : Except BackendError Bool) : Prop :=
  source.worker = .responding result call ∨ source.responses call = .sent result

/-- What an event does. -/
inductive Occurs (reader : Nat → UInt32 → Except BackendError Bool)
    (source : BoundedEnrollmentStateSource) :
    StateSourceEvent → BoundedEnrollmentStateSource → Prop where
  | took {targetUid : UInt32} {response : Nat} {rest : List TemplateStateRequest}
      (waiting : source.worker = .receiving)
      (first : source.requests = .query targetUid response :: rest) :
      Occurs reader source .work (source.receive (.reading targetUid response))
  | shut {rest : List TemplateStateRequest} (waiting : source.worker = .receiving)
      (first : source.requests = .shutdown :: rest) :
      Occurs reader source .work (source.leave .ended)
  | deserted (waiting : source.worker = .receiving) (empty : source.requests = [])
      (gone : source.owner = .gone) : Occurs reader source .work (source.leave .ended)
  | read {targetUid : UInt32} {response : Nat}
      (reading : source.worker = .reading targetUid response) :
      Occurs reader source .work
        (source.withWorker (.responding (reader source.now targetUid) response))
  | responded {result : Except BackendError Bool} {response : Nat}
      (responding : source.worker = .responding result response) :
      Occurs reader source .work ((source.respond response (.sent result)).withWorker .receiving)
  | panicked {targetUid : UInt32} {response : Nat}
      (reading : source.worker = .reading targetUid response) :
      Occurs reader source .panic (source.leave .panicked)
  | waited : Occurs reader source .wait { source with now := source.now + 1 }
  | dropped (alive : source.owner = .alive) (idle : source.calls = []) :
      Occurs reader source .drop { source with owner := .closing }
  | closed {sent : BoundedEnrollmentStateSource} (closing : source.owner = .closing)
      (sends : source.trySend .shutdown = some sent) :
      Occurs reader source .sendShutdown { sent with owner := .joining }
  | unsent (closing : source.owner = .closing) (halted : source.worker.isRunning = false) :
      Occurs reader source .sendShutdown { source with owner := .joining }
  | joined (joining : source.owner = .joining) (halted : source.worker.isRunning = false) :
      Occurs reader source .join { source with owner := .gone }

section Cases

variable {reader : Nat → UInt32 → Except BackendError Bool}
  {source after : BoundedEnrollmentStateSource}

/-- The first request is taken. -/
@[simp] theorem receive_requests (worker : TemplateStateWorker) :
    (source.receive worker).requests = source.requests.tail := rfl

/-- The response is in the channel. -/
@[simp] theorem respond_self (call : Nat) (response : StateResponse) :
    (source.respond call response).responses call = response :=
  Function.update_self ..

/-- The other channels stay. -/
theorem respond_of_ne {call other : Nat} (differs : other ≠ call) (response : StateResponse) :
    (source.respond call response).responses other = source.responses other :=
  Function.update_of_ne differs ..

/-- A request is queued when the worker runs and there is room. -/
theorem trySend_eq_some_iff {request : TemplateStateRequest} :
    source.trySend request = some after ↔
      source.worker.isRunning = true ∧ ∃ room : source.requests.length < source.capacity,
        after = { source with
          requests := source.requests ++ [request]
          fits := by
            rw [List.length_append]
            exact room } := by
  unfold trySend
  split
  · next room =>
      constructor
      · rintro ⟨⟩
        exact ⟨room.1, room.2, rfl⟩
      · rintro ⟨_, _, rfl⟩
        rfl
  · next full =>
      constructor
      · rintro ⟨⟩
      · rintro ⟨running, room, _⟩
        exact (full ⟨running, room⟩).elim

/-- A request is not queued when the worker is gone or the queue is full. -/
theorem trySend_eq_none_iff {request : TemplateStateRequest} :
    source.trySend request = none ↔
      source.worker.isRunning = false ∨ source.requests.length = source.capacity := by
  have fits := source.fits
  unfold trySend
  split
  · next room =>
      have short : source.requests.length ≠ source.capacity := by omega
      simp [room.1, short]
  · next full =>
      cases running : source.worker.isRunning with
      | false => simp
      | true =>
          have long : source.requests.length = source.capacity := by
            have : ¬ source.requests.length < source.capacity := fun room => full ⟨running, room⟩
            omega
          simp [long]

/-- What can happen apart from the calls. -/
theorem occur_cases {event : StateSourceEvent}
    (occurred : source.occur reader event = some after) :
    source.Occurs reader event after := by
  cases event with
  | work =>
      change source.work reader = some after at occurred
      unfold work at occurred
      split at occurred
      · next waiting =>
          split at occurred
          · next first =>
              cases occurred
              exact .took waiting first
          · next first =>
              cases occurred
              exact .shut waiting first
          · next empty =>
              split at occurred <;> cases occurred
              next gone => exact .deserted waiting empty gone
      · next reading =>
          cases occurred
          exact .read reading
      · next responding =>
          cases occurred
          exact .responded responding
      · cases occurred
      · cases occurred
  | panic =>
      change source.panic = some after at occurred
      unfold panic at occurred
      split at occurred <;> cases occurred
      next reading => exact .panicked reading
  | wait =>
      cases occurred
      exact .waited
  | drop =>
      change source.drop = some after at occurred
      unfold drop at occurred
      split at occurred <;> cases occurred
      next free => exact .dropped free.1 free.2
  | sendShutdown =>
      change source.sendShutdown = some after at occurred
      unfold sendShutdown at occurred
      split at occurred
      · next closing =>
          split at occurred
          · obtain ⟨sent, sends, rfl⟩ := Option.map_eq_some_iff.mp occurred
            exact .closed closing sends
          · next halted =>
              cases occurred
              exact .unsent closing (by simpa using halted)
      · cases occurred
  | join =>
      change source.join = some after at occurred
      unfold join at occurred
      split at occurred <;> cases occurred
      next free => exact .joined free.1 free.2

end Cases

end BoundedEnrollmentStateSource

namespace StateCall

/-- Why a call in flight returns at a moment. -/
inductive Outcome (authority : Nat → String → Except BackendError UInt32) (index : Nat)
    (source : BoundedEnrollmentStateSource) (call : StateCall) :
    Nat → Except FdoError Bool → Prop where
  | unidentified {sender : String} {began : Nat} {error : BackendError}
      (asking : call.phase = .identifying sender began ∨ call.phase = .confirming sender began)
      (asked : authority source.now sender = .error error) :
      Outcome authority index source call began (.error (mapBackendError error))
  | foreign {sender : String} {began : Nat} {callerUid : UInt32}
      (asking : call.phase = .identifying sender began ∨ call.phase = .confirming sender began)
      (asked : authority source.now sender = .ok callerUid) (differs : callerUid ≠ call.targetUid) :
      Outcome authority index source call began
        (.error (.accessDenied "caller is not the target account"))
  | refused {sender : String} {began : Nat} (requesting : call.phase = .requesting sender began)
      (full : source.worker.isRunning = false ∨ source.requests.length = source.capacity) :
      Outcome authority index source call began
        (.error (.accessDenied "template state worker queue is unavailable or full"))
  | answered {sender : String} {began : Nat} {result : Except BackendError Bool}
      (awaiting : call.phase = .awaiting sender began)
      (sent : source.responses index = .sent result) :
      Outcome authority index source call began (result.mapError mapBackendError)
  | stopped {sender : String} {began : Nat} (awaiting : call.phase = .awaiting sender began)
      (dropped : source.responses index = .dropped) :
      Outcome authority index source call began
        (.error (.accessDenied "template state worker stopped"))

/-- What a section of a call does. -/
inductive Advances (authority : Nat → String → Except BackendError UInt32) (index : Nat)
    (source : BoundedEnrollmentStateSource) (call : StateCall) :
    BoundedEnrollmentStateSource → StateCall → Prop where
  | began {sender : String} (ready : call.phase = .ready) (named : call.header = some sender)
      (alive : source.owner = .alive) :
      Advances authority index source call (source.hold index)
        { call with phase := .identifying sender source.now }
  | unnamed (ready : call.phase = .ready) (unnamed : call.header = none)
      (alive : source.owner = .alive) :
      Advances authority index source call source { call with
        phase := .returned source.now (.error (.accessDenied "message sender is unavailable")) }
  | identified {sender : String} {began : Nat}
      (identifying : call.phase = .identifying sender began)
      (own : authority source.now sender = .ok call.targetUid) :
      Advances authority index source call source { call with phase := .confirming sender began }
  | confirmed {sender : String} {began : Nat} (confirming : call.phase = .confirming sender began)
      (own : authority source.now sender = .ok call.targetUid) :
      Advances authority index source call source { call with phase := .requesting sender began }
  | requested {sender : String} {began : Nat} {sent : BoundedEnrollmentStateSource}
      (requesting : call.phase = .requesting sender began)
      (sends : source.trySend (.query call.targetUid index) = some sent) :
      Advances authority index source call (sent.respond index .pending)
        { call with phase := .awaiting sender began }
  | finished {began : Nat} {result : Except FdoError Bool}
      (outcome : Outcome authority index source call began result) :
      Advances authority index source call (source.release index)
        { call with phase := .returned began result }
  | cancelled (inFlight : call.phase.inFlight = true) :
      Advances authority index source call (source.release index)
        { call with phase := .cancelled }

variable {authority : Nat → String → Except BackendError UInt32} {index : Nat}
  {source after : BoundedEnrollmentStateSource} {call own : StateCall}

/-- A call that has an outcome was in flight. -/
theorem Outcome.inFlight {began : Nat} {result : Except FdoError Bool}
    (outcome : Outcome authority index source call began result) : call.phase.inFlight = true := by
  cases outcome with
  | unidentified asking asked => obtain asking | asking := asking <;> rw [asking] <;> rfl
  | foreign asking asked differs => obtain asking | asking := asking <;> rw [asking] <;> rfl
  | refused requesting full => rw [requesting]; rfl
  | answered awaiting sent => rw [awaiting]; rfl
  | stopped awaiting dropped => rw [awaiting]; rfl

/-- The authority agrees both times, or the call is refused. -/
theorem requireTarget_cases (answer : Except BackendError UInt32) (targetUid : UInt32) :
    (answer = .ok targetUid ∧ requireTarget answer targetUid = .ok () ∧
        enrollmentState answer targetUid = .ok ()) ∨
      (∃ error, answer = .error error ∧
        requireTarget answer targetUid = .error (mapBackendError error) ∧
        enrollmentState answer targetUid = .error error) ∨
      ∃ callerUid, answer = .ok callerUid ∧ callerUid ≠ targetUid ∧
        requireTarget answer targetUid =
          .error (.accessDenied "caller is not the target account") ∧
        enrollmentState answer targetUid = .error ⟨"caller is not the target account"⟩ := by
  cases answer with
  | error error => exact .inr (.inl ⟨error, rfl, rfl, rfl⟩)
  | ok callerUid =>
      by_cases same : callerUid = targetUid
      · subst same
        exact .inl ⟨rfl, if_pos rfl, require_eq_ok_iff.mpr rfl⟩
      · exact .inr (.inr ⟨callerUid, rfl, same, if_neg same, require_of_not same _⟩)

/-- What one section of a call can do. -/
theorem advance_cases {choice : StateCallChoice}
    (advanced : advance authority index choice source call = some (after, own)) :
    Advances authority index source call after own := by
  unfold advance at advanced
  split at advanced
  · next ready =>
      split at advanced
      · next alive =>
          split at advanced <;> cases advanced
          · next named => exact .began ready named alive
          · next unnamed => exact .unnamed ready unnamed alive
      · cases advanced
  · next sender began identifying =>
      obtain ⟨own, first, -⟩ | ⟨error, asked, first, -⟩ | ⟨callerUid, asked, differs, first, -⟩ :=
        requireTarget_cases (authority source.now sender) call.targetUid <;>
        rw [first] at advanced <;> cases advanced
      · exact .identified identifying own
      · exact .finished (.unidentified (.inl identifying) asked)
      · exact .finished (.foreign (.inl identifying) asked differs)
  · next sender began confirming =>
      obtain ⟨own, -, second⟩ | ⟨error, asked, -, second⟩ |
          ⟨callerUid, asked, differs, -, second⟩ :=
        requireTarget_cases (authority source.now sender) call.targetUid <;>
        rw [second] at advanced <;> cases advanced
      · exact .confirmed confirming own
      · exact .finished (.unidentified (.inr confirming) asked)
      · exact .finished (.foreign (.inr confirming) asked differs)
  · next requesting =>
      split at advanced
      · next sends =>
          cases advanced
          exact .requested requesting sends
      · next full =>
          cases advanced
          exact .finished (.refused requesting
            (BoundedEnrollmentStateSource.trySend_eq_none_iff.mp full))
  · next awaiting =>
      split at advanced
      · cases advanced
      · next sent =>
          cases advanced
          exact .finished (.answered awaiting sent)
      · next dropped =>
          cases advanced
          exact .finished (.stopped awaiting dropped)
  · next phase =>
      cases advanced
      exact .cancelled (by rw [phase]; rfl)
  · next phase =>
      cases advanced
      exact .cancelled (by rw [phase]; rfl)
  · next phase =>
      cases advanced
      exact .cancelled (by rw [phase]; rfl)
  · next phase =>
      cases advanced
      exact .cancelled (by rw [phase]; rfl)
  · cases advanced

end StateCall

end FaceAuth
