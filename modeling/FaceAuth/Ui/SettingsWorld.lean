import FaceAuth.Ui.SettingsModule

/-!
# The settings module among its service and its user

The replies to the page's calls, the broadcast signals, the name of the service
and the operations that the service starts for the page's calls, in any order;
and what the page then holds as long as nothing happens in the gap between a
call and the identifier that its reply brings.
-/

namespace FaceAuth

open Foundation

/-- What can happen around the page: its user, the replies to its calls, the name of the
service, the broadcast signals, and the operations that the service starts for its calls. -/
inductive KcmEvent where
  | refresh
  | beginEnrollment
  | cancelEnrollment
  | retry
  | versionReply (generation : Nat) (reply : Except BusError Nat)
  | enrollmentStateReply (generation : Nat) (reply : Except BusError Bool)
  | beginReply (generation : Nat) (reply : Except BusError String)
  | cancelReply (generation : Nat) (reply : Except BusError Unit)
  | serviceRegistered
  | serviceUnregistered
  | progressSignal (operationId progress : String)
  | completedSignal (operationId result : String)
  | operationStarts (generation : Nat) (operationId : String)
  | operationEnds (generation : Nat)

/-- The identifier that a broadcast signal carries. -/
def KcmEvent.signalId? : KcmEvent → Option String
  | .progressSignal operationId _ => some operationId
  | .completedSignal operationId _ => some operationId
  | _ => none

/-- The page, the calls to `BeginEnrollment` that were answered, and the operations that were
started and ended for such calls, by the generation of the call. -/
structure KcmWorld where
  kcm : FaceAuthKcm
  answered : List Nat
  started : List (Nat × String)
  ended : List Nat

namespace KcmWorld

/-- The event can happen: replies follow their calls, with the identifier of the operation
that was started, identifiers are not used twice, and the completion of an operation is
broadcast when it is over. -/
def possible (world : KcmWorld) : KcmEvent → Bool
  | .versionReply generation _ => world.kcm.calls.contains (.getVersion generation)
  | .enrollmentStateReply generation _ =>
      world.kcm.calls.contains (.getEnrollmentState generation)
  | .beginReply generation reply =>
      world.kcm.calls.contains (.beginEnrollment generation) &&
        !world.answered.contains generation &&
        match reply with
        | .ok operationId => world.started.contains (generation, operationId)
        | .error _ => true
  | .cancelReply generation _ => world.kcm.calls.any fun call =>
      match call with
      | .cancelEnrollment _ (some sent) => sent == generation
      | _ => false
  | .completedSignal operationId _ => world.started.all fun operation =>
      operation.2 != operationId || world.ended.contains operation.1
  | .operationStarts generation operationId =>
      world.kcm.calls.contains (.beginEnrollment generation) &&
        isCanonicalOperationId operationId &&
        world.started.all fun operation =>
          operation.1 != generation && operation.2 != operationId
  | .operationEnds generation => world.started.any fun operation => operation.1 == generation
  | _ => true

/-- The world after an event that happens. -/
def after (world : KcmWorld) : KcmEvent → KcmWorld
  | .refresh => { world with kcm := world.kcm.refresh }
  | .beginEnrollment => { world with kcm := world.kcm.beginEnrollment }
  | .cancelEnrollment => { world with kcm := world.kcm.cancelEnrollment }
  | .retry => { world with kcm := world.kcm.retry }
  | .versionReply generation reply =>
      { world with kcm := world.kcm.versionReply generation reply }
  | .enrollmentStateReply generation reply =>
      { world with kcm := world.kcm.enrollmentStateReply generation reply }
  | .beginReply generation reply =>
      { world with
        kcm := world.kcm.beginReply generation reply
        answered := generation :: world.answered }
  | .cancelReply generation reply =>
      { world with kcm := world.kcm.cancelReply generation reply }
  | .serviceRegistered => { world with kcm := world.kcm.handleServiceRegistered }
  | .serviceUnregistered => { world with kcm := world.kcm.handleServiceUnregistered }
  | .progressSignal operationId progress =>
      { world with kcm := world.kcm.handleEnrollmentProgress operationId progress }
  | .completedSignal operationId result =>
      { world with kcm := world.kcm.handleEnrollmentCompleted operationId result }
  | .operationStarts generation operationId =>
      { world with started := (generation, operationId) :: world.started }
  | .operationEnds generation => { world with ended := generation :: world.ended }

/-- One event; what cannot happen changes nothing. -/
def step (world : KcmWorld) (event : KcmEvent) : Unit × KcmWorld :=
  ((), if world.possible event then world.after event else world)

/-- The page has been opened, and the service has seen no call. -/
def initial : KcmWorld := ⟨.opened, [], [], []⟩

/-- An operation that was started for this call of the page is running. -/
def Running (world : KcmWorld) (generation : Nat) (operationId : String) : Prop :=
  (generation, operationId) ∈ world.started ∧ generation ∉ world.ended

/-- The page holds the identifier of every operation that runs for it, or will still take
the reply that brings it. -/
def Held (world : KcmWorld) : Prop :=
  ∀ generation operationId, world.Running generation operationId →
    world.kcm.operationId = operationId ∨
      (generation ∉ world.answered ∧ world.kcm.generation = generation)

/-- A signal that changes what the page shows carries the identifier of the operation that
was started for the page's own current call. -/
def Isolated (entry : Entry KcmWorld KcmEvent Unit) : Prop :=
  ∀ operationId, entry.action.signalId? = some operationId →
    entry.after.kcm.shown ≠ entry.before.kcm.shown →
      (entry.before.kcm.generation, operationId) ∈ entry.before.started

/-- The event does not reach the gap between a call and its reply: while the identifier is
unknown, no signal of another operation arrives; an operation is not running for the page
when its call is answered by an error or when the service's name is reported lost; and an
operation is only started while the page waits for the reply. -/
def Meets (world : KcmWorld) : KcmEvent → Prop
  | .progressSignal operationId _ | .completedSignal operationId _ =>
      world.kcm.pageState = .authorizing → world.kcm.operationId = "" →
        isCanonicalOperationId operationId = true →
          (world.kcm.generation, operationId) ∈ world.started
  | .beginReply generation (.error _) => ∀ operationId, ¬ world.Running generation operationId
  | .serviceUnregistered => ∀ generation operationId, ¬ world.Running generation operationId
  | .operationStarts generation _ =>
      generation ∉ world.answered ∧ world.kcm.generation = generation
  | _ => True

section Sound

/-- The page waits for the reply to its current call. -/
def Awaits (world : KcmWorld) : Prop :=
  .beginEnrollment world.kcm.generation ∈ world.kcm.calls ∧
    world.kcm.generation ∉ world.answered

/-- What holds as long as no event reaches the gap. -/
structure Sound (world : KcmWorld) : Prop where
  held : world.Held
  own : world.kcm.operationId ≠ "" →
    (world.kcm.generation, world.kcm.operationId) ∈ world.started
  engaged : world.kcm.operationId ≠ "" ∨ world.Awaits → world.kcm.busy = true
  resumes : world.kcm.stateBeforeCancel.busy = true
  bounded : ∀ generation, .beginEnrollment generation ∈ world.kcm.calls ∨
    .getVersion generation ∈ world.kcm.calls ∨
    .getEnrollmentState generation ∈ world.kcm.calls → generation ≤ world.kcm.generation
  apart : ∀ generation, .beginEnrollment generation ∈ world.kcm.calls →
    .getVersion generation ∉ world.kcm.calls ∧ .getEnrollmentState generation ∉ world.kcm.calls
  called : ∀ operation ∈ world.started, .beginEnrollment operation.1 ∈ world.kcm.calls
  canonical : ∀ operation ∈ world.started, isCanonicalOperationId operation.2 = true
  unique : ∀ first ∈ world.started, ∀ second ∈ world.started,
    first.1 = second.1 ∨ first.2 = second.2 → first = second
  replied : ∀ generation ∈ world.answered, .beginEnrollment generation ∈ world.kcm.calls
  finished : ∀ generation ∈ world.ended, ∃ operation ∈ world.started, operation.1 = generation

variable {world : KcmWorld} {next : FaceAuthKcm}

theorem canonical_ne_empty {operationId : String}
    (canonical : isCanonicalOperationId operationId = true) : operationId ≠ "" := by
  rintro rfl
  revert canonical
  decide

/-- While the page is not busy, nothing runs for it and it holds no identifier. -/
theorem Sound.idle (sound : world.Sound) (free : world.kcm.busy = false) :
    world.kcm.operationId = "" ∧ ¬ world.Awaits ∧
      ∀ generation operationId, ¬ world.Running generation operationId := by
  have engaged : ¬ (world.kcm.operationId ≠ "" ∨ world.Awaits) := fun taken => by
    rw [sound.engaged taken] at free
    cases free
  rw [not_or, Decidable.not_not] at engaged
  refine ⟨engaged.1, engaged.2, fun generation operationId running => ?_⟩
  rcases sound.held generation operationId running with same | ⟨waits, current⟩
  · rw [engaged.1] at same
    exact canonical_ne_empty (sound.canonical (generation, operationId) running.1) same.symm
  · subst current
    exact engaged.2 ⟨sound.called _ running.1, waits⟩

/-- Where only cancellations are new, the requests with an answer are the same. -/
theorem requests_iff {kcm next : FaceAuthKcm}
    (calls : ∀ call, (∀ operationId sent, call ≠ .cancelEnrollment operationId sent) →
      (call ∈ next.calls ↔ call ∈ kcm.calls)) :
    (∀ sent, .beginEnrollment sent ∈ next.calls ↔ .beginEnrollment sent ∈ kcm.calls) ∧
      (∀ sent, .getVersion sent ∈ next.calls ↔ .getVersion sent ∈ kcm.calls) ∧
      ∀ sent, .getEnrollmentState sent ∈ next.calls ↔ .getEnrollmentState sent ∈ kcm.calls :=
  ⟨fun _ => calls _ nofun, fun _ => calls _ nofun, fun _ => calls _ nofun⟩

/-- A change that neither makes a call that is waited for, nor touches the identifier and the
generation, and keeps the page busy where it is engaged. -/
theorem Sound.frame (sound : world.Sound) (generation : next.generation = world.kcm.generation)
    (operationId : next.operationId = world.kcm.operationId)
    (calls : ∀ call, (∀ operationId sent, call ≠ .cancelEnrollment operationId sent) →
      (call ∈ next.calls ↔ call ∈ world.kcm.calls))
    (resumes : next.stateBeforeCancel.busy = true)
    (busy : world.kcm.operationId ≠ "" ∨ world.Awaits → next.busy = true) :
    Sound { world with kcm := next } := by
  obtain ⟨begins, versions, states⟩ := requests_iff calls
  exact {
    held := fun sent id running => by
      rw [operationId, generation]
      exact sound.held sent id running
    own := by
      rw [operationId, generation]
      exact sound.own
    engaged := by
      intro taken
      apply busy
      refine taken.imp (fun known => operationId ▸ known) fun waits => ?_
      obtain ⟨sent, waiting⟩ := waits
      rw [generation, begins] at sent
      rw [generation] at waiting
      exact ⟨sent, waiting⟩
    resumes := resumes
    bounded := fun sent => by
      rw [begins, versions, states, generation]
      exact sound.bounded sent
    apart := fun sent => by
      rw [begins, versions, states]
      exact sound.apart sent
    called := fun operation member => (begins _).mpr (sound.called operation member)
    canonical := sound.canonical
    unique := sound.unique
    finished := sound.finished
    replied := fun sent member => (begins _).mpr (sound.replied sent member) }

theorem finishRefreshReply_frame (kcm : FaceAuthKcm) (versionReply succeeded : Bool)
    (errorCode : String) :
    (kcm.finishRefreshReply versionReply succeeded errorCode).generation = kcm.generation ∧
      (kcm.finishRefreshReply versionReply succeeded errorCode).operationId = kcm.operationId ∧
      (kcm.finishRefreshReply versionReply succeeded errorCode).calls = kcm.calls ∧
      (kcm.finishRefreshReply versionReply succeeded errorCode).stateBeforeCancel =
        kcm.stateBeforeCancel := by
  unfold FaceAuthKcm.finishRefreshReply FaceAuthKcm.concludeRefresh
  cases versionReply <;> simp only [Bool.false_eq_true, if_true, if_false] <;> split_ifs <;> simp

/-- A reply to a refresh finds the page without an operation. -/
theorem Sound.refreshReply (sound : world.Sound)
    (refreshes : .getVersion world.kcm.generation ∈ world.kcm.calls ∨
      .getEnrollmentState world.kcm.generation ∈ world.kcm.calls)
    (generation : next.generation = world.kcm.generation)
    (operationId : next.operationId = world.kcm.operationId)
    (calls : next.calls = world.kcm.calls)
    (resumes : next.stateBeforeCancel = world.kcm.stateBeforeCancel) :
    Sound { world with kcm := next } := by
  have unsent : .beginEnrollment world.kcm.generation ∉ world.kcm.calls := fun sent =>
    refreshes.elim (sound.apart _ sent).1 (sound.apart _ sent).2
  refine sound.frame generation operationId (fun call _ => by rw [calls])
    (by rw [resumes]; exact sound.resumes) fun taken => ?_
  rcases taken with known | waits
  · exact (unsent (sound.called _ (sound.own known))).elim
  · exact (unsent waits.1).elim

theorem Sound.refresh (sound : world.Sound) :
    Sound { world with kcm := world.kcm.refresh } := by
  unfold FaceAuthKcm.refresh
  split
  · exact sound
  · rename_i free
    obtain ⟨unknown, -, quiet⟩ := sound.idle (Bool.eq_false_iff.mpr free)
    have fresh : .beginEnrollment (world.kcm.generation + 1) ∉ world.kcm.calls := fun sent =>
      absurd (sound.bounded _ (.inl sent)) (by omega)
    exact {
      held := fun generation operationId running => (quiet generation operationId running).elim
      own := fun known => (known unknown).elim
      engaged := by
        rintro (known | waits)
        · exact (known unknown).elim
        · simpa [fresh] using waits.1
      resumes := sound.resumes
      bounded := fun generation => by
        have bound := sound.bounded generation
        simp only [List.mem_append, List.mem_cons, List.not_mem_nil, or_false, reduceCtorEq,
          KcmCall.getVersion.injEq, KcmCall.getEnrollmentState.injEq, false_or]
        rintro (sent | (sent | same) | (sent | same))
        · exact Nat.le_succ_of_le (bound (.inl sent))
        · exact Nat.le_succ_of_le (bound (.inr (.inl sent)))
        · exact Nat.le_of_eq same
        · exact Nat.le_succ_of_le (bound (.inr (.inr sent)))
        · exact Nat.le_of_eq same
      apart := fun generation sent => by
        have other := sound.apart generation
        have bound := sound.bounded generation
        simp only [List.mem_append, List.mem_cons, List.not_mem_nil, or_false, reduceCtorEq,
          KcmCall.getVersion.injEq, KcmCall.getEnrollmentState.injEq, false_or] at sent ⊢
        have early := bound (.inl sent)
        exact ⟨fun wrong => wrong.elim (other sent).1 (by omega),
          fun wrong => wrong.elim (other sent).2 (by omega)⟩
      called := fun operation member => List.mem_append_left _ (sound.called operation member)
      canonical := sound.canonical
      unique := sound.unique
      finished := sound.finished
      replied := fun generation member => List.mem_append_left _ (sound.replied generation member) }

theorem Sound.beginEnrollment (sound : world.Sound) :
    Sound { world with kcm := world.kcm.beginEnrollment } := by
  unfold FaceAuthKcm.beginEnrollment
  split
  · exact sound
  · rename_i allowed
    rw [not_or] at allowed
    obtain ⟨unknown, -, quiet⟩ := sound.idle (Bool.eq_false_iff.mpr allowed.1)
    exact {
      held := fun generation operationId running => (quiet generation operationId running).elim
      own := fun known => (known rfl).elim
      engaged := fun _ => rfl
      resumes := sound.resumes
      bounded := fun generation => by
        have bound := sound.bounded generation
        simp only [List.mem_append, List.mem_singleton, reduceCtorEq, or_false,
          KcmCall.beginEnrollment.injEq]
        rintro ((sent | same) | sent | sent)
        · exact Nat.le_succ_of_le (bound (.inl sent))
        · exact Nat.le_of_eq same
        · exact Nat.le_succ_of_le (bound (.inr (.inl sent)))
        · exact Nat.le_succ_of_le (bound (.inr (.inr sent)))
      apart := fun generation sent => by
        have other := sound.apart generation
        have bound := sound.bounded generation
        simp only [List.mem_append, List.mem_singleton, reduceCtorEq, or_false,
          KcmCall.beginEnrollment.injEq] at sent ⊢
        rcases sent with early | now
        · exact other early
        · exact ⟨fun wrong => absurd (bound (.inr (.inl wrong))) (by omega),
            fun wrong => absurd (bound (.inr (.inr wrong))) (by omega)⟩
      called := fun operation member => List.mem_append_left _ (sound.called operation member)
      canonical := sound.canonical
      unique := sound.unique
      finished := sound.finished
      replied := fun generation member => List.mem_append_left _ (sound.replied generation member) }

theorem Sound.cancelEnrollment (sound : world.Sound) :
    Sound { world with kcm := world.kcm.cancelEnrollment } := by
  unfold FaceAuthKcm.cancelEnrollment
  split
  · exact sound
  · rename_i allowed
    have state : world.kcm.pageState.busy = true := by
      simp only [FaceAuthKcm.canCancel, Bool.not_eq_false, Bool.and_eq_true, Bool.or_eq_true,
        beq_iff_eq] at allowed
      rcases allowed.2 with same | same <;> rw [same] <;> rfl
    refine sound.frame rfl rfl (fun call other => ?_) state fun _ => rfl
    have apart := other world.kcm.operationId (some world.kcm.generation)
    simp [apart]

theorem Sound.retry (sound : world.Sound) : Sound { world with kcm := world.kcm.retry } := by
  have spent : Sound { world with kcm := { world.kcm with retryAction := .none } } :=
    sound.frame rfl rfl (fun _ _ => Iff.rfl) sound.resumes sound.engaged
  unfold FaceAuthKcm.retry
  cases world.kcm.retryAction with
  | none => exact spent
  | refresh => exact spent.refresh
  | beginEnrollment => exact spent.beginEnrollment
  | cancelEnrollment => exact spent.cancelEnrollment

theorem Sound.versionReply (sound : world.Sound) {generation : Nat}
    (sent : .getVersion generation ∈ world.kcm.calls) (reply : Except BusError Nat) :
    Sound { world with kcm := world.kcm.versionReply generation reply } := by
  unfold FaceAuthKcm.versionReply
  split
  · exact sound
  · rename_i current
    rw [Decidable.not_not] at current
    subst current
    cases reply with
    | error error =>
        obtain ⟨same, id, calls, resumes⟩ := finishRefreshReply_frame
          { world.kcm with schemaVersion := 0 } true false (errorCodeFor error "request-failed")
        exact sound.refreshReply (.inl sent) same id calls resumes
    | ok version =>
        obtain ⟨same, id, calls, resumes⟩ := finishRefreshReply_frame
          { world.kcm with schemaVersion := version } true true
          (if version ≠ supportedSchemaVersion then "protocol-mismatch" else "")
        exact sound.refreshReply (.inl sent) same id calls resumes

theorem Sound.enrollmentStateReply (sound : world.Sound) {generation : Nat}
    (sent : .getEnrollmentState generation ∈ world.kcm.calls) (reply : Except BusError Bool) :
    Sound { world with kcm := world.kcm.enrollmentStateReply generation reply } := by
  unfold FaceAuthKcm.enrollmentStateReply
  split
  · exact sound
  · rename_i current
    rw [Decidable.not_not] at current
    subst current
    cases reply with
    | error error =>
        obtain ⟨same, id, calls, resumes⟩ := finishRefreshReply_frame world.kcm false false
          (errorCodeFor error "request-failed")
        exact sound.refreshReply (.inr sent) same id calls resumes
    | ok enrolled =>
        obtain ⟨same, id, calls, resumes⟩ := finishRefreshReply_frame
          { world.kcm with enrolled := enrolled } false true ""
        exact sound.refreshReply (.inr sent) same id calls resumes

theorem Sound.cancelReply (sound : world.Sound) (generation : Nat)
    (reply : Except BusError Unit) :
    Sound { world with kcm := world.kcm.cancelReply generation reply } := by
  unfold FaceAuthKcm.cancelReply
  split
  · exact sound
  · cases reply with
    | error error =>
        exact sound.frame rfl rfl (fun _ _ => Iff.rfl) sound.resumes fun _ => sound.resumes
    | ok done => exact sound

/-- A change after which the page holds no identifier and waits for nothing, while nothing runs
for it. -/
theorem Sound.release (sound : world.Sound) {answered : List Nat}
    (quiet : ∀ generation operationId, ¬ world.Running generation operationId)
    (later : world.kcm.generation ≤ next.generation)
    (unknown : next.operationId = "")
    (served : .beginEnrollment next.generation ∈ next.calls → next.generation ∈ answered)
    (calls : ∀ call, (∀ operationId sent, call ≠ .cancelEnrollment operationId sent) →
      (call ∈ next.calls ↔ call ∈ world.kcm.calls))
    (resumes : next.stateBeforeCancel.busy = true)
    (replied : ∀ generation ∈ answered, .beginEnrollment generation ∈ world.kcm.calls) :
    Sound { world with kcm := next, answered := answered } := by
  obtain ⟨begins, versions, states⟩ := requests_iff calls
  exact {
    held := fun generation operationId running => (quiet generation operationId running).elim
    own := fun known => (known unknown).elim
    engaged := fun taken => by
      rcases taken with known | ⟨sent, waiting⟩
      · exact (known unknown).elim
      · exact (waiting (served sent)).elim
    resumes := resumes
    bounded := fun sent => by
      rw [begins, versions, states]
      exact fun made => Nat.le_trans (sound.bounded sent made) later
    apart := fun sent => by
      rw [begins, versions, states]
      exact sound.apart sent
    called := fun operation member => (begins _).mpr (sound.called operation member)
    canonical := sound.canonical
    unique := sound.unique
    finished := sound.finished
    replied := fun sent member => (begins _).mpr (replied sent member) }

theorem bestEffortCancel_frame (kcm : FaceAuthKcm) :
    kcm.bestEffortCancel.generation = kcm.generation ∧
      kcm.bestEffortCancel.stateBeforeCancel = kcm.stateBeforeCancel ∧
      ∀ call, (∀ operationId sent, call ≠ .cancelEnrollment operationId sent) →
        (call ∈ kcm.bestEffortCancel.calls ↔ call ∈ kcm.calls) := by
  unfold FaceAuthKcm.bestEffortCancel
  split
  · exact ⟨rfl, rfl, fun _ _ => Iff.rfl⟩
  · refine ⟨rfl, rfl, fun call other => ?_⟩
    have apart := other kcm.operationId none
    simp [apart]

theorem Sound.serviceUnregistered (sound : world.Sound)
    (quiet : ∀ generation operationId, ¬ world.Running generation operationId) :
    Sound { world with kcm := world.kcm.handleServiceUnregistered } :=
  sound.release quiet (Nat.le_succ _) rfl
    (fun sent => absurd (sound.bounded _ (.inl sent)) (by
      simp [FaceAuthKcm.handleServiceUnregistered]))
    (fun _ _ => Iff.rfl) sound.resumes sound.replied

/-- The answer to a call of an earlier generation is dropped, and nothing runs for it. -/
theorem Sound.beginReply_stale (sound : world.Sound) {generation : Nat}
    (sent : .beginEnrollment generation ∈ world.kcm.calls)
    (stale : generation ≠ world.kcm.generation) :
    Sound { world with answered := generation :: world.answered } := {
  sound with
  held := fun started operationId running => by
    refine (sound.held started operationId running).imp_right fun ⟨waits, current⟩ => ?_
    exact ⟨fun member => (List.mem_cons.mp member).elim (fun same => stale (by omega)) waits,
      current⟩
  engaged := fun taken => sound.engaged (taken.imp_right fun ⟨made, waits⟩ =>
    ⟨made, fun member => waits (List.mem_cons_of_mem _ member)⟩)
  replied := fun answered member => by
    rcases List.mem_cons.mp member with rfl | earlier
    · exact sent
    · exact sound.replied answered earlier }

/-- Only the operation of the current call runs for the page. -/
theorem Sound.current (sound : world.Sound) {generation : Nat} {operationId : String}
    (running : world.Running generation operationId) : generation = world.kcm.generation := by
  rcases sound.held generation operationId running with same | ⟨-, current⟩
  · have known : world.kcm.operationId ≠ "" := by
      rw [same]
      exact canonical_ne_empty (sound.canonical (generation, operationId) running.1)
    exact congrArg Prod.fst (sound.unique _ running.1 _ (sound.own known) (.inr same.symm))
  · exact current.symm

/-- The page learns the identifier of the operation that was started for its current call. -/
theorem Sound.learn (sound : world.Sound) {operationId : String} {answered : List Nat}
    (started : (world.kcm.generation, operationId) ∈ world.started)
    (generation : next.generation = world.kcm.generation)
    (learnt : next.operationId = operationId) (calls : next.calls = world.kcm.calls)
    (resumes : next.stateBeforeCancel = world.kcm.stateBeforeCancel) (busy : next.busy = true)
    (replied : ∀ generation ∈ answered, .beginEnrollment generation ∈ world.kcm.calls) :
    Sound { world with kcm := next, answered := answered } where
  held sent id running := by
    have current := sound.current running
    have same := sound.unique _ running.1 _ started (.inl current)
    exact .inl (learnt.trans (congrArg Prod.snd same).symm)
  own _ := by
    rw [generation, learnt]
    exact started
  engaged _ := busy
  resumes := by
    rw [resumes]
    exact sound.resumes
  bounded sent := by
    rw [calls, generation]
    exact sound.bounded sent
  apart sent := by
    rw [calls]
    exact sound.apart sent
  called operation member := by
    rw [calls]
    exact sound.called operation member
  canonical := sound.canonical
  unique := sound.unique
  finished := sound.finished
  replied sent member := by
    rw [calls]
    exact replied sent member

/-- The reply brings the identifier of the operation that was started for the call. -/
theorem Sound.beginReply_ok (sound : world.Sound) {operationId : String}
    (started : (world.kcm.generation, operationId) ∈ world.started)
    (waits : world.kcm.generation ∉ world.answered) :
    Sound { world with
      kcm := world.kcm.beginReply world.kcm.generation (.ok operationId)
      answered := world.kcm.generation :: world.answered } := by
  have canonical := sound.canonical _ started
  have sent := sound.called _ started
  have agrees : ¬ (world.kcm.operationId ≠ "" ∧ world.kcm.operationId ≠ operationId) :=
    fun ⟨known, other⟩ =>
      other (congrArg Prod.snd (sound.unique _ (sound.own known) _ started (.inl rfl)))
  have replied : ∀ generation ∈ world.kcm.generation :: world.answered,
      .beginEnrollment generation ∈ world.kcm.calls := by
    intro generation member
    rcases List.mem_cons.mp member with rfl | earlier
    · exact sent
    · exact sound.replied generation earlier
  unfold FaceAuthKcm.beginReply
  simp only [ne_eq, not_true_eq_false, if_false, canonical, Bool.true_eq_false, agrees, or_self]
  split
  · exact sound.learn started rfl rfl rfl rfl rfl replied
  · exact sound.learn started rfl rfl rfl rfl (sound.engaged (.inr ⟨sent, waits⟩)) replied

/-- A call is only answered by an error when nothing runs for it. -/
theorem Sound.beginReply_error (sound : world.Sound) {error : BusError}
    (sent : .beginEnrollment world.kcm.generation ∈ world.kcm.calls)
    (quiet : ∀ operationId, ¬ world.Running world.kcm.generation operationId) :
    Sound { world with
      kcm := world.kcm.beginReply world.kcm.generation (.error error)
      answered := world.kcm.generation :: world.answered } := by
  obtain ⟨same, resumes, calls⟩ := bestEffortCancel_frame world.kcm
  have idle : ∀ generation operationId, ¬ world.Running generation operationId := by
    intro generation operationId running
    have current := sound.current running
    subst current
    exact quiet operationId running
  unfold FaceAuthKcm.beginReply FaceAuthKcm.abandon
  simp only [ne_eq, not_true_eq_false, if_false]
  refine sound.release idle (Nat.le_of_eq same.symm) rfl (fun _ => ?_) calls
    (by rw [resumes]; exact sound.resumes) fun generation member => ?_
  · rw [same]
    exact List.mem_cons_self
  · rcases List.mem_cons.mp member with rfl | earlier
    · exact sent
    · exact sound.replied generation earlier

/-! ## Signals -/

/-- A signal either is of no canonical identifier, or finds another identifier on the page, or
is taken as one of the page's own operation. -/
inductive Takes (kcm : FaceAuthKcm) (operationId : String) : Prop where
  | malformed (wrong : isCanonicalOperationId operationId = false)
  | foreign (canonical : isCanonicalOperationId operationId = true)
      (kept : kcm.adopt operationId = kcm) (other : operationId ≠ kcm.operationId)
  | own (canonical : isCanonicalOperationId operationId = true)
      (same : operationId = (kcm.adopt operationId).operationId)

theorem takes (kcm : FaceAuthKcm) (operationId : String) : Takes kcm operationId := by
  cases canonical : isCanonicalOperationId operationId with
  | false => exact .malformed canonical
  | true =>
      by_cases blank : kcm.operationId = "" ∧ kcm.pageState = .authorizing
      · exact .own canonical (by rw [FaceAuthKcm.adopt, if_pos blank])
      · have kept : kcm.adopt operationId = kcm := by rw [FaceAuthKcm.adopt, if_neg blank]
        by_cases same : operationId = kcm.operationId
        · exact .own canonical (by rw [kept, ← same])
        · exact .foreign canonical kept same

theorem adopt_frame (kcm : FaceAuthKcm) (operationId : String) :
    (kcm.adopt operationId).generation = kcm.generation ∧
      (kcm.adopt operationId).calls = kcm.calls ∧
      (kcm.adopt operationId).stateBeforeCancel = kcm.stateBeforeCancel ∧
      (kcm.adopt operationId).pageState = kcm.pageState ∧
      (kcm.adopt operationId).enrolled = kcm.enrolled := by
  unfold FaceAuthKcm.adopt
  split <;> exact ⟨rfl, rfl, rfl, rfl, rfl⟩

/-- A signal that is taken for the page's own is of the operation started for its call, as long
as the identifier is not taken from another one. -/
theorem Sound.own_started (sound : world.Sound) {operationId : String}
    (canonical : isCanonicalOperationId operationId = true)
    (same : operationId = (world.kcm.adopt operationId).operationId)
    (meets : world.kcm.pageState = .authorizing → world.kcm.operationId = "" →
      isCanonicalOperationId operationId = true →
        (world.kcm.generation, operationId) ∈ world.started) :
    (world.kcm.generation, operationId) ∈ world.started ∧
      (world.kcm.adopt operationId).busy = true := by
  by_cases blank : world.kcm.operationId = "" ∧ world.kcm.pageState = .authorizing
  · refine ⟨meets blank.2 blank.1 canonical, ?_⟩
    rw [FaceAuthKcm.busy, (adopt_frame world.kcm operationId).2.2.2.1, blank.2]
    rfl
  · rw [FaceAuthKcm.adopt, if_neg blank] at same ⊢
    have known : world.kcm.operationId ≠ "" := by
      rw [← same]
      exact canonical_ne_empty canonical
    have started := sound.own known
    rw [← same] at started
    exact ⟨started, sound.engaged (.inl known)⟩

theorem Sound.malformed (sound : world.Sound) :
    Sound { world with kcm := world.kcm.malformedSignal } := by
  unfold FaceAuthKcm.malformedSignal
  split
  · exact sound.frame rfl rfl (fun _ _ => Iff.rfl) sound.resumes sound.engaged
  · exact sound

theorem Sound.progressSignal (sound : world.Sound) {operationId progress : String}
    (meets : world.Meets (.progressSignal operationId progress)) :
    Sound { world with kcm := world.kcm.handleEnrollmentProgress operationId progress } := by
  obtain ⟨generation, calls, resumes, -⟩ := adopt_frame world.kcm operationId
  unfold FaceAuthKcm.handleEnrollmentProgress
  cases takes world.kcm operationId with
  | malformed wrong =>
      simp only [wrong, if_true]
      exact sound.malformed
  | foreign canonical kept other =>
      simp only [canonical, Bool.true_eq_false, if_false, kept, ne_eq, other, not_false_eq_true,
        if_true]
      exact sound
  | own canonical same =>
      obtain ⟨started, busy⟩ := sound.own_started canonical same meets
      simp only [canonical, Bool.true_eq_false, if_false, ← same, ne_eq, not_true_eq_false]
      split_ifs
      · exact sound.learn started generation rfl calls resumes busy sound.replied
      · exact sound.learn started generation same.symm calls resumes busy sound.replied
      · exact sound.learn started generation rfl calls resumes rfl sound.replied
      · exact sound.learn started generation rfl calls resumes rfl sound.replied

theorem Sound.completedSignal (sound : world.Sound) {operationId result : String}
    (told : ∀ operation ∈ world.started, operation.2 = operationId → operation.1 ∈ world.ended)
    (meets : world.Meets (.completedSignal operationId result)) :
    Sound { world with kcm := world.kcm.handleEnrollmentCompleted operationId result } := by
  obtain ⟨generation, calls, resumes, -⟩ := adopt_frame world.kcm operationId
  unfold FaceAuthKcm.handleEnrollmentCompleted
  cases takes world.kcm operationId with
  | malformed wrong =>
      simp only [wrong, if_true]
      exact sound.malformed
  | foreign canonical kept other =>
      simp only [canonical, Bool.true_eq_false, if_false, kept, ne_eq, other, not_false_eq_true,
        if_true]
      exact sound
  | own canonical same =>
      obtain ⟨started, -⟩ := sound.own_started canonical same meets
      simp only [canonical, Bool.true_eq_false, if_false, ← same, ne_eq, not_true_eq_false]
      have quiet : ∀ sent id, ¬ world.Running sent id := by
        intro sent id running
        have current := sound.current running
        subst current
        exact running.2 (told _ started rfl)
      refine sound.release quiet (by simp [generation]) rfl (fun sent => ?_)
        (fun call _ => by rw [calls]) (by rw [resumes]; exact sound.resumes) sound.replied
      rw [calls, generation] at sent
      exact absurd (sound.bounded _ (.inl sent)) (Nat.not_succ_le_self _)

/-! ## Operations -/

theorem Sound.operationStarts (sound : world.Sound) {generation : Nat} {operationId : String}
    (sent : .beginEnrollment generation ∈ world.kcm.calls)
    (canonical : isCanonicalOperationId operationId = true)
    (fresh : ∀ operation ∈ world.started,
      operation.1 ≠ generation ∧ operation.2 ≠ operationId)
    (meets : generation ∉ world.answered ∧ world.kcm.generation = generation) :
    Sound { world with started := (generation, operationId) :: world.started } := {
  sound with
  held := fun started id running => by
    rcases List.mem_cons.mp running.1 with same | earlier
    · cases same
      exact .inr meets
    · exact sound.held started id ⟨earlier, running.2⟩
  own := fun known => List.mem_cons_of_mem _ (sound.own known)
  called := fun operation member => by
    rcases List.mem_cons.mp member with rfl | earlier
    · exact sent
    · exact sound.called operation earlier
  canonical := fun operation member => by
    rcases List.mem_cons.mp member with rfl | earlier
    · exact canonical
    · exact sound.canonical operation earlier
  unique := fun first inFirst second inSecond same => by
    rcases List.mem_cons.mp inFirst with rfl | earlier <;>
      rcases List.mem_cons.mp inSecond with rfl | later
    · rfl
    · exact (same.elim (fun equal => (fresh second later).1 equal.symm)
        fun equal => (fresh second later).2 equal.symm).elim
    · exact (same.elim (fresh first earlier).1 (fresh first earlier).2).elim
    · exact sound.unique first earlier second later same
  finished := fun ended member => by
    obtain ⟨operation, started, same⟩ := sound.finished ended member
    exact ⟨operation, List.mem_cons_of_mem _ started, same⟩ }

theorem Sound.operationEnds (sound : world.Sound) {generation : Nat}
    (started : ∃ operation ∈ world.started, operation.1 = generation) :
    Sound { world with ended := generation :: world.ended } := {
  sound with
  finished := fun ended member => by
    rcases List.mem_cons.mp member with rfl | earlier
    · exact started
    · exact sound.finished ended earlier
  held := fun started operationId running =>
    sound.held started operationId
      ⟨running.1, fun member => running.2 (List.mem_cons_of_mem _ member)⟩ }

/-- An event that does not reach the gap keeps the page sound. -/
theorem Sound.after (sound : world.Sound) {event : KcmEvent}
    (possible : world.possible event = true) (meets : world.Meets event) :
    Sound (world.after event) := by
  cases event with
  | refresh => exact sound.refresh
  | beginEnrollment => exact sound.beginEnrollment
  | cancelEnrollment => exact sound.cancelEnrollment
  | retry => exact sound.retry
  | versionReply generation reply =>
      exact sound.versionReply (List.contains_iff_mem.mp possible) reply
  | enrollmentStateReply generation reply =>
      exact sound.enrollmentStateReply (List.contains_iff_mem.mp possible) reply
  | cancelReply generation reply => exact sound.cancelReply generation reply
  | serviceRegistered => exact sound.refresh
  | serviceUnregistered => exact sound.serviceUnregistered meets
  | progressSignal operationId progress => exact sound.progressSignal meets
  | completedSignal operationId result =>
      refine sound.completedSignal (fun operation member same => ?_) meets
      have told := List.all_eq_true.mp possible operation member
      simpa [same] using told
  | operationStarts generation operationId =>
      simp only [KcmWorld.possible, Bool.and_eq_true, List.contains_iff_mem, List.all_eq_true,
        bne_iff_ne] at possible
      exact sound.operationStarts possible.1.1 possible.1.2 possible.2 meets
  | operationEnds generation =>
      refine sound.operationEnds ?_
      simpa [KcmWorld.possible] using possible
  | beginReply generation reply =>
      simp only [KcmWorld.possible, Bool.and_eq_true, List.contains_iff_mem,
        Bool.not_eq_true'] at possible
      obtain ⟨⟨sent, unanswered⟩, brings⟩ := possible
      have waits : generation ∉ world.answered := by
        simpa using unanswered
      by_cases current : generation = world.kcm.generation
      · subst current
        cases reply with
        | ok operationId =>
            exact sound.beginReply_ok (List.contains_iff_mem.mp brings) waits
        | error error => exact sound.beginReply_error sent meets
      · have dropped : world.kcm.beginReply generation reply = world.kcm := by
          unfold FaceAuthKcm.beginReply
          rw [if_pos current]
        rw [KcmWorld.after, dropped]
        exact sound.beginReply_stale sent current

end Sound

end KcmWorld

end FaceAuth
