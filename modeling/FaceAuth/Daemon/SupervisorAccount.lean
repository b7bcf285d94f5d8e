import FaceAuth.Daemon.Supervision
import Mathlib.Data.List.Nodup
import Mathlib.Data.List.Perm.Subperm
import Mathlib.Data.List.Range

/-!
# The account of the supervisor

Every thread of a service runs, waits in the queue, has unwound or has been
processed, and the supervisor's own variables say which services were processed
in which order and what failed first. Every step keeps this account.
-/

namespace FaceAuth

open Foundation

namespace ServiceSupervisor

/-- A service is one of the earlier ones, or the last. -/
theorem getElem?_append_cases {services : List ServiceState} {service last : ServiceState}
    {index : Nat} (found : (services ++ [last])[index]? = some service) :
    services[index]? = some service ∨ index = services.length ∧ service = last := by
  by_cases inside : index < services.length
  · rw [List.getElem?_append_left inside] at found
    exact .inl found
  · rw [List.getElem?_append_right (Nat.le_of_not_lt inside),
      List.getElem?_singleton, Option.ite_none_right_eq_some] at found
    exact .inr ⟨by omega, (Option.some.inj found.2).symm⟩

section Ledger

/-- The completions that a history records. -/
def processed (history : List (Entry ServiceSupervisor SupervisorAction (Option Completion))) :
    List Completion :=
  history.filterMap Entry.output

/-- Every thread runs, has its event in the queue, has unwound, or has been processed and
joined, exactly one of these; and the supervisor's own account agrees. -/
structure Ledger (completions : List Completion) (supervisor : ServiceSupervisor) : Prop where
  distinct : (supervisor.services.map ServiceState.name).Nodup
  conserved : ∀ index, supervisor.senders.count index +
    (supervisor.queue.map ServiceEvent.index).count index + supervisor.unwound.count index +
    (completions.map Completion.index).count index =
      if index < supervisor.services.length then 1 else 0
  tracked : ∀ (index : Nat) service, supervisor.services[index]? = some service →
    (service.stopped = true ↔ index ∈ completions.map Completion.index) ∧
      service.handle = if service.stopped then none else some ⟨index⟩
  named : ∀ completion ∈ completions,
    (supervisor.services[completion.index]?).map ServiceState.name = some completion.service
  ordered : supervisor.completionOrder = completions.map Completion.service
  counted : supervisor.servicesStopped = completions.length

variable {completions : List Completion} {supervisor next : ServiceSupervisor}

/-- The ledger does not depend on the flag, the clock, the pending failure or the phase. -/
theorem Ledger.frame (ledger : Ledger completions supervisor)
    (services : next.services = supervisor.services) (senders : next.senders = supervisor.senders)
    (queue : next.queue = supervisor.queue) (unwound : next.unwound = supervisor.unwound)
    (order : next.completionOrder = supervisor.completionOrder)
    (stopped : next.servicesStopped = supervisor.servicesStopped) : Ledger completions next where
  distinct := by rw [services]; exact ledger.distinct
  conserved := by rw [services, senders, queue, unwound]; exact ledger.conserved
  tracked := by rw [services]; exact ledger.tracked
  named := by rw [services]; exact ledger.named
  ordered := order.trans ledger.ordered
  counted := stopped.trans ledger.counted

/-- No service completes twice. -/
theorem Ledger.nodup_index (ledger : Ledger completions supervisor) :
    (completions.map Completion.index).Nodup := by
  rw [List.nodup_iff_count_le_one]
  intro index
  have balance := ledger.conserved index
  split at balance <;> omega

/-- Only services that were started complete. -/
theorem Ledger.index_lt (ledger : Ledger completions supervisor) {completion : Completion}
    (member : completion ∈ completions) : completion.index < supervisor.services.length := by
  have known := ledger.named completion member
  by_contra beyond
  rw [List.getElem?_eq_none (Nat.le_of_not_lt beyond)] at known
  cases known

/-- The completions are of some of the services. -/
theorem Ledger.subperm (ledger : Ledger completions supervisor) :
    (completions.map Completion.index).Subperm (List.range supervisor.services.length) := by
  apply ledger.nodup_index.subperm
  intro index member
  obtain ⟨completion, inside, rfl⟩ := List.mem_map.mp member
  exact List.mem_range.mpr (ledger.index_lt inside)

/-- There are no more completions than services. -/
theorem Ledger.length_le (ledger : Ledger completions supervisor) :
    completions.length ≤ supervisor.services.length := by
  simpa using ledger.subperm.length_le

/-- The processed services are named in the order of their completion. -/
theorem Ledger.map_service (ledger : Ledger completions supervisor) :
    completions.map Completion.service =
      (completions.map Completion.index).map fun index =>
        ((supervisor.services[index]?).map ServiceState.name).getD "" := by
  rw [List.map_map, List.map_inj_left]
  intro completion member
  simp [ledger.named completion member]

/-- The names of the services by their numbers. -/
theorem map_range_name (services : List ServiceState) :
    ((List.range services.length).map fun index =>
      ((services[index]?).map ServiceState.name).getD "") = services.map ServiceState.name := by
  apply List.ext_getElem
  · simp
  · intro index first second
    have inside : index < services.length := by simpa using second
    simp [inside]

/-- The names of the processed services are among those of all of them, none twice. -/
theorem Ledger.services_subperm (ledger : Ledger completions supervisor) :
    (completions.map Completion.service).Subperm (supervisor.services.map ServiceState.name) := by
  rw [ledger.map_service, ← map_range_name]
  obtain ⟨part, same, sub⟩ := ledger.subperm
  exact ⟨_, same.map _, sub.map _⟩

/-- When as many completed as there are, each of them did. -/
theorem Ledger.perm_of_all (ledger : Ledger completions supervisor)
    (all : completions.length = supervisor.services.length) :
    (completions.map Completion.service).Perm (supervisor.services.map ServiceState.name) := by
  apply ledger.services_subperm.perm_of_length_le
  simp [all]

/-- No name completes twice. -/
theorem Ledger.nodup_service (ledger : Ledger completions supervisor) :
    (completions.map Completion.service).Nodup := by
  obtain ⟨names, same, sub⟩ := ledger.services_subperm
  exact same.nodup_iff.mp (ledger.distinct.sublist sub)

/-- A service has stopped exactly if a completion bears its name. -/
theorem Ledger.stopped_iff (ledger : Ledger completions supervisor) {service : ServiceState}
    (member : service ∈ supervisor.services) :
    service.stopped = true ↔ service.name ∈ completions.map Completion.service := by
  obtain ⟨index, inside, rfl⟩ := List.getElem_of_mem member
  have known : supervisor.services[index]? = some supervisor.services[index] :=
    List.getElem?_eq_getElem inside
  rw [(ledger.tracked index _ known).1]
  constructor
  · intro done
    obtain ⟨completion, held, rfl⟩ := List.mem_map.mp done
    have named := ledger.named completion held
    rw [known, Option.map_some, Option.some.injEq] at named
    exact named ▸ List.mem_map_of_mem held
  · intro done
    obtain ⟨completion, held, same⟩ := List.mem_map.mp done
    have named := ledger.named completion held
    have bound := ledger.index_lt held
    have equal : completion.index = index := by
      apply (List.getElem?_inj (by simpa using bound) ledger.distinct).mp
      rw [List.getElem?_map, List.getElem?_map, named, known, same]
      rfl
    exact equal ▸ List.mem_map_of_mem held

/-- The event at the head of the queue is that of a service that has not stopped and whose
thread returned. -/
theorem Ledger.receivable (ledger : Ledger completions supervisor) {event : ServiceEvent}
    {queue : List ServiceEvent} (waiting : supervisor.queue = event :: queue) :
    ∃ service, supervisor.services[event.index]? = some service ∧ service.stopped = false ∧
      supervisor.joinFails service.handle = false ∧
      event.index ∉ completions.map Completion.index := by
  have balance := ledger.conserved event.index
  rw [waiting, List.map_cons, List.count_cons_self] at balance
  have inside : event.index < supervisor.services.length := by
    by_contra beyond
    rw [if_neg beyond] at balance
    omega
  rw [if_pos inside] at balance
  have known : supervisor.services[event.index]? = some supervisor.services[event.index] :=
    List.getElem?_eq_getElem inside
  have fresh : event.index ∉ completions.map Completion.index :=
    List.count_eq_zero.mp (by omega)
  have joined : event.index ∉ supervisor.unwound := List.count_eq_zero.mp (by omega)
  obtain ⟨stopped, handle⟩ := ledger.tracked _ _ known
  have running : supervisor.services[event.index].stopped = false :=
    Bool.eq_false_iff.mpr (mt stopped.mp fresh)
  rw [running] at handle
  exact ⟨_, known, running, by simp [joinFails, handle, joined], fresh⟩

/-- The service whose event is processed is stopped, joined and entered. -/
theorem Ledger.extend (ledger : Ledger completions supervisor) {event : ServiceEvent}
    {queue : List ServiceEvent} {service : ServiceState} {completion : Completion}
    (waiting : supervisor.queue = event :: queue)
    (known : supervisor.services[event.index]? = some service)
    (index : completion.index = event.index) (name : completion.service = service.name)
    (services : next.services =
      supervisor.services.set event.index ⟨service.name, none, true⟩)
    (senders : next.senders = supervisor.senders) (rest : next.queue = queue)
    (unwound : next.unwound = supervisor.unwound)
    (order : next.completionOrder = supervisor.completionOrder ++ [service.name])
    (stopped : next.servicesStopped = supervisor.servicesStopped + 1) :
    Ledger (completions ++ [completion]) next := by
  have inside : event.index < supervisor.services.length := (List.getElem?_eq_some_iff.mp known).1
  have names : (supervisor.services.set event.index ⟨service.name, none, true⟩).map
      ServiceState.name = supervisor.services.map ServiceState.name := by
    apply List.ext_getElem?
    intro other
    rw [List.getElem?_map, List.getElem?_map]
    by_cases same : other = event.index
    · rw [same, List.getElem?_set_self inside, known]
      rfl
    · rw [List.getElem?_set_ne (Ne.symm same)]
  exact {
    distinct := by rw [services, names]; exact ledger.distinct
    conserved := fun other => by
      have balance := ledger.conserved other
      rw [waiting, List.map_cons, List.count_cons] at balance
      rw [services, senders, rest, unwound, List.length_set, List.map_append, List.count_append,
        List.map_singleton, index, List.count_singleton]
      omega
    tracked := fun other state found => by
      rw [services] at found
      rw [List.map_append, List.map_singleton, index, List.mem_append, List.mem_singleton]
      by_cases same : other = event.index
      · subst same
        rw [List.getElem?_set_self inside] at found
        cases found
        simp
      · rw [List.getElem?_set_ne (Ne.symm same)] at found
        simpa [same] using ledger.tracked other state found
    named := fun other member => by
      have kept : ∀ position : Nat, (next.services[position]?).map ServiceState.name =
          (supervisor.services[position]?).map ServiceState.name := by
        intro position
        rw [services, ← List.getElem?_map, names, List.getElem?_map]
      rw [kept]
      rcases List.mem_append.mp member with old | new
      · exact ledger.named other old
      · rw [List.mem_singleton.mp new, index, known, name]
        rfl
    ordered := by rw [order, ledger.ordered, List.map_append, List.map_singleton, name]
    counted := by rw [stopped, ledger.counted, List.length_append, List.length_singleton] }

end Ledger

section Accounts

/-- The channel was closed before every service had sent its event. -/
structure Closed (completions : List Completion) (supervisor : ServiceSupervisor) : Prop where
  pending : supervisor.pendingFailure = some .eventChannelClosed
  clean : completions.findSome? Completion.failure? = none
  drained : supervisor.queue = []
  ended : supervisor.senders = []
  missing : completions.length < supervisor.services.length

/-- What `run_until` returns: the report when every service was processed without a failure,
the first failure when every service was processed, or the names of the services that were
not processed before the grace period was over. -/
inductive Settles (completions : List Completion) (supervisor : ServiceSupervisor) :
    Except SupervisorError SupervisorReport → Prop where
  | idle (empty : supervisor.services = []) :
      Settles completions supervisor (.error .noServices)
  | clean (all : completions.length = supervisor.services.length)
      (unharmed : completions.findSome? Completion.failure? = none) :
      Settles completions supervisor (.ok ⟨supervisor.services.length, completions.length,
        completions.map Completion.service⟩)
  | failed {failure : PendingFailure} (all : completions.length = supervisor.services.length)
      (first : completions.findSome? Completion.failure? = some failure) :
      Settles completions supervisor (.error failure.intoError)
  | late {started : Nat} {trigger : Option String}
      (missing : completions.length < supervisor.services.length)
      (begun : supervisor.shutdownStarted = some started)
      (elapsed : supervisor.config.shutdownGrace ≤ supervisor.clock - started) :
      Settles completions supervisor (.error (.shutdownTimeout trigger supervisor.remaining))

/-- What holds in each phase. -/
def Course (completions : List Completion) (supervisor : ServiceSupervisor) : Prop :=
  match supervisor.phase with
  | .assembling => completions = [] ∧ supervisor.pendingFailure = none
  | .announce | .count => supervisor.servicesStarted = supervisor.services.length
  | .returned result => supervisor.requested = true ∧ Settles completions supervisor result
  | _ => supervisor.servicesStarted = supervisor.services.length ∧
      completions.length < supervisor.services.length

/-- What holds between the completions of a history and the state that it ends in. -/
structure Accounts (completions : List Completion) (supervisor : ServiceSupervisor) : Prop where
  ledger : Ledger completions supervisor
  /-- The pending failure is that of the first failed completion, or the closed channel. -/
  attributed : supervisor.pendingFailure = completions.findSome? Completion.failure? ∨
    Closed completions supervisor
  announced : supervisor.pendingFailure.isSome = true →
    supervisor.requested = true ∨ supervisor.phase = .announce
  course : Course completions supervisor

variable {completions : List Completion} {supervisor next : ServiceSupervisor}

/-- A result stays right while the services and the failure do. -/
theorem Settles.frame {result : Except SupervisorError SupervisorReport}
    (settles : Settles completions supervisor result)
    (services : next.services = supervisor.services) (config : next.config = supervisor.config)
    (begun : next.shutdownStarted = supervisor.shutdownStarted)
    (later : supervisor.clock ≤ next.clock) : Settles completions next result := by
  cases settles with
  | idle empty => exact .idle (services.trans empty)
  | clean all unharmed =>
      rw [← services] at all ⊢
      exact .clean all unharmed
  | failed all first => exact .failed (by rw [services]; exact all) first
  | late missing started elapsed =>
      have same : supervisor.remaining = next.remaining := by rw [remaining, remaining, services]
      rw [same]
      exact .late (by rw [services]; exact missing) (begun.trans started)
        (by rw [config]; omega)

/-- A failure has shutdown requested. -/
theorem Accounts.raised (accounts : Accounts completions supervisor) {phase : SupervisorPhase}
    (stands : supervisor.phase = phase) (other : phase ≠ .announce)
    (failed : supervisor.pendingFailure.isSome = true) : supervisor.requested = true :=
  (accounts.announced failed).resolve_right fun same => other (stands.symm.trans same)

/-- A fresh supervisor accounts for nothing. -/
theorem Accounts.new {config : SupervisorConfig} (fresh : new config = .ok supervisor) :
    Accounts [] supervisor := by
  unfold ServiceSupervisor.new at fresh
  split at fresh
  · cases fresh
  · cases fresh
    exact {
      ledger := ⟨List.nodup_nil, fun index => by simp, nofun, nofun, rfl, rfl⟩
      attributed := .inl rfl
      announced := nofun
      course := ⟨rfl, rfl⟩ }

/-- A step that leaves the supervisor's own variables alone keeps the account, as long as it
keeps the ledger and does not lower the flag or turn the clock back. -/
theorem Accounts.frame (accounts : Accounts completions supervisor)
    (ledger : Ledger completions next)
    (closed : Closed completions supervisor → Closed completions next)
    (services : next.services = supervisor.services) (config : next.config = supervisor.config)
    (pending : next.pendingFailure = supervisor.pendingFailure)
    (begun : next.shutdownStarted = supervisor.shutdownStarted)
    (started : next.servicesStarted = supervisor.servicesStarted)
    (phase : next.phase = supervisor.phase) (later : supervisor.clock ≤ next.clock)
    (raised : supervisor.requested = true → next.requested = true) :
    Accounts completions next where
  ledger := ledger
  attributed := by
    rw [pending]
    exact accounts.attributed.imp_right closed
  announced := by
    rw [pending, phase]
    exact fun failed => (accounts.announced failed).imp_left raised
  course := by
    have course := accounts.course
    unfold Course at course ⊢
    rw [phase, pending, services, started]
    split at course
    · exact course
    · exact course
    · exact course
    · exact ⟨raised course.1, course.2.frame services config begun later⟩
    · exact course

/-- A request for shutdown keeps the accounts. -/
theorem Accounts.request (accounts : Accounts completions supervisor) :
    Accounts completions supervisor.request :=
  accounts.frame (accounts.ledger.frame rfl rfl rfl rfl rfl rfl)
    (fun closed => ⟨closed.pending, closed.clean, closed.drained, closed.ended, closed.missing⟩)
    rfl rfl rfl rfl rfl rfl (Nat.le_refl _) fun _ => rfl

/-- Time keeps the accounts. -/
theorem Accounts.tick (accounts : Accounts completions supervisor) (nanos : Nat) :
    Accounts completions { supervisor with clock := supervisor.clock + nanos } :=
  accounts.frame (accounts.ledger.frame rfl rfl rfl rfl rfl rfl)
    (fun closed => ⟨closed.pending, closed.clean, closed.drained, closed.ended, closed.missing⟩)
    rfl rfl rfl rfl rfl rfl (Nat.le_add_right _ _) id

/-- The end of a task moves its thread to the queue or to the unwound ones. -/
theorem Accounts.exit (accounts : Accounts completions supervisor) (index : Nat)
    (task : TaskEnd) : Accounts completions (supervisor.exit index task) := by
  unfold ServiceSupervisor.exit
  split
  · rename_i running
    have opened : ¬ Closed completions supervisor := fun closed => by
      rw [closed.ended] at running
      cases running
    have held : 0 < supervisor.senders.count index := List.count_pos_iff.mpr running
    cases task.outcome? with
    | some outcome =>
        refine accounts.frame { accounts.ledger with conserved := fun other => ?_ }
          (fun closed => (opened closed).elim) rfl rfl rfl rfl rfl rfl (Nat.le_refl _) id
        have balance := accounts.ledger.conserved other
        simp only [List.count_erase, List.map_append, List.map_singleton, List.count_append,
          List.count_singleton, beq_iff_eq]
        by_cases same : index = other
        · subst same
          simp only [if_true]
          omega
        · simp only [same, if_false]
          omega
    | none =>
        refine accounts.frame { accounts.ledger with conserved := fun other => ?_ }
          (fun closed => (opened closed).elim) rfl rfl rfl rfl rfl rfl (Nat.le_refl _) id
        have balance := accounts.ledger.conserved other
        simp only [List.count_erase, List.count_cons, beq_iff_eq]
        by_cases same : index = other
        · subst same
          simp only [if_true]
          omega
        · simp only [same, if_false]
          omega
  · exact accounts

/-- A spawned service runs in a thread of its own, under a name of its own. -/
theorem Accounts.spawn (accounts : Accounts completions supervisor)
    (phase : supervisor.phase = .assembling) (name : String) (created : Bool) :
    Accounts completions (supervisor.spawn name created).2 := by
  have course := accounts.course
  unfold Course at course
  rw [phase] at course
  obtain ⟨rfl, idle⟩ := course
  unfold ServiceSupervisor.spawn
  split
  · exact accounts
  · split_ifs with taken full requested refused
    · exact accounts
    · exact accounts
    · exact accounts
    · exact accounts
    · have unknown : name ∉ supervisor.services.map ServiceState.name := by
        intro member
        obtain ⟨service, inside, same⟩ := List.mem_map.mp member
        exact taken (List.any_eq_true.mpr ⟨service, inside, beq_iff_eq.mpr same⟩)
      exact {
        ledger := {
          distinct := by
            rw [List.map_append, List.map_singleton, List.nodup_append]
            refine ⟨accounts.ledger.distinct, List.nodup_singleton _, ?_⟩
            intro known member new same
            rw [List.mem_singleton.mp same]
            exact ne_of_mem_of_not_mem member unknown
          conserved := fun index => by
            have balance := accounts.ledger.conserved index
            simp only [List.count_append, List.count_singleton, List.length_append,
              List.length_singleton, beq_iff_eq]
            split at balance <;> split <;> split <;> omega
          tracked := fun index service found => by
            rcases getElem?_append_cases found with known | ⟨same, rfl⟩
            · exact accounts.ledger.tracked index service known
            · exact ⟨by simp, by rw [same]; rfl⟩
          named := nofun
          ordered := accounts.ledger.ordered
          counted := accounts.ledger.counted }
        attributed := .inl idle
        announced := fun failed => by rw [idle] at failed; cases failed
        course := by
          unfold Course
          rw [phase]
          exact ⟨rfl, idle⟩ }

/-- A step of the loop that processes nothing keeps the account, as long as it announces the
pending failure and keeps the course. -/
theorem Accounts.move (accounts : Accounts completions supervisor)
    (announced : next.pendingFailure.isSome = true →
      next.requested = true ∨ next.phase = .announce)
    (course : Course completions next)
    (services : next.services = supervisor.services) (senders : next.senders = supervisor.senders)
    (queue : next.queue = supervisor.queue) (unwound : next.unwound = supervisor.unwound)
    (order : next.completionOrder = supervisor.completionOrder)
    (stopped : next.servicesStopped = supervisor.servicesStopped)
    (pending : next.pendingFailure = supervisor.pendingFailure) :
    Accounts completions next where
  ledger := accounts.ledger.frame services senders queue unwound order stopped
  attributed := by
    rw [pending]
    refine accounts.attributed.imp_right fun closed => ⟨pending.trans closed.pending,
      closed.clean, queue.trans closed.drained, senders.trans closed.ended, ?_⟩
    rw [services]
    exact closed.missing
  announced := announced
  course := course

/-- Leaving the loop with a settled result keeps the account. -/
theorem Accounts.leave (accounts : Accounts completions supervisor)
    {result : Except SupervisorError SupervisorReport}
    (settles : Settles completions supervisor result) :
    Accounts completions (supervisor.leave result) :=
  accounts.move (fun _ => .inl rfl) ⟨rfl, settles.frame rfl rfl rfl (Nat.le_refl _)⟩
    rfl rfl rfl rfl rfl rfl rfl

/-- Starting to run keeps the accounts. -/
theorem Accounts.runUntil (accounts : Accounts completions supervisor)
    (phase : supervisor.phase = .assembling) : Accounts completions supervisor.runUntil := by
  have course := accounts.course
  unfold Course at course
  rw [phase] at course
  obtain ⟨rfl, idle⟩ := course
  unfold ServiceSupervisor.runUntil
  split
  · rename_i empty
    exact accounts.leave (.idle empty)
  · rename_i present
    exact {
      ledger := {
        distinct := accounts.ledger.distinct
        conserved := accounts.ledger.conserved
        tracked := accounts.ledger.tracked
        named := nofun
        ordered := rfl
        counted := rfl }
      attributed := .inl rfl
      announced := nofun
      course := ⟨rfl, List.length_pos_of_ne_nil present⟩ }

/-- A received event is processed, and its completion is entered. -/
theorem Ledger.receive_eq (ledger : Ledger completions supervisor) {event : ServiceEvent}
    {queue : List ServiceEvent} (waiting : supervisor.queue = event :: queue) :
    ∃ completion : Completion, completion.outcome = event.outcome ∧
      completion.requested = supervisor.requested ∧
      (supervisor.services[completion.index]?).map ServiceState.name = some completion.service ∧
      (supervisor.receive event queue).1 = some completion ∧
      (supervisor.receive event queue).2.pendingFailure =
        supervisor.pendingFailure.or completion.failure? ∧
      (supervisor.receive event queue).2.phase = .announce ∧
      (supervisor.receive event queue).2.requested = supervisor.requested ∧
      (supervisor.receive event queue).2.servicesStarted = supervisor.servicesStarted ∧
      (supervisor.receive event queue).2.services.length = supervisor.services.length ∧
      Ledger (completions ++ [completion]) (supervisor.receive event queue).2 := by
  obtain ⟨service, known, running, joined, fresh⟩ := ledger.receivable waiting
  have processed : supervisor.receive event queue =
      (some ⟨event.index, service.name, event.outcome, supervisor.requested⟩, { supervisor with
        queue := queue
        services := supervisor.services.set event.index ⟨service.name, none, true⟩
        servicesStopped := supervisor.servicesStopped + 1
        completionOrder := supervisor.completionOrder ++ [service.name]
        pendingFailure := supervisor.pendingFailure.or (Completion.failure?
          ⟨event.index, service.name, event.outcome, supervisor.requested⟩)
        phase := .announce }) := by
    unfold ServiceSupervisor.receive
    rw [known]
    simp [running, joined]
  rw [processed]
  refine ⟨_, rfl, rfl, ?_, rfl, rfl, rfl, rfl, rfl, List.length_set, ?_⟩
  · rw [known]
    rfl
  · exact ledger.extend waiting known rfl rfl rfl rfl rfl rfl rfl rfl

/-- Receiving an event adds its completion to the accounts. -/
theorem Accounts.receive (accounts : Accounts completions supervisor)
    (phase : supervisor.phase = .receive) {event : ServiceEvent} {queue : List ServiceEvent}
    (waiting : supervisor.queue = event :: queue) :
    Accounts (completions ++ (supervisor.receive event queue).1.toList)
      (supervisor.receive event queue).2 := by
  have course := accounts.course
  unfold Course at course
  rw [phase] at course
  have opened : ¬ Closed completions supervisor := fun closed => by
    rw [closed.drained] at waiting
    cases waiting
  have attributed := accounts.attributed.resolve_right opened
  obtain ⟨completion, -, requested, -, told, pending, announced, flag, started, length, ledger⟩ :=
    accounts.ledger.receive_eq waiting
  rw [told]
  exact {
    ledger := ledger
    attributed := .inl (by
      rw [pending, attributed, Option.toList_some, List.findSome?_append, List.findSome?_singleton])
    announced := fun _ => .inr announced
    course := by
      unfold Course
      rw [announced, started, length]
      exact course.1 }

/-- A closed channel is a failure, unless another one is pending already. -/
theorem Accounts.disconnect (accounts : Accounts completions supervisor)
    (phase : supervisor.phase = .receive) (drained : supervisor.queue = [])
    (ended : supervisor.senders = []) :
    Accounts completions { supervisor with
      pendingFailure := supervisor.pendingFailure.or (some .eventChannelClosed)
      phase := .announce } := by
  have course := accounts.course
  unfold Course at course
  rw [phase] at course
  have closes (clean : completions.findSome? Completion.failure? = none)
      (pending : supervisor.pendingFailure.or (some .eventChannelClosed) =
        some .eventChannelClosed) :
      Closed completions { supervisor with
        pendingFailure := supervisor.pendingFailure.or (some .eventChannelClosed)
        phase := .announce } :=
    ⟨pending, clean, drained, ended, course.2⟩
  exact {
    ledger := accounts.ledger.frame rfl rfl rfl rfl rfl rfl
    attributed := by
      rcases accounts.attributed with same | closed
      · cases failed : completions.findSome? Completion.failure? with
        | none => exact .inr (closes failed (by rw [same, failed]; rfl))
        | some failure => exact .inl (by simp [same, failed])
      · exact .inr (closes closed.clean (by rw [closed.pending]; rfl))
    announced := fun _ => .inr rfl
    course := course.1 }

/-- What the supervisor reports once every service has stopped is settled. -/
theorem Accounts.report (accounts : Accounts completions supervisor)
    (started : supervisor.servicesStarted = supervisor.services.length)
    (all : supervisor.servicesStopped = supervisor.servicesStarted) :
    Settles completions supervisor supervisor.report := by
  have every : completions.length = supervisor.services.length := by
    rw [← accounts.ledger.counted, all, started]
  have attributed := accounts.attributed.resolve_right fun closed =>
    absurd closed.missing (by omega)
  unfold ServiceSupervisor.report
  rw [started, accounts.ledger.counted, accounts.ledger.ordered, attributed]
  cases failed : completions.findSome? Completion.failure? with
  | none => exact .clean every failed
  | some failure => exact .failed every failed

/-- The supervisor's own steps keep the account. -/
theorem Accounts.proceed (accounts : Accounts completions supervisor) (external : Bool) :
    Accounts (completions ++ (supervisor.proceed external).1.toList)
      (supervisor.proceed external).2 := by
  have course := accounts.course
  have announced := accounts.announced
  unfold Course at course
  unfold ServiceSupervisor.proceed
  cases phase : supervisor.phase with
  | assembling => simpa using accounts
  | returned result => simpa using accounts
  | poll =>
      simp only [phase, Option.toList_none, List.append_nil] at course announced ⊢
      refine accounts.move (fun failed => .inl (accounts.raised phase nofun failed)) ?_
        rfl rfl rfl rfl rfl rfl rfl
      cases supervisor.requested with
      | true => exact course
      | false => exact course
  | ask =>
      simp only [phase, Option.toList_none, List.append_nil] at course announced ⊢
      cases external with
      | true =>
          exact accounts.move (fun _ => .inl rfl) course rfl rfl rfl rfl rfl rfl rfl
      | false =>
          exact accounts.move (fun failed => .inl (accounts.raised phase nofun failed)) course
            rfl rfl rfl rfl rfl rfl rfl
  | receive =>
      dsimp only
      cases waiting : supervisor.queue with
      | cons event queue => exact accounts.receive phase waiting
      | nil =>
          dsimp only
          split
          · rename_i ended
            rw [Option.toList_none, List.append_nil]
            simpa only [waiting] using accounts.disconnect phase waiting ended
          · rw [Option.toList_none, List.append_nil]
            exact accounts
  | announce =>
      simp only [phase, Option.toList_none, List.append_nil] at course announced ⊢
      split
      · exact accounts.move (fun _ => .inl rfl) course rfl rfl rfl rfl rfl rfl rfl
      · rename_i quiet
        refine accounts.move (fun failed => .inl ?_) course rfl rfl rfl rfl rfl rfl rfl
        by_contra down
        exact quiet ⟨failed, Bool.eq_false_iff.mpr down⟩
  | count =>
      simp only [phase] at course announced ⊢
      split
      · rename_i all
        simpa using accounts.leave (accounts.report course all)
      · rename_i more
        rw [Option.toList_none, List.append_nil]
        have counted := accounts.ledger.counted
        have bound := accounts.ledger.length_le
        have missing : completions.length < supervisor.services.length := by omega
        exact accounts.move (fun failed => .inl (accounts.raised phase nofun failed))
          ⟨course, missing⟩ rfl rfl rfl rfl rfl rfl rfl
  | grace =>
      simp only [phase] at course announced ⊢
      split
      · rename_i elapsed
        rw [Option.any_eq_true] at elapsed
        obtain ⟨started, begun, waited⟩ := elapsed
        rw [decide_eq_true_eq] at waited
        simpa using accounts.leave (.late course.2 begun waited)
      · rw [Option.toList_none, List.append_nil]
        exact accounts.move (fun failed => .inl (accounts.raised phase nofun failed)) course
          rfl rfl rfl rfl rfl rfl rfl

/-- Every step keeps the account. -/
theorem Accounts.step (accounts : Accounts completions supervisor)
    (action : SupervisorAction) :
    Accounts (completions ++ (supervisor.step action).1.toList) (supervisor.step action).2 := by
  cases action with
  | spawn name created =>
      unfold ServiceSupervisor.step
      dsimp only
      split
      · rename_i phase
        simpa using accounts.spawn phase name created
      · simpa using accounts
  | runUntil =>
      unfold ServiceSupervisor.step
      dsimp only
      split
      · rename_i phase
        simpa using accounts.runUntil phase
      · simpa using accounts
  | exit index task => simpa [ServiceSupervisor.step] using accounts.exit index task
  | request => simpa [ServiceSupervisor.step] using accounts.request
  | tick nanos => simpa [ServiceSupervisor.step] using accounts.tick nanos
  | timeout =>
      unfold ServiceSupervisor.step
      dsimp only
      split
      · rename_i phase
        have course := accounts.course
        unfold Course at course
        rw [phase] at course
        rw [Option.toList_none, List.append_nil]
        exact accounts.move (fun failed => .inl (accounts.raised phase nofun failed)) course.1
          rfl rfl rfl rfl rfl rfl rfl
      · simpa using accounts
  | proceed external => exact accounts.proceed external

/-- The account holds at the end of every run. -/
theorem run_accounts {config : SupervisorConfig} (fresh : new config = .ok supervisor)
    (actions : List SupervisorAction) :
    Accounts (processed (run step supervisor actions)) (final step supervisor actions) := by
  refine @run_history _ _ _ _ (fun history state => Accounts (processed history) state) _
    (Accounts.new fresh) ?_ actions
  · intro history current action accounts
    have next := accounts.step action
    unfold processed at next ⊢
    rw [List.filterMap_append]
    cases told : (current.step action).1 with
    | none => simpa [told] using next
    | some completion => simpa [told] using next

end Accounts

end ServiceSupervisor

end FaceAuth
