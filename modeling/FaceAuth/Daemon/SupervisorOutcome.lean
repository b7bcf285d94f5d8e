import FaceAuth.Daemon.SupervisorAccount

/-!
# The outcome of a supervisor run

What `run_until` returns after any sequence of steps of the services, of the
holders of the shutdown token, of the clock and of the supervisor itself.
-/

namespace FaceAuth

open Foundation

namespace ServiceSupervisor

section Outcome

/-- One recorded step of a service, a token holder, the clock or the supervisor. -/
abbrev SupervisorEntry := Entry ServiceSupervisor SupervisorAction (Option Completion)

/-- What holds of every history of a supervisor and of the state that it ends in. -/
structure SupervisorContract (entries : List SupervisorEntry) (supervisor : ServiceSupervisor) :
    Prop where
  /-- A completion is recorded with the service and with the flag at its processing. -/
  observed : ∀ entry ∈ entries, ∀ completion, entry.output = some completion →
    completion.requested = entry.before.requested ∧
      (entry.before.services[completion.index]?).map ServiceState.name = some completion.service
  /-- A report means that every service was processed and joined, once each, without a
  failure and after the shutdown request. -/
  reported : ∀ report, supervisor.phase = .returned (.ok report) →
    (∀ service ∈ supervisor.services, service.stopped = true ∧ service.handle = none ∧
      service.name ∈ (processed entries).map Completion.service) ∧
    (∀ completion ∈ processed entries,
      completion.outcome = .completed ∧ completion.requested = true) ∧
    report.completionOrder = (processed entries).map Completion.service ∧
    report.completionOrder.Nodup ∧
    report.completionOrder.Perm (supervisor.services.map ServiceState.name) ∧
    report.servicesStarted = supervisor.services.length ∧
    report.servicesStopped = supervisor.services.length
  /-- After a completion without a prior request, a failure or a panic, the shutdown is
  requested from the supervisor's very next step on. -/
  failureRequests : ∀ left entry right completion, entries = left ++ entry :: right →
    entry.output = some completion →
    completion.outcome ≠ .completed ∨ completion.requested = false →
      ∀ earlier later rest external, right = earlier ++ later :: rest →
        later.action = .proceed external → later.after.requested = true
  /-- Once every service was processed, the error is the first of these failures. -/
  firstFailure : ∀ error, supervisor.phase = .returned (.error error) →
    supervisor.services ≠ [] →
    (∀ service ∈ supervisor.services,
      service.name ∈ (processed entries).map Completion.service) →
      ∃ earlier completion later failure, processed entries = earlier ++ completion :: later ∧
        (∀ other ∈ earlier, other.outcome = .completed ∧ other.requested = true) ∧
        completion.failure? = some failure ∧ error = failure.intoError
  /-- At the end of the grace period, the error lists the services without a completion. -/
  timedOut : ∀ trigger services,
    supervisor.phase = .returned (.error (.shutdownTimeout trigger services)) →
      services = (supervisor.services.map ServiceState.name).filter
        (fun name => decide (name ∉ (processed entries).map Completion.service)) ∧
      services ≠ [] ∧
      ∃ started, supervisor.shutdownStarted = some started ∧
        supervisor.config.shutdownGrace ≤ supervisor.clock - started
  /-- There is no other way to return, and shutdown is requested after each. -/
  returned : ∀ result, supervisor.phase = .returned result → supervisor.requested = true ∧
    ∀ error, result = .error error →
      (supervisor.services = [] ∧ error = .noServices) ∨
      (∀ service ∈ supervisor.services,
        service.name ∈ (processed entries).map Completion.service) ∨
      ∃ trigger services, error = .shutdownTimeout trigger services

variable {completions : List Completion} {supervisor next : ServiceSupervisor}
  {action : SupervisorAction}

/-- A supervisor that has returned did so after a request, with a result that fits. -/
theorem Accounts.settles (accounts : Accounts completions supervisor)
    {result : Except SupervisorError SupervisorReport}
    (returned : supervisor.phase = .returned result) :
    supervisor.requested = true ∧ Settles completions supervisor result := by
  have course := accounts.course
  unfold Course at course
  rw [returned] at course
  exact course

/-- As many completed as there are services exactly when each of them did. -/
theorem Ledger.all_iff (ledger : Ledger completions supervisor) :
    completions.length = supervisor.services.length ↔
      ∀ service ∈ supervisor.services, service.name ∈ completions.map Completion.service := by
  constructor
  · intro all service member
    exact (ledger.perm_of_all all).mem_iff.mpr (List.mem_map_of_mem member)
  · intro every
    have sub : (supervisor.services.map ServiceState.name).Subperm
        (completions.map Completion.service) := by
      apply ledger.distinct.subperm
      intro name member
      obtain ⟨service, inside, rfl⟩ := List.mem_map.mp member
      exact every service inside
    have bound := sub.length_le
    have reverse := ledger.length_le
    simp only [List.length_map] at bound
    omega

/-- The services that remain are those that did not complete. -/
theorem Ledger.remaining_eq (ledger : Ledger completions supervisor) :
    supervisor.remaining = (supervisor.services.map ServiceState.name).filter
      fun name => decide (name ∉ completions.map Completion.service) := by
  rw [remaining, List.filter_map]
  congr 1
  apply List.filter_congr
  intro service member
  rw [Bool.eq_iff_iff, Function.comp_apply, decide_eq_true_eq, Bool.not_eq_true',
    Bool.eq_false_iff, Ne, ledger.stopped_iff member]

/-- Only the supervisor processes completions, in its receive phase. -/
theorem Accounts.step_completion (accounts : Accounts completions supervisor)
    {completion : Completion} (told : (supervisor.step action).1 = some completion) :
    completion.requested = supervisor.requested ∧
      (supervisor.services[completion.index]?).map ServiceState.name = some completion.service ∧
      (supervisor.step action).2.pendingFailure =
        supervisor.pendingFailure.or completion.failure? := by
  cases action with
  | proceed external =>
      simp only [ServiceSupervisor.step, ServiceSupervisor.proceed] at told ⊢
      cases phase : supervisor.phase with
      | receive =>
          simp only [phase] at told ⊢
          cases waiting : supervisor.queue with
          | nil =>
              simp only [waiting] at told
              split at told <;> cases told
          | cons event queue =>
              simp only [waiting] at told ⊢
              obtain ⟨other, -, requested, named, same, pending, -⟩ :=
                accounts.ledger.receive_eq waiting
              rw [told, Option.some.injEq] at same
              subst same
              exact ⟨requested, named, pending⟩
      | count =>
          simp only [phase] at told
          split at told <;> cases told
      | grace =>
          simp only [phase] at told
          split at told <;> cases told
      | _ =>
          simp only [phase] at told
          cases told
  | spawn name created =>
      unfold ServiceSupervisor.step at told
      dsimp only at told
      split at told <;> cases told
  | runUntil =>
      unfold ServiceSupervisor.step at told
      dsimp only at told
      split at told <;> cases told
  | timeout =>
      unfold ServiceSupervisor.step at told
      dsimp only at told
      split at told <;> cases told
  | _ => cases told

/-- Neither the shutdown request nor the pending failure is taken back. -/
structure Keeps (supervisor next : ServiceSupervisor) : Prop where
  requested : supervisor.requested = true → next.requested = true
  pending : ∃ failure, next.pendingFailure = supervisor.pendingFailure.or failure

/-- What leaves the failure and the request is kept. -/
theorem Keeps.of_eq (requested : supervisor.requested = true → next.requested = true)
    (same : next.pendingFailure = supervisor.pendingFailure) : Keeps supervisor next :=
  ⟨requested, none, by rw [same, Option.or_none]⟩

/-- Doing nothing keeps them. -/
theorem Keeps.refl (supervisor : ServiceSupervisor) : Keeps supervisor supervisor :=
  .of_eq id rfl

/-- Receiving keeps the first failure and the request. -/
theorem receive_keeps (supervisor : ServiceSupervisor) (event : ServiceEvent)
    (queue : List ServiceEvent) : Keeps supervisor (supervisor.receive event queue).2 := by
  unfold receive
  split
  · exact .of_eq (fun _ => rfl) rfl
  · split_ifs
    · exact .of_eq (fun _ => rfl) rfl
    · exact .of_eq (fun _ => rfl) rfl
    · exact ⟨id, _, rfl⟩

/-- One step of the loop keeps the first failure and the request. -/
theorem proceed_keeps (supervisor : ServiceSupervisor) (external : Bool) :
    Keeps supervisor (supervisor.proceed external).2 := by
  unfold proceed
  split
  · exact .refl supervisor
  · exact .of_eq id rfl
  · cases external with
    | true => exact .of_eq (fun _ => rfl) rfl
    | false => exact .of_eq id rfl
  · split
    · exact receive_keeps supervisor _ _
    · split
      · exact ⟨id, _, rfl⟩
      · exact .refl supervisor
  · split
    · exact .of_eq (fun _ => rfl) rfl
    · exact .of_eq id rfl
  · split
    · exact .of_eq (fun _ => rfl) rfl
    · exact .of_eq id rfl
  · split
    · exact .of_eq (fun _ => rfl) rfl
    · exact .of_eq id rfl
  · exact .refl supervisor

/-- Every action keeps the first failure and the request. -/
theorem Accounts.step_keeps (accounts : Accounts completions supervisor)
    (action : SupervisorAction) : Keeps supervisor (supervisor.step action).2 := by
  cases action with
  | spawn name created =>
      unfold ServiceSupervisor.step ServiceSupervisor.spawn
      dsimp only
      split
      · split
        · exact .refl supervisor
        · split_ifs <;> exact .of_eq id rfl
      · exact .refl supervisor
  | runUntil =>
      unfold ServiceSupervisor.step
      dsimp only
      split
      · rename_i phase
        have course := accounts.course
        unfold Course at course
        rw [phase] at course
        unfold ServiceSupervisor.runUntil
        split
        · exact .of_eq (fun _ => rfl) rfl
        · exact .of_eq id course.2.symm
      · exact .refl supervisor
  | exit index task =>
      unfold ServiceSupervisor.step ServiceSupervisor.exit
      dsimp only
      split
      · split <;> exact .of_eq id rfl
      · exact .refl supervisor
  | request => exact .of_eq (fun _ => rfl) rfl
  | tick nanos => exact .of_eq id rfl
  | timeout =>
      unfold ServiceSupervisor.step
      dsimp only
      split <;> exact .of_eq id rfl
  | proceed external => exact proceed_keeps supervisor external

/-- With a pending failure, the supervisor's next step leaves the shutdown requested. -/
theorem Accounts.proceed_requested (accounts : Accounts completions supervisor)
    (failed : supervisor.pendingFailure.isSome = true) (external : Bool) :
    (supervisor.step (.proceed external)).2.requested = true := by
  rcases accounts.announced failed with requested | phase
  · exact (proceed_keeps supervisor external).requested requested
  · cases requested : supervisor.requested with
    | true => exact (proceed_keeps supervisor external).requested requested
    | false =>
        simp only [ServiceSupervisor.step, ServiceSupervisor.proceed, phase, failed, requested,
          and_self, if_true]
        rfl

/-- A failed supervisor stays failed, and its account holds. -/
theorem preserved_failed : Preserved step fun supervisor =>
    ∃ completions, Accounts completions supervisor ∧
      supervisor.pendingFailure.isSome = true := by
  rintro supervisor action ⟨completions, accounts, failed⟩
  obtain ⟨failure, same⟩ := (accounts.step_keeps action).pending
  exact ⟨_, accounts.step action, by rw [same]; simp [failed]⟩

/-- A report is made when all completed without a failure, and says so. -/
theorem Settles.report_eq {report : SupervisorReport}
    (settles : Settles completions supervisor (.ok report)) :
    completions.length = supervisor.services.length ∧
      completions.findSome? Completion.failure? = none ∧
      report = ⟨supervisor.services.length, completions.length,
        completions.map Completion.service⟩ := by
  cases settles with
  | clean all unharmed => exact ⟨all, unharmed, rfl⟩

/-- A timeout is told when services remain and the grace has passed. -/
theorem Settles.timeout_eq {trigger : Option String} {services : List String}
    (settles : Settles completions supervisor (.error (.shutdownTimeout trigger services))) :
    services = supervisor.remaining ∧ completions.length < supervisor.services.length ∧
      ∃ started, supervisor.shutdownStarted = some started ∧
        supervisor.config.shutdownGrace ≤ supervisor.clock - started := by
  generalize same : (Except.error _ : Except SupervisorError SupervisorReport) = result at settles
  cases settles with
  | idle empty => cases same
  | clean all unharmed => cases same
  | @failed failure all first => cases failure <;> cases same
  | late missing begun elapsed =>
      cases same
      exact ⟨rfl, missing, _, begun, elapsed⟩

/-- When completions are missing services remain. -/
theorem Ledger.remaining_ne_nil (ledger : Ledger completions supervisor)
    (missing : completions.length < supervisor.services.length) : supervisor.remaining ≠ [] := by
  intro nobody
  rw [ledger.remaining_eq, List.filter_eq_nil_iff] at nobody
  have all := ledger.all_iff.mpr fun service member => by
    simpa using nobody service.name (List.mem_map_of_mem member)
  omega

/-- An empty supervisor with the default bounds. -/
def defaultSupervisor : ServiceSupervisor :=
  ⟨.default, false, [], [], [], [], 0, 0, 0, [], none, none, .assembling⟩

/-- One service ends cleanly after the shutdown request, and then its peer panics. -/
def panicRun : List SupervisorAction :=
  [.spawn "authentication" true, .spawn "manager1" true, .runUntil, .proceed false,
    .proceed true, .exit 0 (.returned (.ok ())), .proceed false, .proceed false, .proceed false,
    .exit 1 .unwound, .proceed false, .proceed false, .proceed false, .proceed false,
    .proceed false]

example : (final step defaultSupervisor panicRun).phase =
    .returned (.error (.servicePanicked "manager1")) := rfl

end Outcome

end ServiceSupervisor

end FaceAuth
