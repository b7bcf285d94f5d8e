import FaceAuth.Daemon.EngineServices

/-!
# One holder of the camera

At any time at most one submission or job holds a lease, and it is the current
lease of the arbiter. The lease goes from the submission to its job and is
dropped at the end of either, so that the camera is never leaked.
-/

namespace FaceAuth

open Foundation

/-! ## Lanes -/

namespace EngineLane

variable {engine : BiometricEngine} {lane after : EngineLane engine} {shutdown : Bool}
  {dropped : Option Nat}

/-- A request in the queue waits for a free worker. -/
def Queued (lane : EngineLane engine) : Prop :=
  lane.requests.isSome = true → lane.worker.job = none

/-- An idle lane has no job outstanding. -/
theorem outstanding_of_idle (idle : lane.Idle) : lane.outstanding = [] := by
  rw [outstanding, idle.requests, idle.worker]
  rfl

/-- A worker without a job stops without losing one. -/
theorem outstanding_stop (free : lane.worker.job = none)
    (result : Except EngineServiceError Unit) :
    (lane.stop result).outstanding = lane.outstanding ∧ (lane.stop result).Queued := by
  unfold stop
  cases requested : lane.requests with
  | none =>
      refine ⟨?_, fun _ => rfl⟩
      rw [outstanding, outstanding, free]
      rfl
  | some number =>
      refine ⟨?_, fun some_ => by cases some_⟩
      rw [outstanding, outstanding, free, requested]
      rfl

/-- A worker that goes on with its job. -/
theorem outstanding_withWorker {number : Nat} (holds : lane.worker.job = some number)
    {worker : EnginePhase engine} (same : worker.job = some number) (queued : lane.Queued) :
    (lane.withWorker worker).Queued ∧ (lane.withWorker worker).outstanding = lane.outstanding := by
  refine ⟨fun requested => ?_, ?_⟩
  · have free := queued requested
    rw [holds] at free
    cases free
  · rw [outstanding, outstanding, withWorker, same, holds]

/-- A worker with a job leaves the queue empty. -/
theorem outstanding_of_job {number : Nat} (holds : lane.worker.job = some number)
    (queued : lane.Queued) : lane.requests = none ∧ lane.outstanding = [number] := by
  have empty : lane.requests = none := by
    by_contra some_
    have free := queued (Option.isSome_iff_ne_none.mpr some_)
    rw [holds] at free
    cases free
  rw [outstanding, empty, holds]
  exact ⟨rfl, rfl⟩

/-- A step of the worker keeps the outstanding job, or drops its lease and returns. -/
theorem Advances.outstanding (advances : lane.Advances shutdown after dropped)
    (queued : lane.Queued) :
    after.Queued ∧ (dropped = none ∧ after.outstanding = lane.outstanding ∨
      ∃ number, lane.outstanding = [number] ∧ dropped = some (lane.jobs number).lease ∧
        after.outstanding = []) := by
  have goesOn : ∀ {number : Nat} {worker : EnginePhase engine}, lane.worker.job = some number →
      worker.job = some number → (lane.withWorker worker).Queued ∧
        (none = (none : Option Nat) ∧ (lane.withWorker worker).outstanding = lane.outstanding ∨
          ∃ number, lane.outstanding = [number] ∧ none = some (lane.jobs number).lease ∧
            (lane.withWorker worker).outstanding = []) := by
    intro number worker holds same
    obtain ⟨still, kept⟩ := outstanding_withWorker holds same queued
    exact ⟨still, .inl ⟨rfl, kept⟩⟩
  cases advances with
  | shut waiting requested =>
      have free : lane.worker.job = none := by rw [waiting]; rfl
      obtain ⟨kept, still⟩ := outstanding_stop free (.ok ())
      exact ⟨still, .inl ⟨rfl, kept⟩⟩
  | took waiting requested =>
      refine ⟨fun some_ => ?_, .inl ⟨rfl, ?_⟩⟩
      · cases some_
      · rw [EngineLane.outstanding, EngineLane.outstanding, requested, waiting]
        rfl
  | declined starting => exact goesOn (by rw [starting]; rfl) rfl
  | began starting => exact goesOn (by rw [starting]; rfl) rfl
  | ignored running => exact ⟨queued, .inl ⟨rfl, rfl⟩⟩
  | reports running left progress => exact goesOn (by rw [running]; rfl) rfl
  | returned running result => exact goesOn (by rw [running]; rfl) rfl
  | reported reporting => exact goesOn (by rw [reporting]; rfl) rfl
  | unreported reporting refused => exact goesOn (by rw [reporting]; rfl) rfl
  | judged finished verdict => exact goesOn (by rw [finished]; rfl) rfl
  | stores finished verdict => exact goesOn (by rw [finished]; rfl) rfl
  | stored storing kept => exact goesOn (by rw [storing]; rfl) rfl
  | completed sending => exact goesOn (by rw [sending]; rfl) rfl
  | unheard sending gone => exact goesOn (by rw [sending]; rfl) rfl
  | cleared clearing => exact goesOn (by rw [clearing]; rfl) rfl
  | @finished number dropping =>
      have holds : lane.worker.job = some number := by rw [dropping]; rfl
      obtain ⟨empty, only⟩ := outstanding_of_job holds queued
      refine ⟨fun _ => rfl, .inr ⟨number, only, rfl, ?_⟩⟩
      rw [EngineLane.outstanding, withWorker, empty]
      rfl
  | @ended number dropping =>
      have holds : lane.worker.job = some number := by rw [dropping]; rfl
      obtain ⟨empty, only⟩ := outstanding_of_job holds queued
      have stops : lane.stop (.error .resultReceiverClosed) =
          lane.withWorker (.stopped (.error .resultReceiverClosed)) := by
        rw [stop, empty]
      rw [stops]
      refine ⟨fun _ => rfl, .inr ⟨number, only, rfl, ?_⟩⟩
      rw [EngineLane.outstanding, withWorker, empty]
      rfl
  | @abandoned number result abandoning =>
      have holds : lane.worker.job = some number := by rw [abandoning]; rfl
      obtain ⟨empty, only⟩ := outstanding_of_job holds queued
      refine ⟨fun _ => rfl, .inr ⟨number, only, rfl, ?_⟩⟩
      rw [EngineLane.outstanding, withWorker, empty]
      rfl

/-- Changing a job keeps the leases of all. -/
theorem lease_setJob {change : EngineJob engine → EngineJob engine}
    (kept : ∀ job, (change job).lease = job.lease) (changed number : Nat) :
    ((lane.setJob changed change).jobs number).lease = (lane.jobs number).lease := by
  unfold setJob
  by_cases same : number = changed
  · subst same
    simp [kept]
  · simp [Function.update_of_ne same]

/-- Sending an update keeps the leases of all jobs. -/
theorem lease_send (lane : EngineLane engine) (changed : Nat) (update : EngineUpdate engine)
    (number : Nat) : ((lane.send changed update).jobs number).lease = (lane.jobs number).lease := by
  apply lease_setJob
  exact fun _ => rfl

/-- No step of the worker changes the lease of a job. -/
theorem Advances.lease (advances : lane.Advances shutdown after dropped) (number : Nat) :
    (after.jobs number).lease = (lane.jobs number).lease := by
  have stops : ∀ result, (lane.stop result).jobs = lane.jobs := by
    intro result
    unfold stop
    split <;> rfl
  cases advances with
  | shut waiting requested => rw [stops]
  | ended dropping => rw [stops]
  | reported reporting => exact lease_send _ _ _ _
  | completed sending => exact lease_send _ _ _ _
  | took _ _ | declined _ | began _ | ignored _ | reports _ _ _ | returned _ _ | unreported _ _
  | judged _ _ | stores _ _ | stored _ _ | unheard _ _ | cleared _ | finished _ | abandoned _ => rfl

/-- A worker that was stopped is not running. -/
theorem isRunning_stop (lane : EngineLane engine) (result : Except EngineServiceError Unit) :
    (lane.stop result).worker.isRunning = false := by
  unfold stop
  split <;> rfl

/-- A worker that was stopped is in no phase of a running one. -/
theorem worker_stop_ne {phase : EnginePhase engine} (running : phase.isRunning = true)
    (lane : EngineLane engine) (result : Except EngineServiceError Unit) :
    (lane.stop result).worker ≠ phase := by
  rintro rfl
  rw [isRunning_stop] at running
  cases running

/-- Stopping leaves the busy flag. -/
theorem active_stop (lane : EngineLane engine) (result : Except EngineServiceError Unit) :
    (lane.stop result).active = lane.active := by
  unfold stop
  split <;> rfl

/-- The worker never sets the busy flag, and a service that ended stays ended. -/
theorem Advances.before (advances : lane.Advances shutdown after dropped) :
    (after.active = true → lane.active = true) ∧
      (after.worker.isRunning = true → lane.worker.isRunning = true) := by
  cases advances with
  | shut waiting requested => simp [active_stop, isRunning_stop]
  | ended dropping => simp [active_stop, isRunning_stop]
  | took waiting _ => exact ⟨id, fun _ => by rw [waiting]; rfl⟩
  | ignored _ => exact ⟨id, id⟩
  | cleared clearing => exact ⟨nofun, fun _ => by rw [clearing]; rfl⟩
  | abandoned _ => exact ⟨id, nofun⟩
  | declined at_ | began at_ | reports at_ _ _ | returned at_ _ | reported at_ | unreported at_ _
  | judged at_ _ | stores at_ _ | stored at_ _ | completed at_ | unheard at_ _ | finished at_ =>
      exact ⟨id, fun _ => by rw [at_]; rfl⟩

/-- The busy flag is cleared before the job is dropped, and with it the outstanding job. -/
theorem Advances.clears (advances : lane.Advances shutdown after dropped) (queued : lane.Queued)
    (cleared : ∀ number sent, lane.worker = .dropping number sent → lane.active = false) :
    (∀ number sent, after.worker = .dropping number sent → after.active = false) ∧
      (after.worker.isRunning = true → after.active = true → lane.outstanding ≠ [] →
        after.outstanding ≠ []) := by
  have busy : after.worker.isRunning = true → after.active = true → lane.outstanding ≠ [] →
      after.outstanding ≠ [] := by
    intro running active some_
    obtain ⟨-, ⟨-, same⟩ | ⟨number, only, drops, empty⟩⟩ := advances.outstanding queued
    · rwa [same]
    · cases advances with
      | finished dropping =>
          have free := cleared _ _ dropping
          change lane.active = true at active
          rw [free] at active
          cases active
      | ended dropping =>
          rw [isRunning_stop] at running
          cases running
      | abandoned abandoning => cases running
      | _ => cases drops
  refine ⟨?_, busy⟩
  cases advances with
  | ignored running => exact cleared
  | cleared clearing => exact fun _ _ _ => rfl
  | shut _ _ => exact fun _ _ dropping => absurd dropping (worker_stop_ne rfl lane _)
  | ended _ => exact fun _ _ dropping => absurd dropping (worker_stop_ne rfl lane _)
  | _ => exact fun _ _ dropping => by cases dropping

/-- A running lane without a job takes a request. -/
theorem push_of_empty {request : EngineRequest engine} {lease : Nat}
    (running : lane.worker.isRunning = true) (empty : lane.requests = none) :
    lane.push request lease = some { lane with
      requests := some lane.jobCount
      jobs := Function.update lane.jobs lane.jobCount ⟨request, lease, false, [], [], true⟩
      jobCount := lane.jobCount + 1 } := by
  rw [push, if_pos ⟨running, empty⟩]

end EngineLane

namespace EngineSystem

variable {system : EngineSystem} {engine : BiometricEngine} {request : EngineRequest engine}
  {generation : Nat}

/-- A caller that gets the lease goes on with it. -/
theorem submit_of_acquired {arbiter : ArbiterState}
    (acquired : system.arbiter.tryAcquire request.owner = .ok (generation, arbiter)) :
    system.submit (.submit engine request) .ready =
      some ({ system with arbiter }, .leased engine request generation) := by
  rw [submit, acquired]

/-- A caller whose request is taken returns with its job. -/
theorem submit_of_pushed {lane : EngineLane engine} (choice : SubmitChoice)
    (pushed : (system.lane engine).push request generation = some lane) :
    system.submit choice (.activated engine request generation) =
      some (system.setLane engine lane, .returned engine (.ok (system.lane engine).jobCount)) := by
  rw [submit, pushed]

end EngineSystem

/-! ## Custody -/

/-- Who may hold a lease: a submission under way, or a job from its submission to the
return of `run_job`. -/
inductive EngineHolder where
  | submission (index : Nat)
  | job (engine : BiometricEngine) (number : Nat)
deriving DecidableEq, Repr

/-- The holder holds the lease of a generation. -/
def Engines.Holds (engines : Engines) : EngineHolder → Nat → Prop
  | .submission index, generation => (engines.thread index).lease = some generation
  | .job engine number, generation =>
      number ∈ (engines.shared.lane engine).outstanding ∧
        ((engines.shared.lane engine).jobs number).lease = generation

/-- At most one holds a lease, and it is the current one. -/
structure Custody (engines : Engines) (current : Option (EngineHolder × Nat)) : Prop where
  holds : ∀ holder generation, engines.Holds holder generation ↔ current = some (holder, generation)
  arbiter : engines.shared.arbiter.current = current.map Prod.snd
  queued : ∀ engine, (engines.shared.lane engine).Queued

/-- A caller holds the lease that its phase names. -/
theorem holds_submission {engines : Engines} {index generation : Nat} :
    engines.Holds (.submission index) generation ↔
      (engines.thread index).lease = some generation := Iff.rfl

/-- A job holds its lease as long as it is outstanding. -/
theorem holds_job {engines : Engines} {engine : BiometricEngine} {number generation : Nat} :
    engines.Holds (.job engine number) generation ↔
      number ∈ (engines.shared.lane engine).outstanding ∧
        ((engines.shared.lane engine).jobs number).lease = generation := Iff.rfl

section Custody

variable {engines next : Engines} {current : Option (EngineHolder × Nat)}

/-- Nobody holds a lease at the start. -/
theorem Engines.Fresh.custody (fresh : engines.Fresh) : Custody engines none := by
  refine ⟨fun holder generation => ?_, ?_, fun engine some_ => ?_⟩
  · simp only [reduceCtorEq, iff_false]
    cases holder with
    | submission index =>
        intro held
        change (engines.thread index).lease = _ at held
        rw [fresh.threads] at held
        cases held
    | job engine number =>
        rintro ⟨member, -⟩
        rw [EngineLane.outstanding_of_idle (fresh.lanes engine)] at member
        cases member
  · rw [fresh.arbiter]
    rfl
  · rw [(fresh.lanes engine).requests] at some_
    cases some_

/-- A step that moves no lease. -/
theorem Custody.kept (custody : Custody engines current)
    (threads : ∀ index, (next.thread index).lease = (engines.thread index).lease)
    (lanes : ∀ engine, (next.shared.lane engine).outstanding =
        (engines.shared.lane engine).outstanding ∧ (next.shared.lane engine).Queued ∧
      ∀ number ∈ (engines.shared.lane engine).outstanding,
        ((next.shared.lane engine).jobs number).lease =
          ((engines.shared.lane engine).jobs number).lease)
    (arbiter : next.shared.arbiter = engines.shared.arbiter) : Custody next current := by
  refine ⟨fun holder generation => ?_, ?_, fun engine => (lanes engine).2.1⟩
  · rw [← custody.holds]
    cases holder with
    | submission index =>
        rw [holds_submission, holds_submission, threads]
    | job engine number =>
        obtain ⟨same, -, leases⟩ := lanes engine
        rw [holds_job, holds_job, same]
        exact and_congr_right fun member => by rw [leases number member]
  · rw [arbiter]
    exact custody.arbiter

/-- The holder of the lease drops it. -/
theorem Custody.dropped {holder : EngineHolder} {generation : Nat}
    (custody : Custody engines current) (held : engines.Holds holder generation)
    (none_ : ∀ other, ∀ generation, next.Holds other generation →
      other ≠ holder ∧ engines.Holds other generation)
    (queued : ∀ engine, (next.shared.lane engine).Queued)
    (arbiter : next.shared.arbiter = engines.shared.arbiter.release generation) :
    Custody next none := by
  have same := (custody.holds holder generation).mp held
  refine ⟨fun other later => ?_, ?_, queued⟩
  · simp only [reduceCtorEq, iff_false]
    intro holds
    obtain ⟨another, before⟩ := none_ other later holds
    have again := (custody.holds other later).mp before
    rw [same, Option.some.injEq, Prod.mk.injEq] at again
    exact another again.1.symm
  · have now : engines.shared.arbiter.current = some generation := by
      rw [custody.arbiter, same]
      rfl
    rw [arbiter, ArbiterState.release_current now]
    rfl

/-- While a submission holds the lease, no job is outstanding. -/
theorem Custody.outstanding_of_submission {index generation : Nat}
    (custody : Custody engines current)
    (held : (engines.thread index).lease = some generation) (engine : BiometricEngine) :
    (engines.shared.lane engine).outstanding = [] := by
  have same := (custody.holds (.submission index) generation).mp held
  refine List.eq_nil_iff_forall_not_mem.mpr fun number member => ?_
  have other := (custody.holds (.job engine number) _).mp ⟨member, rfl⟩
  rw [same, Option.some.injEq, Prod.mk.injEq] at other
  cases other.1

/-- No other submission holds a lease. -/
theorem Custody.submission_unique {index other generation later : Nat}
    (custody : Custody engines current) (held : (engines.thread index).lease = some generation)
    (also : (engines.thread other).lease = some later) : other = index := by
  have same := (custody.holds (.submission index) generation).mp held
  have again := (custody.holds (.submission other) later).mp also
  rw [same, Option.some.injEq, Prod.mk.injEq, EngineHolder.submission.injEq] at again
  exact again.1.symm

/-- A caller that keeps its lease changes nobody's. -/
theorem lease_update {threads : Nat → Submission} {index : Nat} {own : Submission}
    (same : own.lease = (threads index).lease) (other : Nat) :
    (Function.update threads index own other).lease = (threads other).lease := by
  by_cases moved : other = index
  · subst moved
    rw [Function.update_self, same]
  · rw [Function.update_of_ne moved]

/-- A change of one lane that moves no lease. -/
theorem lanes_setLane {system : EngineSystem} {engine : BiometricEngine}
    {lane : EngineLane engine} (queued : ∀ engine, (system.lane engine).Queued)
    (still : lane.Queued) (same : lane.outstanding = (system.lane engine).outstanding)
    (leases : ∀ number, (lane.jobs number).lease = ((system.lane engine).jobs number).lease)
    (other : BiometricEngine) :
    ((system.setLane engine lane).lane other).outstanding = (system.lane other).outstanding ∧
      ((system.setLane engine lane).lane other).Queued ∧
      ∀ number ∈ (system.lane other).outstanding,
        (((system.setLane engine lane).lane other).jobs number).lease =
          ((system.lane other).jobs number).lease := by
  by_cases moved : other = engine
  · subst moved
    rw [EngineSystem.lane_setLane_self]
    exact ⟨same, still, fun number _ => leases number⟩
  · rw [EngineSystem.lane_setLane_of_ne _ _ moved]
    exact ⟨rfl, queued other, fun _ _ => rfl⟩

/-- A submission drops its lease. -/
theorem Custody.submission_drops {index generation : Nat} {own : Submission}
    (custody : Custody engines current)
    (held : (engines.thread index).lease = some generation) (free : own.lease = none) :
    Custody ⟨engines.shared.release generation, Function.update engines.thread index own⟩ none := by
  have holds : engines.Holds (.submission index) generation := held
  refine custody.dropped holds ?_ custody.queued rfl
  intro other later still
  cases other with
  | submission another =>
      rw [holds_submission] at still
      dsimp only at still
      by_cases same : another = index
      · rw [same, Function.update_self, free] at still
        cases still
      · rw [Function.update_of_ne same] at still
        exact ⟨fun again => same (EngineHolder.submission.inj again), still⟩
  | job engine number => exact ⟨nofun, still⟩

/-- A free arbiter lends the camera to a submission. -/
theorem Custody.acquires {index generation : Nat} {own : Submission}
    {owner : BiometricResourceOwner} {counter : Nat} (custody : Custody engines current)
    (free : engines.shared.arbiter.active = none) (held : own.lease = some generation) :
    Custody ⟨{ engines.shared with arbiter := ⟨counter, some ⟨generation, owner⟩⟩ },
      Function.update engines.thread index own⟩ (some (.submission index, generation)) := by
  have nobody : ∀ holder later, ¬ engines.Holds holder later := by
    intro holder later holds
    have active := custody.arbiter
    rw [(custody.holds holder later).mp holds, ArbiterState.current, free] at active
    cases active
  refine ⟨fun holder later => ?_, rfl, custody.queued⟩
  rw [Option.some.injEq, Prod.mk.injEq]
  constructor
  · intro holds
    cases holder with
    | submission another =>
        rw [holds_submission] at holds
        dsimp only at holds
        by_cases same : another = index
        · rw [same, Function.update_self, held, Option.some.injEq] at holds
          exact ⟨by rw [same], holds⟩
        · rw [Function.update_of_ne same] at holds
          exact (nobody (.submission another) later holds).elim
    | job engine number => exact (nobody (.job engine number) later holds).elim
  · rintro ⟨rfl, rfl⟩
    rw [holds_submission]
    dsimp only
    rw [Function.update_self, held]

/-- A submission hands its lease to its job. -/
theorem Custody.enqueues {index generation : Nat} {own : Submission} {engine : BiometricEngine}
    {lane : EngineLane engine} {number : Nat} (custody : Custody engines current)
    (held : (engines.thread index).lease = some generation) (free : own.lease = none)
    (queued : lane.requests = some number) (waiting : lane.worker.job = none)
    (lease : (lane.jobs number).lease = generation) :
    Custody ⟨engines.shared.setLane engine lane, Function.update engines.thread index own⟩
      (some (.job engine number, generation)) := by
  have same := (custody.holds (.submission index) generation).mp held
  have only : lane.outstanding = [number] := by
    rw [EngineLane.outstanding, queued, waiting]
    rfl
  refine ⟨fun holder later => ?_, ?_, fun other => ?_⟩
  · rw [Option.some.injEq, Prod.mk.injEq]
    cases holder with
    | submission another =>
        rw [holds_submission]
        dsimp only
        simp only [reduceCtorEq, false_and, iff_false]
        by_cases moved : another = index
        · rw [moved, Function.update_self, free]
          exact nofun
        · rw [Function.update_of_ne moved]
          exact fun holds => moved (custody.submission_unique held holds)
    | job other another =>
        rw [holds_job]
        dsimp only
        by_cases moved : other = engine
        · subst moved
          rw [EngineSystem.lane_setLane_self, only, List.mem_singleton]
          constructor
          · rintro ⟨rfl, rfl⟩
            exact ⟨rfl, lease.symm⟩
          · rintro ⟨again, rfl⟩
            cases again
            exact ⟨rfl, lease⟩
        · rw [EngineSystem.lane_setLane_of_ne _ _ moved,
            custody.outstanding_of_submission held other]
          constructor
          · rintro ⟨member, -⟩
            cases member
          · rintro ⟨again, -⟩
            exact (moved (EngineHolder.job.inj again).1.symm).elim
  · change engines.shared.arbiter.current = _
    rw [custody.arbiter, same]
    rfl
  · by_cases moved : other = engine
    · subst moved
      rw [EngineSystem.lane_setLane_self]
      exact fun _ => waiting
    · rw [EngineSystem.lane_setLane_of_ne _ _ moved]
      exact custody.queued other

/-- A section of a submission moves at most its own lease. -/
theorem Custody.submits {index : Nat} {system : EngineSystem} {own : Submission}
    (custody : Custody engines current)
    (submits : engines.shared.Submits (engines.thread index) system own) :
    ∃ later, Custody ⟨system, Function.update engines.thread index own⟩ later := by
  have lanes : ∀ engine, (engines.shared.lane engine).outstanding =
      (engines.shared.lane engine).outstanding ∧ (engines.shared.lane engine).Queued ∧
        ∀ number ∈ (engines.shared.lane engine).outstanding,
          ((engines.shared.lane engine).jobs number).lease =
            ((engines.shared.lane engine).jobs number).lease :=
    fun engine => ⟨rfl, custody.queued engine, fun _ _ => rfl⟩
  generalize at_ : engines.thread index = before at submits
  cases submits with
  | denied outcome refused =>
      exact ⟨current, custody.kept (lease_update (by rw [at_]; rfl)) lanes rfl⟩
  | acquired free fits => exact ⟨_, custody.acquires free rfl⟩
  | contended busy =>
      exact ⟨current, custody.kept (lease_update (by rw [at_]; rfl)) lanes rfl⟩
  | @activated engine request generation idle =>
      refine ⟨current, custody.kept (lease_update (by rw [at_]; rfl)) ?_ rfl⟩
      exact lanes_setLane custody.queued (custody.queued engine) rfl fun _ => rfl
  | @enqueued engine request generation running empty =>
      have held : (engines.thread index).lease = some generation := by rw [at_]; rfl
      have none_ := custody.outstanding_of_submission held engine
      have waiting : (engines.shared.lane engine).worker.job = none := by
        rw [EngineLane.outstanding, empty] at none_
        exact Option.toList_eq_nil_iff.mp none_
      refine ⟨_, custody.enqueues held rfl rfl waiting ?_⟩
      dsimp only
      rw [Function.update_self]
  | disconnected failed =>
      exact ⟨current, custody.kept (lease_update (by rw [at_]; rfl)) lanes rfl⟩
  | gaveUp => exact ⟨none, custody.submission_drops (by rw [at_]; rfl) rfl⟩
  | dropped => exact ⟨none, custody.submission_drops (by rw [at_]; rfl) rfl⟩
  | @deactivated engine =>
      refine ⟨current, custody.kept (lease_update (by rw [at_]; rfl)) ?_ rfl⟩
      exact lanes_setLane custody.queued (custody.queued engine) rfl fun _ => rfl

/-- An event moves at most the lease of the job that a worker is done with. -/
theorem Custody.occurs {event : EngineEvent} {system : EngineSystem}
    (custody : Custody engines current) (occurs : engines.shared.Occurs event system) :
    ∃ later, Custody ⟨system, engines.thread⟩ later := by
  have changed : ∀ (engine : BiometricEngine) (number : Nat)
      (change : EngineJob engine → EngineJob engine), (∀ job, (change job).lease = job.lease) →
      Custody ⟨engines.shared.setLane engine ((engines.shared.lane engine).setJob number change),
        engines.thread⟩ current := by
    intro engine number change kept
    refine custody.kept (fun _ => rfl) ?_ rfl
    exact lanes_setLane custody.queued (custody.queued engine) rfl
      (EngineLane.lease_setJob kept number)
  cases occurs with
  | @worked engine choice lane dropped advances =>
      obtain ⟨still, ⟨rfl, same⟩ | ⟨number, only, rfl, empty⟩⟩ :=
        advances.outstanding (custody.queued engine)
      · refine ⟨current, custody.kept (fun _ => rfl) ?_ rfl⟩
        exact lanes_setLane custody.queued still same advances.lease
      · have held : engines.Holds (.job engine number)
            ((engines.shared.lane engine).jobs number).lease := by
          rw [holds_job, only]
          exact ⟨List.mem_singleton_self number, rfl⟩
        refine ⟨none, custody.dropped held ?_ ?_ rfl⟩
        · intro other later still
          cases other with
          | submission index => exact ⟨nofun, still⟩
          | job another job =>
              rw [holds_job] at still
              change job ∈ ((engines.shared.setLane engine lane).lane another).outstanding ∧
                (((engines.shared.setLane engine lane).lane another).jobs job).lease =
                  later at still
              by_cases moved : another = engine
              · subst moved
                rw [EngineSystem.lane_setLane_self, empty] at still
                cases still.1
              · rw [EngineSystem.lane_setLane_of_ne _ _ moved] at still
                exact ⟨fun again => moved (EngineHolder.job.inj again).1, still⟩
        · intro another
          change ((engines.shared.setLane engine lane).lane another).Queued
          by_cases moved : another = engine
          · subst moved
            rwa [EngineSystem.lane_setLane_self]
          · rw [EngineSystem.lane_setLane_of_ne _ _ moved]
            exact custody.queued another
  | cancelled known => exact ⟨current, changed _ _ _ fun _ => rfl⟩
  | received listens head => exact ⟨current, changed _ _ _ fun _ => rfl⟩
  | left listens => exact ⟨current, changed _ _ _ fun _ => rfl⟩
  | shut =>
      exact ⟨current, custody.kept (fun _ => rfl)
        (fun engine => ⟨rfl, custody.queued engine, fun _ _ => rfl⟩) rfl⟩

/-- One turn hands the lease on, or leaves it where it is. -/
theorem Custody.step {turn : Turn SubmitChoice EngineEvent} (custody : Custody engines current)
    (taken : engineProgram.step engines turn = some next) : ∃ later, Custody next later := by
  cases turn with
  | thread index choice =>
      obtain ⟨system, own, submitted, rfl⟩ := Program.step_thread_eq_some_iff.mp taken
      exact custody.submits (EngineSystem.submit_cases submitted)
  | event event =>
      obtain ⟨system, occurred, rfl⟩ := Program.step_event_eq_some_iff.mp taken
      exact custody.occurs (EngineSystem.occur_cases occurred)

end Custody

/-! ## The busy flags -/

/-- The busy flag of a running service is set for an outstanding job, or for a submission
that is about to send one. A worker that drops its job has cleared it. -/
structure Engines.Flagged (engines : Engines) (engine : BiometricEngine) : Prop where
  set : (engines.shared.lane engine).worker.isRunning = true →
    (engines.shared.lane engine).active = true →
      (engines.shared.lane engine).outstanding ≠ [] ∨ ∃ index request generation,
        engines.thread index = .activated engine request generation
  cleared : ∀ number sent, (engines.shared.lane engine).worker = .dropping number sent →
    (engines.shared.lane engine).active = false

section Flags

variable {engines next : Engines} {engine : BiometricEngine}

/-- No lane is busy at the start. -/
theorem Engines.Fresh.flagged (fresh : engines.Fresh) (engine : BiometricEngine) :
    engines.Flagged engine := by
  constructor
  · intro running active
    rw [(fresh.lanes engine).active] at active
    cases active
  · intro number sent dropping
    rw [(fresh.lanes engine).worker] at dropping
    cases dropping

/-- A step that leaves the lane and its submissions as they are. -/
theorem Engines.Flagged.kept (flagged : engines.Flagged engine)
    (lane : next.shared.lane engine = engines.shared.lane engine)
    (threads : ∀ index request generation,
      engines.thread index = .activated engine request generation →
        next.thread index = .activated engine request generation) : next.Flagged engine := by
  constructor
  · rw [lane]
    intro running active
    refine (flagged.set running active).imp id ?_
    rintro ⟨index, request, generation, at_⟩
    exact ⟨index, request, generation, threads _ _ _ at_⟩
  · rw [lane]
    exact flagged.cleared

/-- A submission that is not about to send a job moves no flag by its own state. -/
theorem threads_update {threads : Nat → Submission} {index : Nat} {own : Submission}
    (other : ∀ request generation, threads index ≠ .activated engine request generation)
    (another : Nat) (request : EngineRequest engine) (generation : Nat)
    (at_ : threads another = .activated engine request generation) :
    Function.update threads index own another = .activated engine request generation := by
  by_cases same : another = index
  · subst same
    exact (other _ _ at_).elim
  · rw [Function.update_of_ne same, at_]

/-- The busy flag accounts for its holder after a step of a caller. -/
theorem Engines.Flagged.submits {index : Nat} {system : EngineSystem} {own : Submission}
    {current : Option (EngineHolder × Nat)} (custody : Custody engines current)
    (flagged : engines.Flagged engine)
    (submits : engines.shared.Submits (engines.thread index) system own) :
    Engines.Flagged ⟨system, Function.update engines.thread index own⟩ engine := by
  generalize at_ : engines.thread index = before at submits
  cases submits with
  | denied outcome refused => exact flagged.kept rfl (threads_update (by simp [at_]))
  | acquired free fits => exact flagged.kept rfl (threads_update (by simp [at_]))
  | contended busy => exact flagged.kept rfl (threads_update (by simp [at_]))
  | @activated other request generation idle =>
      by_cases same : engine = other
      · subst same
        have held : (engines.thread index).lease = some generation := by rw [at_]; rfl
        constructor
        · exact fun _ _ => .inr ⟨index, request, generation, Function.update_self ..⟩
        · intro number sent dropping
          rw [EngineSystem.lane_setLane_self] at dropping
          have none_ := custody.outstanding_of_submission held engine
          rw [EngineLane.outstanding, dropping] at none_
          simp [EnginePhase.job] at none_
      · exact flagged.kept (EngineSystem.lane_setLane_of_ne _ _ same)
          (threads_update (by simp [at_]))
  | @enqueued other request generation running empty =>
      by_cases same : engine = other
      · subst same
        constructor
        · intro _ _
          rw [EngineSystem.lane_setLane_self]
          exact .inl (by simp [EngineLane.outstanding])
        · intro number sent dropping
          rw [EngineSystem.lane_setLane_self] at dropping ⊢
          exact flagged.cleared number sent dropping
      · refine flagged.kept (EngineSystem.lane_setLane_of_ne _ _ same) (threads_update ?_)
        intro request generation again
        rw [at_] at again
        cases again
        exact same rfl
  | @disconnected other request generation failed =>
      by_cases same : engine = other
      · subst same
        constructor
        · intro running active
          refine .inl fun none_ => failed ⟨running, ?_⟩
          rw [EngineLane.outstanding, List.append_eq_nil_iff] at none_
          exact Option.toList_eq_nil_iff.mp none_.1
        · exact flagged.cleared
      · refine flagged.kept rfl (threads_update ?_)
        intro request generation again
        rw [at_] at again
        cases again
        exact same rfl
  | gaveUp => exact flagged.kept rfl (threads_update (by simp [at_]))
  | dropped => exact flagged.kept rfl (threads_update (by simp [at_]))
  | @deactivated other =>
      by_cases same : engine = other
      · subst same
        constructor
        · intro _ active
          rw [EngineSystem.lane_setLane_self] at active
          cases active
        · intro number sent dropping
          rw [EngineSystem.lane_setLane_self]
      · exact flagged.kept (EngineSystem.lane_setLane_of_ne _ _ same)
          (threads_update (by simp [at_]))

/-- The busy flag accounts for its holder after anything else. -/
theorem Engines.Flagged.occurs {event : EngineEvent} {system : EngineSystem}
    {current : Option (EngineHolder × Nat)} (custody : Custody engines current)
    (flagged : engines.Flagged engine) (occurs : engines.shared.Occurs event system) :
    Engines.Flagged ⟨system, engines.thread⟩ engine := by
  have changed : ∀ (other : BiometricEngine) (number : Nat)
      (change : EngineJob other → EngineJob other), Engines.Flagged
        ⟨engines.shared.setLane other ((engines.shared.lane other).setJob number change),
          engines.thread⟩ engine := by
    intro other number change
    by_cases same : engine = other
    · subst same
      constructor
      · rw [EngineSystem.lane_setLane_self]
        exact flagged.set
      · rw [EngineSystem.lane_setLane_self]
        exact flagged.cleared
    · exact flagged.kept (EngineSystem.lane_setLane_of_ne _ _ same) fun _ _ _ at_ => at_
  cases occurs with
  | @worked other choice lane dropped advances =>
      have moved : (dropped.elim (engines.shared.setLane other lane)
          (engines.shared.setLane other lane).release).lane =
            (engines.shared.setLane other lane).lane := by
        cases dropped <;> rfl
      by_cases same : engine = other
      · subst same
        obtain ⟨active, running⟩ := advances.before
        obtain ⟨cleared, busy⟩ := advances.clears (custody.queued engine) flagged.cleared
        constructor
        · rw [moved, EngineSystem.lane_setLane_self]
          intro goes set
          exact (flagged.set (running goes) (active set)).imp (busy goes set) id
        · rw [moved, EngineSystem.lane_setLane_self]
          exact cleared
      · refine flagged.kept ?_ fun _ _ _ at_ => at_
        rw [moved]
        exact EngineSystem.lane_setLane_of_ne _ _ same
  | cancelled known => exact changed _ _ _
  | received listens head => exact changed _ _ _
  | left listens => exact changed _ _ _
  | shut => exact flagged.kept rfl fun _ _ _ at_ => at_

/-- What holds in every state of a run: one holder of the camera, and flags that fit. -/
structure Engines.Lawful (engines : Engines) : Prop where
  custody : ∃ current, Custody engines current
  flagged : ∀ engine, engines.Flagged engine

/-- One turn keeps the law. -/
theorem Engines.Lawful.step {turn : Turn SubmitChoice EngineEvent} (lawful : engines.Lawful)
    (taken : engineProgram.step engines turn = some next) : next.Lawful := by
  obtain ⟨current, custody⟩ := lawful.custody
  refine ⟨custody.step taken, fun engine => ?_⟩
  cases turn with
  | thread index choice =>
      obtain ⟨system, own, submitted, rfl⟩ := Program.step_thread_eq_some_iff.mp taken
      exact (lawful.flagged engine).submits custody (EngineSystem.submit_cases submitted)
  | event event =>
      obtain ⟨system, occurred, rfl⟩ := Program.step_event_eq_some_iff.mp taken
      exact (lawful.flagged engine).occurs custody (EngineSystem.occur_cases occurred)

/-- The law holds wherever a fresh system gets. -/
theorem Engines.Lawful.reaches {allowed : Engines → Turn SubmitChoice EngineEvent → Prop}
    {start : Engines} (fresh : start.Fresh)
    (reached : engineProgram.Reaches allowed start engines) : engines.Lawful :=
  reached.invariant ⟨⟨none, fresh.custody⟩, fresh.flagged⟩ fun _ _ _ lawful _ taken =>
    lawful.step taken

end Flags

/-! ## The camera -/

/-- The outstanding jobs of both services. -/
def Engines.outstanding (engines : Engines) : List (BiometricEngine × Nat) :=
  (engines.shared.lane .authentication).outstanding.map (Prod.mk .authentication) ++
    (engines.shared.lane .enrollment).outstanding.map (Prod.mk .enrollment)

/-- The camera is lent to one job at a time, a submission meanwhile is refused, a lease ends
with its holder only, and a free camera is lent to the next submission. -/
structure CameraExclusivity (engines : Engines) : Prop where
  single : engines.outstanding.length ≤ 1
  busy : engines.outstanding ≠ [] → ∀ index, engines.thread index = .ready →
    ∀ engine request, engineProgram.step engines (.thread index (.submit engine request)) =
      some ⟨engines.shared, Function.update engines.thread index (.returned engine (.error .busy))⟩
  held : ∀ generation, engines.shared.arbiter.current = some generation →
    ∃ holder, engines.Holds holder generation
  ends : ∀ turn (next : Engines), engineProgram.step engines turn = some next →
    ∀ generation, engines.shared.arbiter.current = some generation →
      next.shared.arbiter.current ≠ some generation →
        ∃ holder, engines.Holds holder generation ∧ ¬ next.Holds holder generation
  acquires : engines.outstanding = [] → (∀ index, (engines.thread index).lease = none) →
    engines.shared.arbiter.nextGeneration < U64_MAX → ∀ index, engines.thread index = .ready →
      ∀ engine request, ∃ next,
        engineProgram.step engines (.thread index (.submit engine request)) = some next ∧
          next.thread index =
            .leased engine request (engines.shared.arbiter.nextGeneration + 1)
  activates : ∀ index engine request generation,
    engines.thread index = .leased engine request generation →
      (engines.shared.lane engine).worker.isRunning = true →
        ∃ next, engineProgram.step engines (.thread index .proceed) = some next ∧
          next.thread index = .activated engine request generation
  sends : ∀ index engine request generation,
    engines.thread index = .activated engine request generation →
      (engines.shared.lane engine).worker.isRunning = true →
        ∃ (next : Engines) (number : Nat),
          engineProgram.step engines (.thread index .proceed) = some next ∧
            next.thread index = .returned engine (.ok number) ∧
              next.outstanding = [(engine, number)]

section Camera

variable {engines next : Engines} {current : Option (EngineHolder × Nat)}

/-- A job is outstanding when its lane says so. -/
theorem mem_outstanding {engine : BiometricEngine} {number : Nat} :
    (engine, number) ∈ engines.outstanding ↔
      number ∈ (engines.shared.lane engine).outstanding := by
  cases engine <;> simp [Engines.outstanding]

/-- A lane has one job outstanding at most. -/
theorem EngineLane.length_outstanding_le {engine : BiometricEngine} {lane : EngineLane engine}
    (queued : lane.Queued) : lane.outstanding.length ≤ 1 := by
  unfold EngineLane.outstanding
  cases requested : lane.requests with
  | none => cases lane.worker.job <;> simp
  | some number =>
      rw [queued (by rw [requested]; rfl)]
      simp

/-- Every outstanding job is the holder of the current lease. -/
theorem Custody.outstanding (custody : Custody engines current) {engine : BiometricEngine}
    {number : Nat} (member : number ∈ (engines.shared.lane engine).outstanding) :
    current = some (.job engine number, ((engines.shared.lane engine).jobs number).lease) :=
  (custody.holds (.job engine number) _).mp ⟨member, rfl⟩

/-- One job is outstanding at most, over both engines. -/
theorem Custody.single (custody : Custody engines current) : engines.outstanding.length ≤ 1 := by
  have first := EngineLane.length_outstanding_le (custody.queued .authentication)
  have second := EngineLane.length_outstanding_le (custody.queued .enrollment)
  rw [Engines.outstanding, List.length_append, List.length_map, List.length_map]
  by_contra many
  obtain ⟨job, one⟩ := List.length_pos_iff_exists_mem.mp (show 0 <
    (engines.shared.lane .authentication).outstanding.length by omega)
  obtain ⟨other, two⟩ := List.length_pos_iff_exists_mem.mp (show 0 <
    (engines.shared.lane .enrollment).outstanding.length by omega)
  have same := (custody.outstanding one).symm.trans (custody.outstanding two)
  cases same

/-- While a job is outstanding the lease is out. -/
theorem Custody.busy (custody : Custody engines current) (some_ : engines.outstanding ≠ []) :
    ∃ lease, engines.shared.arbiter.active = some lease := by
  obtain ⟨⟨engine, number⟩, member⟩ := List.exists_mem_of_ne_nil _ some_
  have active := custody.arbiter
  rw [custody.outstanding (mem_outstanding.mp member)] at active
  obtain ⟨lease, found, -⟩ := Option.map_eq_some_iff.mp active
  exact ⟨lease, found⟩

/-- A submission that holds the lease finds the busy flag clear. -/
theorem Engines.Lawful.idle {index generation : Nat} {engine : BiometricEngine}
    {request : EngineRequest engine} (lawful : engines.Lawful)
    (at_ : engines.thread index = .leased engine request generation)
    (running : (engines.shared.lane engine).worker.isRunning = true) :
    (engines.shared.lane engine).active = false := by
  obtain ⟨current, custody⟩ := lawful.custody
  have held : (engines.thread index).lease = some generation := by rw [at_]; rfl
  by_contra set
  rcases (lawful.flagged engine).set running (eq_true_of_ne_false set) with
    some_ | ⟨other, another, later, also⟩
  · exact some_ (custody.outstanding_of_submission held engine)
  · have holds : (engines.thread other).lease = some later := by rw [also]; rfl
    rw [custody.submission_unique held holds, at_] at also
    cases also

/-- The holder of a lease that a turn ends gave it up. -/
theorem Custody.ends {later : Option (EngineHolder × Nat)} {generation : Nat}
    (custody : Custody engines current) (after : Custody next later)
    (now : engines.shared.arbiter.current = some generation)
    (over_ : next.shared.arbiter.current ≠ some generation) :
    ∃ holder, engines.Holds holder generation ∧ ¬ next.Holds holder generation := by
  rw [custody.arbiter] at now
  obtain ⟨⟨holder, lease⟩, here, rfl⟩ := Option.map_eq_some_iff.mp now
  refine ⟨holder, (custody.holds holder lease).mpr here, fun still => over_ ?_⟩
  rw [after.arbiter, (after.holds holder lease).mp still]
  rfl

/-- Without an outstanding job and a submission under way, the camera is free. -/
theorem Custody.free (custody : Custody engines current) (none_ : engines.outstanding = [])
    (quiet : ∀ index, (engines.thread index).lease = none) :
    engines.shared.arbiter.active = none := by
  have idle : current = none := by
    by_contra some_
    obtain ⟨⟨holder, generation⟩, here⟩ := Option.ne_none_iff_exists'.mp some_
    have holds := (custody.holds holder generation).mpr here
    cases holder with
    | submission index =>
        rw [holds_submission, quiet] at holds
        cases holds
    | job engine number =>
        have member := mem_outstanding.mpr holds.1
        rw [none_] at member
        cases member
  have none_ := custody.arbiter
  rw [idle] at none_
  exact Option.map_eq_none_iff.mp none_

/-- While a job is outstanding every other request is refused. -/
theorem Custody.refuses (custody : Custody engines current) (some_ : engines.outstanding ≠ [])
    {index : Nat} (ready : engines.thread index = .ready) (engine : BiometricEngine)
    (request : EngineRequest engine) :
    engineProgram.step engines (.thread index (.submit engine request)) =
      some ⟨engines.shared,
        Function.update engines.thread index (.returned engine (.error .busy))⟩ := by
  obtain ⟨lease, taken⟩ := custody.busy some_
  refine Program.step_thread_eq_some_iff.mpr ⟨_, _, ?_, rfl⟩
  dsimp only [engineProgram]
  rw [ready, EngineSystem.submit, ArbiterState.tryAcquire_of_active taken]

/-- A section of a submission is a turn of its thread. -/
theorem step_submission {index : Nat} {choice : SubmitChoice} {before own : Submission}
    {system : EngineSystem} (at_ : engines.thread index = before)
    (submitted : engines.shared.submit choice before = some (system, own)) :
    ∃ next : Engines, engineProgram.step engines (.thread index choice) = some next ∧
      next.shared = system ∧ next.thread = Function.update engines.thread index own := by
  subst at_
  exact ⟨_, Program.step_thread_eq_some_iff.mpr ⟨system, own, submitted, rfl⟩, rfl, rfl⟩

/-- With no job and no other caller the lease is lent. -/
theorem Custody.lends (custody : Custody engines current) (none_ : engines.outstanding = [])
    (quiet : ∀ index, (engines.thread index).lease = none)
    (left : engines.shared.arbiter.nextGeneration < U64_MAX) {index : Nat}
    (ready : engines.thread index = .ready) (engine : BiometricEngine)
    (request : EngineRequest engine) :
    ∃ next : Engines,
      engineProgram.step engines (.thread index (.submit engine request)) = some next ∧
        next.thread index =
          .leased engine request (engines.shared.arbiter.nextGeneration + 1) := by
  have acquired : engines.shared.arbiter.tryAcquire request.owner = _ :=
    ArbiterState.tryAcquire_eq_ok_iff.mpr ⟨custody.free none_ quiet, left, rfl, rfl⟩
  obtain ⟨next, taken, -, own⟩ :=
    step_submission ready (EngineSystem.submit_of_acquired acquired)
  exact ⟨next, taken, own ▸ Function.update_self ..⟩

/-- A caller with the lease finds its lane free. -/
theorem Engines.Lawful.activates (lawful : engines.Lawful) {index generation : Nat}
    {engine : BiometricEngine} {request : EngineRequest engine}
    (at_ : engines.thread index = .leased engine request generation)
    (running : (engines.shared.lane engine).worker.isRunning = true) :
    ∃ next : Engines, engineProgram.step engines (.thread index .proceed) = some next ∧
      next.thread index = .activated engine request generation := by
  have submitted : engines.shared.submit .proceed (.leased engine request generation) = some
      (engines.shared.setLane engine { engines.shared.lane engine with active := true },
        .activated engine request generation) := by
    rw [EngineSystem.submit, lawful.idle at_ running]
    rfl
  obtain ⟨next, taken, -, own⟩ := step_submission at_ submitted
  exact ⟨next, taken, own ▸ Function.update_self ..⟩

/-- A caller with an activated lane has its request taken, and its job is the only one. -/
theorem Custody.sends (custody : Custody engines current) {index generation : Nat}
    {engine : BiometricEngine} {request : EngineRequest engine}
    (at_ : engines.thread index = .activated engine request generation)
    (running : (engines.shared.lane engine).worker.isRunning = true) :
    ∃ (next : Engines) (number : Nat),
      engineProgram.step engines (.thread index .proceed) = some next ∧
        next.thread index = .returned engine (.ok number) ∧
          next.outstanding = [(engine, number)] := by
  have held : (engines.thread index).lease = some generation := by rw [at_]; rfl
  have none_ := custody.outstanding_of_submission held
  have both := none_ engine
  rw [EngineLane.outstanding, List.append_eq_nil_iff] at both
  have empty := Option.toList_eq_nil_iff.mp both.1
  obtain ⟨next, taken, shared, own⟩ := step_submission at_
    (EngineSystem.submit_of_pushed .proceed (EngineLane.push_of_empty running empty))
  refine ⟨next, _, taken, own ▸ Function.update_self .., ?_⟩
  have mine : (next.shared.lane engine).outstanding = [(engines.shared.lane engine).jobCount] := by
    rw [shared, EngineSystem.lane_setLane_self, EngineLane.outstanding, both.2]
    rfl
  have others : ∀ other, other ≠ engine → (next.shared.lane other).outstanding = [] := by
    intro other distinct
    rw [shared, EngineSystem.lane_setLane_of_ne _ _ distinct, none_]
  cases engine with
  | authentication =>
      rw [Engines.outstanding, mine, others .enrollment (by decide)]
      rfl
  | enrollment =>
      rw [Engines.outstanding, mine, others .authentication (by decide)]
      rfl

/-- In every state of a run, the camera has one holder and is not leaked. -/
theorem camera_exclusivity {start engines : Engines} (fresh : start.Fresh)
    (reached : engineProgram.Reaches (fun _ _ => True) start engines) :
    CameraExclusivity engines := by
  have lawful := Engines.Lawful.reaches fresh reached
  obtain ⟨current, custody⟩ := lawful.custody
  constructor
  · exact custody.single
  · exact fun some_ index ready engine request => custody.refuses some_ ready engine request
  · intro generation now
    rw [custody.arbiter] at now
    obtain ⟨⟨holder, lease⟩, here, rfl⟩ := Option.map_eq_some_iff.mp now
    exact ⟨holder, (custody.holds holder lease).mpr here⟩
  · intro turn next taken generation now gone
    obtain ⟨later, after⟩ := (lawful.step taken).custody
    exact custody.ends after now gone
  · exact fun none_ quiet left index ready engine request =>
      custody.lends none_ quiet left ready engine request
  · exact fun index engine request generation at_ running => lawful.activates at_ running
  · exact fun index engine request generation at_ running => custody.sends at_ running

/-- A client submits a job and drops its handle before the terminal update. -/
def clientLoss : List (Turn SubmitChoice EngineEvent) :=
  [.thread 0 (.submit .authentication ⟨⟨1⟩, 0⟩), .thread 0 .proceed, .thread 0 .proceed,
    .event (.dropHandle .authentication 0), .event (.worker .authentication .take),
    .event (.worker .authentication .proceed),
    .event (.worker .authentication (.finish (.error .capture))),
    .event (.worker .authentication .proceed), .event (.worker .authentication .proceed),
    .event (.worker .authentication .proceed), .event (.worker .authentication .proceed)]

/-- The camera stays with one job although a client is lost. -/
theorem camera_exclusivity_clientLoss :
    CameraExclusivity (engineProgram.after Engines.start clientLoss) := by
  have lost : engineProgram.Obeys (fun _ _ => True) Engines.start clientLoss := by decide
  exact camera_exclusivity Engines.fresh_start lost.reaches

/-- A submission from the beginning, alone, ends with this error. -/
def Engines.Refuses (engines : Engines) (error : EngineSubmitError) : Prop :=
  ∃ (index : Nat) (engine : BiometricEngine) (request : EngineRequest engine) (count : Nat)
    (refused : Engines), engines.thread index = .ready ∧
      engineProgram.execute engines (.thread index (.submit engine request) ::
        List.replicate count (.thread index .proceed)) = some refused ∧
      refused.thread index = .returned engine (.error error)

/-- The authentication service has ended, no submission is under way, and this many leases
were granted. -/
structure Engines.Spent (engines : Engines) (count : Nat) : Prop where
  arbiter : engines.shared.arbiter = ⟨count, none⟩
  worker : (engines.shared.lane .authentication).worker.isRunning = false
  active : (engines.shared.lane .authentication).active = false
  outstanding : engines.outstanding = []
  ready : ∀ index, count ≤ index → engines.thread index = .ready

/-- A submission to a service that has ended uses up a generation. -/
theorem Engines.Spent.step {count : Nat} (spent : engines.Spent count)
    (left : count + 1 ≤ U64_MAX) :
    ∃ next : Engines, engineProgram.Reaches (fun _ _ => True) engines next ∧
      next.Spent (count + 1) := by
  let request : EngineRequest .authentication := ⟨⟨0⟩, 0⟩
  have acquired : engines.shared.arbiter.tryAcquire request.owner =
      .ok (count + 1, ⟨count + 1, some ⟨count + 1, request.owner⟩⟩) := by
    rw [spent.arbiter]
    exact ArbiterState.tryAcquire_eq_ok_iff.mpr ⟨rfl, left, rfl, rfl⟩
  obtain ⟨first, leases, system, own⟩ :=
    step_submission (spent.ready count le_rfl) (EngineSystem.submit_of_acquired acquired)
  have submitted : first.shared.submit .proceed (.leased .authentication request (count + 1)) =
      some (first.shared.setLane .authentication
        { first.shared.lane .authentication with active := true },
          .activated .authentication request (count + 1)) := by
    rw [EngineSystem.submit, system, spent.active]
    rfl
  obtain ⟨second, activates, system₂, own₂⟩ :=
    step_submission (own ▸ Function.update_self ..) submitted
  have submitted : second.shared.submit .proceed
      (.activated .authentication request (count + 1)) =
        some (second.shared, .unsent .authentication (count + 1)) := by
    rw [EngineSystem.submit, EngineLane.push, if_neg]
    rw [system₂, EngineSystem.lane_setLane_self, system]
    rintro ⟨running, -⟩
    rw [spent.worker] at running
    cases running
  obtain ⟨third, fails, system₃, own₃⟩ :=
    step_submission (own₂ ▸ Function.update_self ..) submitted
  have submitted : third.shared.submit .proceed (.unsent .authentication (count + 1)) =
      some (third.shared.release (count + 1), .deactivating .authentication) := rfl
  obtain ⟨fourth, releases, system₄, own₄⟩ :=
    step_submission (own₃ ▸ Function.update_self ..) submitted
  have submitted : fourth.shared.submit .proceed (.deactivating .authentication) =
      some (fourth.shared.setLane .authentication
        { fourth.shared.lane .authentication with active := false },
          .returned .authentication (.error .workerStopped)) := rfl
  obtain ⟨last, clears, system₅, own₅⟩ :=
    step_submission (own₄ ▸ Function.update_self ..) submitted
  refine ⟨last, ((((Program.Reaches.start.next trivial leases).next trivial activates).next trivial
    fails).next trivial releases).next trivial clears, ?_⟩
  rw [system₄, system₃, system₂, system] at system₅
  constructor
  · rw [system₅]
    simp [ArbiterState.release]
  · rw [system₅]
    exact spent.worker
  · rw [system₅]
    rfl
  · rw [← spent.outstanding, Engines.outstanding, system₅]
    rfl
  · intro index later
    have another : index ≠ count := by omega
    rw [own₅, Function.update_of_ne another, own₄, Function.update_of_ne another, own₃,
      Function.update_of_ne another, own₂, Function.update_of_ne another, own,
      Function.update_of_ne another]
    exact spent.ready index (by omega)

/-- Any number of generations can be used up. -/
theorem Engines.Spent.reaches {count : Nat} (spent : engines.Spent count) (more : Nat)
    (left : count + more ≤ U64_MAX) :
    ∃ next : Engines, engineProgram.Reaches (fun _ _ => True) engines next ∧
      next.Spent (count + more) := by
  induction more with
  | zero => exact ⟨engines, .start, spent⟩
  | succ more ih =>
      obtain ⟨middle, first, used⟩ := ih (by omega)
      obtain ⟨next, rest, later⟩ := used.step left
      exact ⟨next, first.trans rest, later⟩

/-- Without an outstanding job, a submission fails after the loss of a client, when the
generations are used up, and while another is under way. -/
theorem camera_refused :
    (∃ engines : Engines, engineProgram.Reaches (fun _ _ => True) Engines.start engines ∧
      engines.outstanding = [] ∧ engines.Refuses .workerStopped) ∧
    (∃ engines : Engines, engineProgram.Reaches (fun _ _ => True) Engines.start engines ∧
      engines.outstanding = [] ∧ engines.Refuses .resourceUnavailable) ∧
    ∃ engines : Engines, engineProgram.Reaches (fun _ _ => True) Engines.start engines ∧
      engines.outstanding = [] ∧ engines.Refuses .busy := by
  have lost : engineProgram.Obeys (fun _ _ => True) Engines.start clientLoss := by decide
  refine ⟨⟨_, lost.reaches, rfl, 1, .authentication, ⟨⟨2⟩, 0⟩, 4, ?_⟩, ?_, ?_⟩
  · have refused : engineProgram.Obeys (fun _ _ => True)
        (engineProgram.after Engines.start clientLoss)
        (.thread 1 (.submit .authentication ⟨⟨2⟩, 0⟩) ::
          List.replicate 4 (.thread 1 .proceed)) := by
      decide
    exact ⟨_, rfl, (Program.execute_of_obeys refused).1, rfl⟩
  · have spent : Engines.Spent (engineProgram.after Engines.start clientLoss) 1 := by
      refine ⟨rfl, rfl, rfl, rfl, fun index later => ?_⟩
      cases index with
      | zero => omega
      | succ index => rfl
    obtain ⟨engines, reached, used⟩ := spent.reaches (U64_MAX - 1) (by decide)
    refine ⟨engines, lost.reaches.trans reached, used.outstanding, ?_⟩
    have exhausted : engines.shared.submit (.submit .enrollment ⟨⟨2⟩, 0⟩) .ready =
        some (engines.shared, .returned .enrollment (.error .resourceUnavailable)) := by
      rw [EngineSystem.submit, used.arbiter]
      rfl
    obtain ⟨next, taken, -, own⟩ := step_submission (used.ready _ le_rfl) exhausted
    refine ⟨_, .enrollment, ⟨⟨2⟩, 0⟩, 0, next, used.ready _ le_rfl, ?_,
      own ▸ Function.update_self ..⟩
    rw [Program.execute, taken]
    rfl
  · have leased : engineProgram.Obeys (fun _ _ => True) Engines.start
        [.thread 0 (.submit .authentication ⟨⟨1⟩, 0⟩)] := by decide
    have refused : engineProgram.Obeys (fun _ _ => True)
        (engineProgram.after Engines.start [.thread 0 (.submit .authentication ⟨⟨1⟩, 0⟩)])
        [.thread 1 (.submit .enrollment ⟨⟨2⟩, 0⟩)] := by decide
    exact ⟨_, leased.reaches, rfl, 1, .enrollment, ⟨⟨2⟩, 0⟩, 0, _, rfl,
      (Program.execute_of_obeys refused).1, rfl⟩

end Camera

end FaceAuth
