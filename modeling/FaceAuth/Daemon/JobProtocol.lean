import FaceAuth.Daemon.Exclusivity

/-!
# What a job sends

A job sends progress up to the bound of its engine and then one terminal update,
all under its own identifier. Its channel has room for each of them, and what
the terminal update says was checked before it was sent.
-/

namespace FaceAuth

open Foundation

/-! ## Updates -/

namespace EngineJob

variable {engine : BiometricEngine} {job other : EngineJob engine} {count : Nat}

/-- This many progress updates were sent, and nothing else. -/
def Reported (job : EngineJob engine) (count : Nat) : Prop :=
  ∃ reports : List engine.Progress, reports.length = count ∧
    job.sent = reports.map (.progress job.request.id)

/-- Progress was sent, and then the terminal update. -/
def Completed (job : EngineJob engine) : Prop :=
  ∃ (reports : List engine.Progress) (result : Except engine.Failure engine.Success),
    reports.length ≤ engine.maxProgressUpdates ∧
      job.sent = reports.map (.progress job.request.id) ++ [.completed job.request.id result]

/-- The job is over: it was completed, nobody was left to receive, or the service ended
before it began. -/
def Finished (job : EngineJob engine) (shutdown : Bool) : Prop :=
  job.Completed ∨ ∃ count ≤ engine.maxProgressUpdates, job.Reported count ∧
    (job.receiver = false ∨ count = 0 ∧ shutdown = true)

/-- What a job reported depends on its request and on what was sent. -/
theorem Reported.congr (reported : job.Reported count) (request : other.request = job.request)
    (sent : other.sent = job.sent) : other.Reported count := by
  unfold Reported
  rwa [request, sent]

/-- Whether a job is completed depends on its request and on what was sent. -/
theorem Completed.congr (completed : job.Completed) (request : other.request = job.request)
    (sent : other.sent = job.sent) : other.Completed := by
  unfold Completed
  rwa [request, sent]

/-- A finished job stays so when its receiver goes or the system shuts down. -/
theorem Finished.congr {shutdown later : Bool} (finished : job.Finished shutdown)
    (request : other.request = job.request) (sent : other.sent = job.sent)
    (receiver : job.receiver = false → other.receiver = false)
    (shut : shutdown = true → later = true) : other.Finished later := by
  refine finished.imp (fun completed => completed.congr request sent) ?_
  rintro ⟨count, bound, reported, why⟩
  exact ⟨count, bound, reported.congr request sent, why.imp receiver (And.imp_right shut)⟩

/-- What is put into the queue has been sent. -/
theorem sent_send (job : EngineJob engine) (update : EngineUpdate engine) :
    ({ job with queue := job.queue ++ [update] } : EngineJob engine).sent = job.sent ++ [update] :=
  (List.append_assoc ..).symm

/-- One more report. -/
theorem Reported.progress (reported : job.Reported count) (progress : engine.Progress) :
    ({ job with queue := job.queue ++ [.progress job.request.id progress] } :
      EngineJob engine).Reported (count + 1) := by
  obtain ⟨reports, length, sent⟩ := reported
  refine ⟨reports ++ [progress], by simp [length], ?_⟩
  rw [sent_send, sent, List.map_append]
  rfl

/-- The terminal update after the reports completes the job. -/
theorem Reported.completed (reported : job.Reported count)
    (bound : count ≤ engine.maxProgressUpdates)
    (result : Except engine.Failure engine.Success) :
    ({ job with queue := job.queue ++ [.completed job.request.id result] } :
      EngineJob engine).Completed := by
  obtain ⟨reports, rfl, sent⟩ := reported
  exact ⟨reports, result, bound, by rw [sent_send, sent]⟩

/-- A job that has only reported is not completed. -/
theorem Reported.not_completed (reported : job.Reported count) : ¬ job.Completed := by
  rintro ⟨earlier, result, -, sent⟩
  obtain ⟨reports, -, same⟩ := reported
  have last : EngineUpdate.completed job.request.id result ∈
      reports.map (.progress job.request.id) := by
    rw [← same, sent]
    simp
  obtain ⟨progress, -, other⟩ := List.mem_map.mp last
  cases other

/-- The channel of a job that has sent nothing but its progress has room. -/
theorem Reported.room (reported : job.Reported count) (bound : count ≤ engine.maxProgressUpdates) :
    job.queue.length < engine.updateQueueCapacity := by
  obtain ⟨reports, rfl, sent⟩ := reported
  have total := congrArg List.length sent
  rw [EngineJob.sent, List.length_append, List.length_map] at total
  have capacity := engine.maxProgressUpdates_lt
  omega

end EngineJob

namespace EnginePhase

variable {engine : BiometricEngine}

/-- What the worker has sent for its job. -/
def Fits (jobs : Nat → EngineJob engine) : EnginePhase engine → Prop
  | .waiting | .stopped _ => True
  | .starting number | .abandoning number _ => (jobs number).Reported 0
  | .running number count => count ≤ engine.maxProgressUpdates ∧ (jobs number).Reported count
  | .reporting number count _ => count < engine.maxProgressUpdates ∧ (jobs number).Reported count
  | .returned number _ | .storing number _ | .sending number _ =>
      ∃ count ≤ engine.maxProgressUpdates, (jobs number).Reported count
  | .clearing number true | .dropping number true => (jobs number).Completed
  | .clearing number false | .dropping number false =>
      ∃ count ≤ engine.maxProgressUpdates, (jobs number).Reported count ∧
        (jobs number).receiver = false

/-- What the worker has sent depends on the requests and the updates of the jobs. -/
theorem Fits.congr {jobs later : Nat → EngineJob engine} {phase : EnginePhase engine}
    (fits : phase.Fits jobs) (request : ∀ number, (later number).request = (jobs number).request)
    (sent : ∀ number, (later number).sent = (jobs number).sent)
    (receiver : ∀ number, (jobs number).receiver = false → (later number).receiver = false) :
    phase.Fits later := by
  have reports : ∀ {number count : Nat}, (jobs number).Reported count →
      (later number).Reported count := fun reported => reported.congr (request _) (sent _)
  have completes : ∀ {number : Nat}, (jobs number).Completed → (later number).Completed :=
    fun completed => completed.congr (request _) (sent _)
  cases phase with
  | waiting | stopped _ => trivial
  | starting number | abandoning number _ => exact reports fits
  | running number _ | reporting number _ _ => exact fits.imp_right reports
  | returned number _ | storing number _ | sending number _ =>
      obtain ⟨count, bound, reported⟩ := fits
      exact ⟨count, bound, reports reported⟩
  | clearing number outcome | dropping number outcome =>
      cases outcome with
      | true => exact completes fits
      | false =>
          obtain ⟨count, bound, reported, gone⟩ := fits
          exact ⟨count, bound, reports reported, receiver _ gone⟩

end EnginePhase

/-! ## Lanes -/

namespace EngineLane

variable {engine : BiometricEngine} {lane after : EngineLane engine} {shutdown : Bool}
  {dropped : Option Nat}

/-- Each job has sent what it may send where it stands. -/
structure Orderly (lane : EngineLane engine) (shutdown : Bool) : Prop where
  queued : lane.Queued
  known : ∀ number ∈ lane.outstanding, number < lane.jobCount
  waiting : ∀ number, lane.requests = some number → (lane.jobs number).Reported 0
  awaited : ∀ number, lane.requests = some number → lane.worker = .waiting
  worker : lane.worker.Fits lane.jobs
  abandons : ∀ number result, lane.worker = .abandoning number result → shutdown = true
  done : ∀ number < lane.jobCount, number ∉ lane.outstanding → (lane.jobs number).Finished shutdown

/-- Sending an update puts it into the queue of its job. -/
theorem jobs_send_self (lane : EngineLane engine) (number : Nat) (update : EngineUpdate engine) :
    (lane.send number update).jobs number =
      { lane.jobs number with queue := (lane.jobs number).queue ++ [update] } :=
  Function.update_self ..

/-- Stopping leaves all jobs. -/
theorem jobs_stop (lane : EngineLane engine) (result : Except EngineServiceError Unit) :
    (lane.stop result).jobs = lane.jobs ∧ (lane.stop result).jobCount = lane.jobCount := by
  unfold stop
  split <;> exact ⟨rfl, rfl⟩

/-- A step of the worker changes no job but its own. -/
theorem Advances.jobs_of_ne {number : Nat} (advances : lane.Advances shutdown after dropped)
    (another : lane.worker.job ≠ some number) : after.jobs number = lane.jobs number := by
  cases advances with
  | shut waiting requested => rw [(jobs_stop ..).1]
  | ended dropping => rw [(jobs_stop ..).1]
  | reported reporting =>
      rw [reporting] at another
      exact Function.update_of_ne (fun same => another (congrArg some same.symm)) ..
  | completed sending =>
      rw [sending] at another
      exact Function.update_of_ne (fun same => another (congrArg some same.symm)) ..
  | took _ _ | declined _ | began _ | ignored _ | reports _ _ _ | returned _ _ | unreported _ _
  | judged _ _ | stores _ _ | stored _ _ | unheard _ _ | cleared _ | finished _ | abandoned _ => rfl

/-- A worker makes no jobs. -/
theorem Advances.jobCount (advances : lane.Advances shutdown after dropped) :
    after.jobCount = lane.jobCount := by
  cases advances with
  | shut waiting requested => rw [(jobs_stop ..).2]
  | ended dropping => rw [(jobs_stop ..).2]
  | took _ _ | declined _ | began _ | ignored _ | reports _ _ _ | returned _ _ | unreported _ _
  | judged _ _ | stores _ _ | stored _ _ | unheard _ _ | cleared _ | finished _ | abandoned _
  | reported _ | completed _ => rfl

/-- What the worker has sent after its step. -/
theorem Orderly.fits (orderly : lane.Orderly shutdown)
    (advances : lane.Advances shutdown after dropped) : after.worker.Fits after.jobs := by
  have fits := orderly.worker
  cases advances with
  | shut waiting requested =>
      unfold stop
      split
      · trivial
      · next number queued => exact orderly.waiting number queued
  | took waiting queued => exact orderly.waiting _ queued
  | declined starting =>
      rw [starting] at fits
      exact ⟨0, Nat.zero_le _, fits⟩
  | began starting =>
      rw [starting] at fits
      exact ⟨Nat.zero_le _, fits⟩
  | ignored running => exact fits
  | reports running left progress =>
      rw [running] at fits
      exact ⟨left, fits.2⟩
  | returned running result =>
      rw [running] at fits
      exact ⟨_, fits.1, fits.2⟩
  | @reported number count progress reporting =>
      rw [reporting] at fits
      refine ⟨fits.1, ?_⟩
      change ((lane.send number _).jobs number).Reported (count + 1)
      rw [jobs_send_self]
      exact fits.2.progress progress
  | unreported reporting refused =>
      rw [reporting] at fits
      exact ⟨fits.1.le, fits.2⟩
  | judged finished verdict =>
      rw [finished] at fits
      exact fits
  | stores finished verdict =>
      rw [finished] at fits
      exact fits
  | stored storing kept =>
      rw [storing] at fits
      exact fits
  | @completed number result sending =>
      rw [sending] at fits
      obtain ⟨count, bound, reported⟩ := fits
      change ((lane.send number _).jobs number).Completed
      rw [jobs_send_self]
      exact reported.completed bound result
  | unheard sending gone =>
      rw [sending] at fits
      obtain ⟨count, bound, reported⟩ := fits
      exact ⟨count, bound, reported, gone⟩
  | @cleared number sent clearing =>
      rw [clearing] at fits
      cases sent <;> exact fits
  | finished dropping => trivial
  | @ended number dropping =>
      have holds : lane.worker.job = some number := by rw [dropping]; rfl
      rw [stop, (outstanding_of_job holds orderly.queued).1]
      trivial
  | abandoned abandoning => trivial

/-- A job whose lease is dropped is over. -/
theorem Orderly.finished {number : Nat} (orderly : lane.Orderly shutdown)
    (advances : lane.Advances shutdown after dropped) (held : number ∈ lane.outstanding)
    (gone : number ∉ after.outstanding) : (lane.jobs number).Finished shutdown := by
  obtain ⟨-, ⟨-, same⟩ | ⟨owner, only, drops, -⟩⟩ := advances.outstanding orderly.queued
  · rw [same] at gone
    exact (gone held).elim
  rw [only, List.mem_singleton] at held
  subst held
  have fits := orderly.worker
  have owned : ∀ holder, lane.worker.job = some holder → holder = number := by
    intro holder holds
    have alone := (outstanding_of_job holds orderly.queued).2
    rw [only] at alone
    exact (List.singleton_injective alone).symm
  cases advances with
  | @finished holder dropping =>
      obtain rfl := owned holder (by rw [dropping]; rfl)
      rw [dropping] at fits
      exact .inl fits
  | @ended holder dropping =>
      obtain rfl := owned holder (by rw [dropping]; rfl)
      rw [dropping] at fits
      obtain ⟨count, bound, reported, left⟩ := fits
      exact .inr ⟨count, bound, reported, .inl left⟩
  | @abandoned holder result abandoning =>
      obtain rfl := owned holder (by rw [abandoning]; rfl)
      rw [abandoning] at fits
      exact .inr ⟨0, Nat.zero_le _, fits, .inr ⟨rfl, orderly.abandons _ _ abandoning⟩⟩
  | _ => cases drops

/-- No step of the worker puts a request into the queue. -/
theorem Advances.requests {number : Nat} (advances : lane.Advances shutdown after dropped)
    (queued : after.requests = some number) : lane.requests = some number := by
  have stops : ∀ result, (lane.stop result).requests = none := by
    intro result
    unfold stop
    split
    · assumption
    · rfl
  cases advances with
  | shut waiting requested =>
      rw [stops] at queued
      cases queued
  | ended dropping =>
      rw [stops] at queued
      cases queued
  | took _ _ => cases queued
  | declined _ | began _ | ignored _ | reports _ _ _ | returned _ _ | unreported _ _
  | judged _ _ | stores _ _ | stored _ _ | unheard _ _ | cleared _ | finished _ | abandoned _
  | reported _ | completed _ => exact queued

/-- A request that stays in the queue is not waited for by a busy worker. -/
theorem Advances.awaits (advances : lane.Advances shutdown after dropped) {number : Nat}
    (awaited : ∀ number, lane.requests = some number → lane.worker = .waiting)
    (queued : after.requests = some number) : after.worker = .waiting := by
  have stops : ∀ result, (lane.stop result).requests = none := by
    intro result
    unfold stop
    split
    · assumption
    · rfl
  have free := awaited number (advances.requests queued)
  cases advances with
  | shut waiting requested =>
      rw [stops] at queued
      cases queued
  | took waiting taken => cases queued
  | ignored running => exact free
  | _ => simp_all

/-- A worker abandons a job only when the system shuts down. -/
theorem Advances.abandons (advances : lane.Advances shutdown after dropped) (queued : lane.Queued)
    {number : Nat} {result : Except EngineServiceError Unit}
    (abandoning : after.worker = .abandoning number result) : shutdown = true := by
  cases advances with
  | shut waiting requested => exact requested
  | @ended holder dropping =>
      have holds : lane.worker.job = some holder := by rw [dropping]; rfl
      rw [stop, (outstanding_of_job holds queued).1] at abandoning
      cases abandoning
  | ignored running =>
      rw [running] at abandoning
      cases abandoning
  | _ => cases abandoning

/-- A step of the worker keeps the order of its jobs. -/
theorem Orderly.advances (orderly : lane.Orderly shutdown)
    (advances : lane.Advances shutdown after dropped) : after.Orderly shutdown := by
  obtain ⟨still, moves⟩ := advances.outstanding orderly.queued
  have fewer : ∀ number ∈ after.outstanding, number ∈ lane.outstanding := by
    rcases moves with ⟨-, same⟩ | ⟨-, -, -, empty⟩
    · rw [same]
      exact fun _ => id
    · rw [empty]
      nofun
  have kept : ∀ number, lane.worker.job ≠ some number → after.jobs number = lane.jobs number :=
    fun number another => advances.jobs_of_ne another
  refine ⟨still, fun number member => ?_, fun number queued => ?_,
    fun _ queued => advances.awaits orderly.awaited queued, orderly.fits advances,
    fun _ _ => advances.abandons orderly.queued, fun number bound over_ => ?_⟩
  · rw [advances.jobCount]
    exact orderly.known number (fewer number member)
  · have before := advances.requests queued
    have free := orderly.queued (by rw [before]; rfl)
    rw [kept number (by rw [free]; nofun)]
    exact orderly.waiting number before
  · rw [advances.jobCount] at bound
    by_cases held : number ∈ lane.outstanding
    · have finished := orderly.finished advances held over_
      rcases moves with ⟨-, same⟩ | ⟨holder, only, drops, -⟩
      · rw [same] at over_
        exact (over_ held).elim
      · have unsent : after.jobs = lane.jobs := by
          cases advances with
          | ended dropping => rw [(jobs_stop ..).1]
          | finished dropping => rfl
          | abandoned abandoning => rfl
          | _ => cases drops
        rw [unsent]
        exact finished
    · rw [kept number]
      · exact orderly.done number bound held
      · intro holds
        rw [outstanding, holds] at held
        exact held (List.mem_append_right _ List.mem_cons_self)

/-- A lane with the same requests and worker, whose jobs have sent the same. -/
theorem Orderly.congr {later : Bool} (orderly : lane.Orderly shutdown)
    (requests : after.requests = lane.requests) (worker : after.worker = lane.worker)
    (jobCount : after.jobCount = lane.jobCount)
    (request : ∀ number, (after.jobs number).request = (lane.jobs number).request)
    (sent : ∀ number, (after.jobs number).sent = (lane.jobs number).sent)
    (receiver : ∀ number, (lane.jobs number).receiver = false →
      (after.jobs number).receiver = false)
    (shut : shutdown = true → later = true) : after.Orderly later := by
  have outstanding : after.outstanding = lane.outstanding := by
    rw [EngineLane.outstanding, EngineLane.outstanding, requests, worker]
  constructor
  · unfold Queued
    rw [requests, worker]
    exact orderly.queued
  · rw [outstanding, jobCount]
    exact orderly.known
  · rw [requests]
    exact fun number queued => (orderly.waiting number queued).congr (request _) (sent _)
  · rw [requests, worker]
    exact orderly.awaited
  · rw [worker]
    exact orderly.worker.congr request sent receiver
  · rw [worker]
    exact fun number result abandoning => shut (orderly.abandons number result abandoning)
  · rw [outstanding, jobCount]
    exact fun number bound over_ =>
      (orderly.done number bound over_).congr (request _) (sent _) (receiver _) shut

/-- A new job keeps the order. -/
theorem Orderly.push {request : EngineRequest engine} {lease : Nat}
    (orderly : lane.Orderly shutdown) (empty : lane.requests = none)
    (free : lane.worker.job = none) (running : lane.worker.isRunning = true) :
    ({ lane with
      requests := some lane.jobCount
      jobs := Function.update lane.jobs lane.jobCount ⟨request, lease, false, [], [], true⟩
      jobCount := lane.jobCount + 1 } : EngineLane engine).Orderly shutdown := by
  have outstanding : lane.outstanding = [] := by
    rw [EngineLane.outstanding, empty, free]
    rfl
  constructor
  · exact fun _ => free
  · intro number member
    rw [EngineLane.outstanding, free] at member
    obtain rfl := List.mem_singleton.mp member
    exact Nat.lt_succ_self _
  · rintro number ⟨⟩
    refine ⟨[], rfl, ?_⟩
    dsimp only
    rw [Function.update_self]
    rfl
  · intro number _
    change lane.worker = .waiting
    generalize lane.worker = worker at free running
    cases worker with
    | waiting => rfl
    | stopped _ => cases running
    | _ => cases free
  · generalize lane.worker = worker at free
    cases worker with
    | waiting | stopped _ => trivial
    | _ => cases free
  · exact orderly.abandons
  · intro number bound over_
    rw [EngineLane.outstanding, free] at over_
    have another : number ≠ lane.jobCount := fun same => over_ (List.mem_singleton.mpr same)
    have known : number < lane.jobCount := by
      change number < lane.jobCount + 1 at bound
      omega
    dsimp only
    rw [Function.update_of_ne another]
    exact orderly.done number known (by rw [outstanding]; exact List.not_mem_nil)

end EngineLane

/-! ## Results -/

/-- A record that may be saved for a request. Nothing is saved for an authentication. -/
def EngineRequest.Vets : {engine : BiometricEngine} → EngineRequest engine → engine.Output → Prop
  | .authentication, _, _ => False
  | .enrollment, request, record => record.uid = request.targetUid ∧ record.validate = .ok ()

/-- A template is stored only for a job that runs on and has vetted it. -/
theorem judge_eq_store {engine : BiometricEngine} {request : EngineRequest engine}
    {cancelled : Bool} {result : Except engine.Failure engine.Output} {record : engine.Output}
    (judged : judge engine request cancelled result = .store record) :
    cancelled = false ∧ request.Vets record := by
  cases engine with
  | authentication =>
      change judgeEvidence _ _ _ = _ at judged
      unfold judgeEvidence at judged
      split at judged
      · cases judged
      · split at judged
        · split at judged <;> cases judged
        · cases judged
  | enrollment =>
      change judgeRecord _ _ _ = _ at judged
      unfold judgeRecord at judged
      split at judged
      · split at judged
        · cases judged
        · next open_ =>
            split at judged <;> cases judged
            next fits =>
              rw [not_or, not_not, not_not] at fits
              exact ⟨by simpa using open_, fits⟩
      · cases judged

/-- A success that was judged by itself. No enrollment succeeds without its sink. -/
def EngineRequest.Accepts : {engine : BiometricEngine} →
  EngineRequest engine → engine.Success → Prop
  | .authentication, request, evidence => evidence.transactionId = request.id
  | .enrollment, _, _ => False

/-- A success is told only for a job that runs on and accepts it. -/
theorem judge_eq_success {engine : BiometricEngine} {request : EngineRequest engine}
    {cancelled : Bool} {result : Except engine.Failure engine.Output} {success : engine.Success}
    (judged : judge engine request cancelled result = .terminal (.ok success)) :
    cancelled = false ∧ request.Accepts success := by
  cases engine with
  | authentication =>
      change judgeEvidence _ _ _ = _ at judged
      unfold judgeEvidence at judged
      split at judged
      · cases judged
      · next open_ =>
          split at judged
          · split at judged <;> cases judged
            next own => exact ⟨by simpa using open_, own⟩
          · cases judged
  | enrollment =>
      change judgeRecord _ _ _ = _ at judged
      unfold judgeRecord at judged
      split at judged
      · split at judged
        · cases judged
        · split at judged <;> cases judged
      · cases judged

/-- The sink of an enrollment succeeds when the template was kept. -/
theorem sinkResult_eq_ok {engine : BiometricEngine} {kept : Bool} {success : engine.Success}
    (sunk : sinkResult engine kept = .ok success) : engine = .enrollment ∧ kept = true := by
  cases engine with
  | authentication => cases sunk
  | enrollment =>
      cases kept with
      | false => cases sunk
      | true => exact ⟨rfl, rfl⟩

namespace EngineLane

variable {engine : BiometricEngine} {lane after : EngineLane engine} {shutdown : Bool}
  {dropped : Option Nat}

/-- What makes the success of a job true: evidence of its transaction, or a saved record. -/
def Earns : {engine : BiometricEngine} → EngineLane engine → Nat → engine.Success → Prop
  | .authentication, lane, number, evidence =>
      evidence.transactionId = (lane.jobs number).request.id
  | .enrollment, lane, number, _ => ∃ record, (number, record) ∈ lane.saved

/-- What was saved was vetted, and every success that is sent was earned. -/
structure Honest (lane : EngineLane engine) : Prop where
  storing : ∀ number record, lane.worker = .storing number record →
    number < lane.jobCount ∧ (lane.jobs number).request.Vets record
  sending : ∀ number success, lane.worker = .sending number (.ok success) →
    lane.Earns number success
  sent : ∀ number < lane.jobCount, ∀ id success,
    .completed id (.ok success) ∈ (lane.jobs number).sent → lane.Earns number success
  saved : ∀ number record, (number, record) ∈ lane.saved →
    number < lane.jobCount ∧ (lane.jobs number).request.Vets record

/-- A success that the request accepts is earned. -/
theorem earns_of_accepts {number : Nat} {success : engine.Success}
    (accepts : (lane.jobs number).request.Accepts success) : lane.Earns number success := by
  cases engine with
  | authentication => exact accepts
  | enrollment => exact accepts.elim

/-- What was earned stays earned. -/
theorem Earns.mono {number : Nat} {success : engine.Success} (earns : lane.Earns number success)
    (request : (after.jobs number).request = (lane.jobs number).request)
    (saved : ∀ entry ∈ lane.saved, entry ∈ after.saved) : after.Earns number success := by
  cases engine with
  | authentication =>
      change success.transactionId = _ at earns ⊢
      rw [request]
      exact earns
  | enrollment => exact earns.imp fun record => saved _

/-- A step of the worker changes no more of a job than what its channel holds. -/
theorem Advances.job (advances : lane.Advances shutdown after dropped) (number : Nat) :
    ∃ queue, after.jobs number = { lane.jobs number with queue := queue } := by
  have sends : ∀ owner update, ∃ queue, (lane.send owner update).jobs number =
      { lane.jobs number with queue := queue } := by
    intro owner update
    by_cases same : number = owner
    · subst same
      exact ⟨_, jobs_send_self ..⟩
    · exact ⟨_, Function.update_of_ne same ..⟩
  cases advances with
  | shut waiting requested => exact ⟨_, by rw [(jobs_stop ..).1]⟩
  | ended dropping => exact ⟨_, by rw [(jobs_stop ..).1]⟩
  | reported reporting => exact sends _ _
  | completed sending => exact sends _ _
  | took _ _ | declined _ | began _ | ignored _ | reports _ _ _ | returned _ _ | unreported _ _
  | judged _ _ | stores _ _ | stored _ _ | unheard _ _ | cleared _ | finished _ | abandoned _ =>
      exact ⟨_, rfl⟩

/-- A worker does not change what was asked for. -/
theorem Advances.request (advances : lane.Advances shutdown after dropped) (number : Nat) :
    (after.jobs number).request = (lane.jobs number).request := by
  obtain ⟨queue, same⟩ := advances.job number
  rw [same]

/-- What a step adds to the saved records was in the hands of the worker. -/
theorem Advances.saved (advances : lane.Advances shutdown after dropped) :
    after.saved = lane.saved ∨ ∃ number record, lane.worker = .storing number record ∧
      after.saved = lane.saved ++ [(number, record)] := by
  have stops : ∀ result, (lane.stop result).saved = lane.saved := by
    intro result
    unfold stop
    split <;> rfl
  cases advances with
  | shut waiting requested => exact .inl (stops _)
  | ended dropping => exact .inl (stops _)
  | stored storing kept =>
      cases kept with
      | false => exact .inl rfl
      | true => exact .inr ⟨_, _, storing, rfl⟩
  | took _ _ | declined _ | began _ | ignored _ | reports _ _ _ | returned _ _ | unreported _ _
  | judged _ _ | stores _ _ | unheard _ _ | cleared _ | finished _ | abandoned _
  | reported _ | completed _ => exact .inl rfl

/-- What a step adds to a channel. -/
theorem Advances.sent {number : Nat} {update : EngineUpdate engine}
    (advances : lane.Advances shutdown after dropped)
    (member : update ∈ (after.jobs number).sent) :
    update ∈ (lane.jobs number).sent ∨ (∃ id progress, update = .progress id progress) ∨
      ∃ id result, update = .completed id result ∧ lane.worker = .sending number result := by
  have sends : ∀ owner added, update ∈ ((lane.send owner added).jobs number).sent →
      update ∈ (lane.jobs number).sent ∨ owner = number ∧ update = added := by
    intro owner added member
    by_cases same : number = owner
    · subst same
      rw [jobs_send_self, EngineJob.sent_send, List.mem_append, List.mem_singleton] at member
      exact member.imp id fun last => ⟨rfl, last⟩
    · rw [show (lane.send owner added).jobs number = lane.jobs number from
        Function.update_of_ne same ..] at member
      exact .inl member
  cases advances with
  | shut waiting requested =>
      rw [(jobs_stop ..).1] at member
      exact .inl member
  | ended dropping =>
      rw [(jobs_stop ..).1] at member
      exact .inl member
  | reported reporting =>
      rcases sends _ _ member with before | ⟨-, rfl⟩
      · exact .inl before
      · exact .inr (.inl ⟨_, _, rfl⟩)
  | completed sending =>
      rcases sends _ _ member with before | ⟨rfl, rfl⟩
      · exact .inl before
      · exact .inr (.inr ⟨_, _, rfl, sending⟩)
  | took _ _ | declined _ | began _ | ignored _ | reports _ _ _ | returned _ _ | unreported _ _
  | judged _ _ | stores _ _ | stored _ _ | unheard _ _ | cleared _ | finished _ | abandoned _ =>
      exact .inl member

/-- A record comes to be stored by the verdict on what the engine returned. -/
theorem Advances.storing {number : Nat} {record : engine.Output}
    (advances : lane.Advances shutdown after dropped)
    (storing : after.worker = .storing number record) :
    ∃ result, lane.worker = .returned number result ∧
      judge engine (lane.jobs number).request ((lane.jobs number).cancelled || shutdown) result =
        .store record := by
  cases advances with
  | stores finished verdict =>
      obtain ⟨rfl, rfl⟩ := EnginePhase.storing.inj storing
      exact ⟨_, finished, verdict⟩
  | ignored running => cases running.symm.trans storing
  | shut waiting requested => exact absurd storing (worker_stop_ne rfl lane _)
  | ended dropping => exact absurd storing (worker_stop_ne rfl lane _)
  | _ => cases storing

/-- A result comes to be sent by the verdict on what the engine returned, or after the sink has
answered for a record. -/
theorem Advances.sending {number : Nat} {result : Except engine.Failure engine.Success}
    (advances : lane.Advances shutdown after dropped)
    (sending : after.worker = .sending number result) :
    (∃ output, lane.worker = .returned number output ∧
      judge engine (lane.jobs number).request ((lane.jobs number).cancelled || shutdown) output =
        .terminal result) ∨
      ∃ record kept, lane.worker = .storing number record ∧ result = sinkResult engine kept ∧
        (kept = true → (number, record) ∈ after.saved) := by
  cases advances with
  | judged finished verdict =>
      obtain ⟨rfl, rfl⟩ := EnginePhase.sending.inj sending
      exact .inl ⟨_, finished, verdict⟩
  | stored storing kept =>
      obtain ⟨rfl, rfl⟩ := EnginePhase.sending.inj sending
      refine .inr ⟨_, kept, storing, rfl, ?_⟩
      rintro rfl
      exact List.mem_append_right _ List.mem_cons_self
  | ignored running => cases running.symm.trans sending
  | shut waiting requested => exact absurd sending (worker_stop_ne rfl lane _)
  | ended dropping => exact absurd sending (worker_stop_ne rfl lane _)
  | _ => cases sending

/-- A step of the worker tells no success that was not earned. -/
theorem Honest.advances (honest : lane.Honest) (orderly : lane.Orderly shutdown)
    (advances : lane.Advances shutdown after dropped) : after.Honest := by
  have kept : ∀ entry ∈ lane.saved, entry ∈ after.saved := by
    intro entry member
    rcases advances.saved with same | ⟨_, _, -, grown⟩
    · rwa [same]
    · rw [grown]
      exact List.mem_append_left _ member
  have still : ∀ number success, lane.Earns number success → after.Earns number success :=
    fun number success earns => earns.mono (advances.request number) kept
  constructor
  · intro number record storing
    rw [advances.jobCount, advances.request]
    obtain ⟨result, finished, verdict⟩ := advances.storing storing
    have holds : number ∈ lane.outstanding := by
      rw [outstanding, finished]
      exact List.mem_append_right _ List.mem_cons_self
    exact ⟨orderly.known _ holds, (judge_eq_store verdict).2⟩
  · intro number success sending
    rcases advances.sending sending with ⟨_, -, verdict⟩ | ⟨record, kept, -, sunk, saved⟩
    · exact still _ _ (earns_of_accepts (judge_eq_success verdict).2)
    · obtain ⟨rfl, rfl⟩ := sinkResult_eq_ok sunk.symm
      exact ⟨record, saved rfl⟩
  · intro number bound id success member
    rw [advances.jobCount] at bound
    rcases advances.sent member with before | ⟨_, _, reported⟩ | ⟨_, result, same, sending⟩
    · exact still _ _ (honest.sent number bound id success before)
    · cases reported
    · obtain ⟨rfl, rfl⟩ := EngineUpdate.completed.inj same
      exact still _ _ (honest.sending number success sending)
  · intro number record member
    rw [advances.jobCount, advances.request]
    rcases advances.saved with same | ⟨owner, vetted, storing, grown⟩
    · rw [same] at member
      exact honest.saved number record member
    · rw [grown, List.mem_append, List.mem_singleton] at member
      rcases member with before | last
      · exact honest.saved number record before
      · obtain ⟨rfl, rfl⟩ := Prod.mk.inj last
        exact honest.storing number record storing

/-- A lane with the same worker and records, whose jobs have sent the same. -/
theorem Honest.congr (honest : lane.Honest) (worker : after.worker = lane.worker)
    (jobCount : after.jobCount = lane.jobCount) (saved : after.saved = lane.saved)
    (request : ∀ number, (after.jobs number).request = (lane.jobs number).request)
    (sent : ∀ number, (after.jobs number).sent = (lane.jobs number).sent) : after.Honest := by
  have still : ∀ number success, lane.Earns number success → after.Earns number success :=
    fun number success earns => earns.mono (request number) (by rw [saved]; exact fun _ => id)
  constructor
  · intro number record
    rw [worker, jobCount, request]
    exact honest.storing number record
  · intro number success
    rw [worker]
    exact fun sending => still _ _ (honest.sending number success sending)
  · intro number bound id success member
    rw [jobCount] at bound
    rw [sent] at member
    exact still _ _ (honest.sent number bound id success member)
  · intro number record
    rw [saved, jobCount, request]
    exact honest.saved number record

/-- A new job has told nothing. -/
theorem Honest.push {request : EngineRequest engine} {lease : Nat} (honest : lane.Honest)
    (free : lane.worker.job = none) :
    ({ lane with
      requests := some lane.jobCount
      jobs := Function.update lane.jobs lane.jobCount ⟨request, lease, false, [], [], true⟩
      jobCount := lane.jobCount + 1 } : EngineLane engine).Honest := by
  have old : ∀ number < lane.jobCount, Function.update lane.jobs lane.jobCount
      ⟨request, lease, false, [], [], true⟩ number = lane.jobs number :=
    fun number known => Function.update_of_ne (Nat.ne_of_lt known) ..
  constructor
  · intro number record storing
    change lane.worker = _ at storing
    rw [storing] at free
    cases free
  · intro number success sending
    change lane.worker = _ at sending
    rw [sending] at free
    cases free
  · intro number bound id success member
    dsimp only at bound member
    rcases Nat.lt_succ_iff_lt_or_eq.mp bound with known | rfl
    · rw [old number known] at member
      exact (honest.sent number known id success member).mono
        (congrArg EngineJob.request (old number known)) fun _ member => member
    · rw [Function.update_self] at member
      cases member
  · intro number record member
    obtain ⟨known, vets⟩ := honest.saved number record member
    dsimp only
    rw [old number known]
    exact ⟨Nat.lt_succ_of_lt known, vets⟩

/-- A job that cannot succeed any more. -/
structure Denied (lane : EngineLane engine) (number : Nat) : Prop where
  known : number < lane.jobCount
  storing : ∀ record, lane.worker ≠ .storing number record
  sending : ∀ success, lane.worker ≠ .sending number (.ok success)
  sent : ∀ id success, .completed id (.ok success) ∉ (lane.jobs number).sent

/-- A worker earns no success for a job that was cancelled. -/
theorem Denied.advances {number : Nat} (denied : lane.Denied number)
    (cancelled : ((lane.jobs number).cancelled || shutdown) = true)
    (advances : lane.Advances shutdown after dropped) : after.Denied number := by
  constructor
  · rw [advances.jobCount]
    exact denied.known
  · intro record storing
    obtain ⟨result, -, verdict⟩ := advances.storing storing
    rw [(judge_eq_store verdict).1] at cancelled
    cases cancelled
  · intro success sending
    rcases advances.sending sending with ⟨_, -, verdict⟩ | ⟨record, kept, storing, -, -⟩
    · rw [(judge_eq_success verdict).1] at cancelled
      cases cancelled
    · exact denied.storing record storing
  · intro id success member
    rcases advances.sent member with before | ⟨_, _, reported⟩ | ⟨_, result, same, sending⟩
    · exact denied.sent id success before
    · cases reported
    · obtain ⟨rfl, rfl⟩ := EngineUpdate.completed.inj same
      exact denied.sending success sending

end EngineLane

/-- The worker has not judged what the engine returned. -/
def EnginePhase.unjudged {engine : BiometricEngine} : EnginePhase engine → Bool
  | .waiting | .starting _ | .running _ _ | .reporting _ _ _ | .returned _ _
  | .abandoning _ _ => true
  | .storing _ _ | .sending _ _ | .clearing _ _ | .dropping _ _ | .stopped _ => false

namespace EngineLane

variable {engine : BiometricEngine} {lane after : EngineLane engine} {shutdown : Bool}

/-- A job that the engine did not return from has sent no terminal update. -/
theorem Orderly.denied {number : Nat} (orderly : lane.Orderly shutdown)
    (member : number ∈ lane.outstanding) (unjudged : lane.worker.unjudged = true) :
    lane.Denied number := by
  refine ⟨orderly.known number member, fun record storing => ?_, fun success sending => ?_,
    fun id success done => ?_⟩
  · rw [storing] at unjudged
    cases unjudged
  · rw [sending] at unjudged
    cases unjudged
  · have reported : ∃ count, (lane.jobs number).Reported count := by
      rw [outstanding, List.mem_append, Option.mem_toList, Option.mem_toList] at member
      rcases member with queued | holds
      · exact ⟨0, orderly.waiting number queued⟩
      · have fits := orderly.worker
        generalize lane.worker = worker at holds fits unjudged
        cases worker with
        | waiting | stopped _ => cases holds
        | starting _ | abandoning _ _ =>
            cases holds
            exact ⟨_, fits⟩
        | running _ _ | reporting _ _ _ =>
            cases holds
            exact ⟨_, fits.2⟩
        | returned _ _ =>
            cases holds
            exact fits.imp fun _ => And.right
        | storing _ _ | sending _ _ | clearing _ _ | dropping _ _ => cases unjudged
    obtain ⟨count, reports, -, sent⟩ := reported
    rw [sent] at done
    obtain ⟨progress, -, same⟩ := List.mem_map.mp done
    cases same

end EngineLane

/-! ## The worker of a job -/

namespace EngineLane

variable {engine : BiometricEngine} (lane : EngineLane engine)

/-- The worker has taken the job out of its queue, and is not done with it. -/
def Runs (number : Nat) : Prop := lane.worker.job = some number ∧ lane.worker.isRunning = true

/-- The worker has its next step, whatever its engine calls or returns and whatever its sink
says. -/
def Ready (shutdown : Bool) : Prop :=
  match lane.worker with
  | .running _ _ => (∀ progress, (lane.advance shutdown (.report progress)).isSome = true) ∧
      ∀ result, (lane.advance shutdown (.finish result)).isSome = true
  | .storing _ _ => ∀ stored, (lane.advance shutdown (.save stored)).isSome = true
  | _ => (lane.advance shutdown .proceed).isSome = true

end EngineLane

/-- The steps from the return of the engine to the terminal update. -/
def EnginePhase.stepsLeft {engine : BiometricEngine} : EnginePhase engine → Nat
  | .returned _ _ => 3
  | .storing _ _ => 2
  | .sending _ _ => 1
  | _ => 0

/-- The engine has returned, and its job still waits for the terminal update. -/
def EngineLane.Owes {engine : BiometricEngine} (lane : EngineLane engine) (number : Nat) : Prop :=
  lane.worker.job = some number ∧ 0 < lane.worker.stepsLeft

namespace EngineLane

variable {engine : BiometricEngine} {lane after : EngineLane engine} {number : Nat}
  {shutdown : Bool} {dropped : Option Nat}

/-- A job whose terminal update is owed is running. -/
theorem Owes.runs (owes : lane.Owes number) : lane.Runs number := by
  obtain ⟨holds, left⟩ := owes
  refine ⟨holds, ?_⟩
  generalize lane.worker = worker at left
  cases worker with
  | returned _ _ | storing _ _ | sending _ _ => rfl
  | _ => cases left

/-- Nothing keeps a worker with a job from its next step. -/
theorem Orderly.ready (orderly : lane.Orderly shutdown) (runs : lane.Runs number) :
    lane.Ready shutdown := by
  obtain ⟨holds, running⟩ := runs
  have fits := orderly.worker
  unfold Ready advance
  cases worker : lane.worker with
  | waiting | stopped _ =>
      rw [worker] at holds
      cases holds
  | abandoning _ _ =>
      rw [worker] at running
      cases running
  | starting _ | reporting _ _ _ =>
      dsimp only
      split <;> rfl
  | running _ _ =>
      refine ⟨fun progress => ?_, fun result => rfl⟩
      dsimp only
      split <;> rfl
  | returned _ _ =>
      dsimp only
      split <;> rfl
  | storing _ _ => exact fun stored => rfl
  | sending owner result =>
      rw [worker] at fits
      obtain ⟨count, bound, reported⟩ := fits
      dsimp only
      split
      · rw [if_pos (reported.room bound)]
        rfl
      · rfl
  | clearing _ _ | dropping _ _ => rfl

/-- A running job goes on, is completed, or has lost its receiver. -/
theorem Advances.runs (advances : lane.Advances shutdown after dropped)
    (orderly : lane.Orderly shutdown) (runs : lane.Runs number) :
    after.Runs number ∨ (after.jobs number).Completed ∨ (after.jobs number).receiver = false := by
  obtain ⟨holds, running⟩ := runs
  have fits := orderly.worker
  cases advances with
  | shut waiting requested | took waiting queued =>
      rw [waiting] at holds
      cases holds
  | abandoned abandoning =>
      rw [abandoning] at running
      cases running
  | ignored working => exact .inl ⟨holds, running⟩
  | finished dropping =>
      rw [dropping] at holds fits
      cases holds
      exact .inr (.inl fits)
  | ended dropping =>
      rw [dropping] at holds fits
      cases holds
      obtain ⟨count, bound, reported, gone⟩ := fits
      rw [(jobs_stop ..).1]
      exact .inr (.inr gone)
  | declined at_ | began at_ | reports at_ _ _ | returned at_ _ | reported at_ | unreported at_ _
  | judged at_ _ | stores at_ _ | stored at_ _ | completed at_ | unheard at_ _ | cleared at_ =>
      rw [at_] at holds
      cases holds
      exact .inl ⟨rfl, rfl⟩

/-- A step after the return of the engine is one less to the terminal update. -/
theorem Advances.owes (advances : lane.Advances shutdown after dropped)
    (orderly : lane.Orderly shutdown) (owes : lane.Owes number) :
    after.Owes number ∧ after.worker.stepsLeft < lane.worker.stepsLeft ∨
      (after.jobs number).Completed ∨ (after.jobs number).receiver = false := by
  obtain ⟨holds, left⟩ := owes
  have fits := orderly.fits advances
  cases advances with
  | shut at_ _ | took at_ _ | declined at_ | began at_ | ignored at_ | reports at_ _ _
  | returned at_ _ | reported at_ | unreported at_ _ | cleared at_ | finished at_ | ended at_
  | abandoned at_ =>
      rw [at_] at left
      cases left
  | judged finished verdict =>
      rw [finished] at holds ⊢
      cases holds
      exact .inl ⟨⟨rfl, Nat.one_pos⟩, (by decide : 1 < 3)⟩
  | stores finished verdict =>
      rw [finished] at holds ⊢
      cases holds
      exact .inl ⟨⟨rfl, Nat.two_pos⟩, (by decide : 2 < 3)⟩
  | stored storing kept =>
      rw [storing] at holds ⊢
      cases holds
      exact .inl ⟨⟨rfl, Nat.one_pos⟩, (by decide : 1 < 2)⟩
  | completed sending =>
      rw [sending] at holds
      cases holds
      exact .inr (.inl fits)
  | unheard sending gone =>
      rw [sending] at holds
      cases holds
      exact .inr (.inr gone)

/-- The job has its terminal update, or nobody receives it. -/
def Settled (lane : EngineLane engine) (number : Nat) : Prop :=
  (lane.jobs number).Completed ∨ (lane.jobs number).receiver = false

/-- The terminal update is the last one. -/
theorem Settled.advances (settled : lane.Settled number) (orderly : lane.Orderly shutdown)
    (advances : lane.Advances shutdown after dropped) : after.Settled number := by
  have fits := orderly.worker
  obtain completed | gone := settled
  · refine .inl ?_
    cases advances with
    | shut waiting requested =>
        rw [(jobs_stop ..).1]
        exact completed
    | ended dropping =>
        rw [(jobs_stop ..).1]
        exact completed
    | @reported owner count progress reporting =>
        rw [reporting] at fits
        have another : number ≠ owner := fun same => fits.2.not_completed (same ▸ completed)
        change ((lane.send owner _).jobs number).Completed
        rw [show (lane.send owner _).jobs number = lane.jobs number from
          Function.update_of_ne another ..]
        exact completed
    | @completed owner result sending =>
        rw [sending] at fits
        obtain ⟨count, -, reported⟩ := fits
        have another : number ≠ owner := fun same => reported.not_completed (same ▸ completed)
        change ((lane.send owner _).jobs number).Completed
        rw [show (lane.send owner _).jobs number = lane.jobs number from
          Function.update_of_ne another ..]
        exact completed
    | took _ _ | declined _ | began _ | ignored _ | reports _ _ _ | returned _ _ | unreported _ _
    | judged _ _ | stores _ _ | stored _ _ | unheard _ _ | cleared _ | finished _
    | abandoned _ => exact completed
  · obtain ⟨queue, same⟩ := advances.job number
    exact .inr (by rw [same]; exact gone)

end EngineLane

/-! ## Runs -/

/-- What holds of the jobs of every service in every state of a run. -/
structure Engines.Orderly (engines : Engines) : Prop where
  lawful : engines.Lawful
  lanes : ∀ engine, (engines.shared.lane engine).Orderly engines.shared.shutdown
  honest : ∀ engine, (engines.shared.lane engine).Honest

section Runs

variable {engines next : Engines} {engine : BiometricEngine} {number : Nat}

/-- A fresh system is in order. -/
theorem Engines.Fresh.orderly (fresh : engines.Fresh) : engines.Orderly := by
  refine ⟨⟨⟨none, fresh.custody⟩, fresh.flagged⟩, fun engine => ?_, fun engine => ?_⟩
  · have idle := fresh.lanes engine
    constructor
    · exact fresh.custody.queued engine
    · rw [EngineLane.outstanding_of_idle idle]
      nofun
    · rw [idle.requests]
      nofun
    · rw [idle.requests]
      nofun
    · rw [idle.worker]
      trivial
    · rw [idle.worker]
      nofun
    · rw [idle.jobCount]
      nofun
  · have idle := fresh.lanes engine
    constructor
    · rw [idle.worker]
      nofun
    · rw [idle.worker]
      nofun
    · rw [idle.jobCount]
      nofun
    · rw [idle.saved]
      nofun

/-- A cancellation, a read or the loss of a receiver. -/
structure EngineJob.Touches (job after : EngineJob engine) : Prop where
  request : after.request = job.request
  sent : after.sent = job.sent
  cancelled : job.cancelled = true → after.cancelled = true
  receiver : job.receiver = false → after.receiver = false

/-- What a turn does to one service. -/
inductive EngineLane.Moves (lane : EngineLane engine) (shutdown : Bool) :
    EngineLane engine → Prop where
  | flagged (active : Bool) : Moves lane shutdown { lane with active }
  | pushed (request : EngineRequest engine) (lease : Nat) (empty : lane.requests = none)
      (free : lane.worker.job = none) (running : lane.worker.isRunning = true) :
      Moves lane shutdown { lane with
        requests := some lane.jobCount
        jobs := Function.update lane.jobs lane.jobCount ⟨request, lease, false, [], [], true⟩
        jobCount := lane.jobCount + 1 }
  | advanced {after : EngineLane engine} {dropped : Option Nat}
      (advances : lane.Advances shutdown after dropped) : Moves lane shutdown after
  | touched {changed : Nat} {change : EngineJob engine → EngineJob engine}
      (touches : (lane.jobs changed).Touches (change (lane.jobs changed))) :
      Moves lane shutdown (lane.setJob changed change)

/-- A lane that stays has moved nowhere. -/
theorem EngineLane.Moves.refl (lane : EngineLane engine) (shutdown : Bool) :
    lane.Moves shutdown lane := .flagged lane.active

/-- Putting a lane in moves that engine's and no other. -/
theorem setLane_moves {system : EngineSystem} {changed : BiometricEngine}
    {lane : EngineLane changed} (moves : (system.lane changed).Moves system.shutdown lane)
    (engine : BiometricEngine) :
    (system.lane engine).Moves system.shutdown ((system.setLane changed lane).lane engine) := by
  by_cases same : engine = changed
  · subst same
    rw [EngineSystem.lane_setLane_self]
    exact moves
  · rw [EngineSystem.lane_setLane_of_ne _ _ same]
    exact .refl ..

/-- Every turn is a move of each service, and shutdown is not taken back. -/
theorem Engines.Lawful.moves {turn : Turn SubmitChoice EngineEvent} (lawful : engines.Lawful)
    (taken : engineProgram.step engines turn = some next) :
    (∀ engine, (engines.shared.lane engine).Moves engines.shared.shutdown
      (next.shared.lane engine)) ∧
        (engines.shared.shutdown = true → next.shared.shutdown = true) := by
  obtain ⟨current, custody⟩ := lawful.custody
  cases turn with
  | thread index choice =>
      obtain ⟨system, own, submitted, rfl⟩ := Program.step_thread_eq_some_iff.mp taken
      have submits := EngineSystem.submit_cases submitted
      generalize at_ : engines.thread index = before at submits
      cases submits with
      | denied _ _ | acquired _ _ | contended _ | disconnected _ | gaveUp | dropped =>
          exact ⟨fun _ => .refl .., id⟩
      | activated idle => exact ⟨setLane_moves (.flagged true), id⟩
      | deactivated => exact ⟨setLane_moves (.flagged false), id⟩
      | @enqueued engine request generation running empty =>
          have none_ := custody.outstanding_of_submission
            (show (engines.thread index).lease = some generation by rw [at_]; rfl) engine
          rw [EngineLane.outstanding, List.append_eq_nil_iff] at none_
          have free := Option.toList_eq_nil_iff.mp none_.2
          exact ⟨setLane_moves (.pushed request generation empty free running), id⟩
  | event event =>
      obtain ⟨system, occurred, rfl⟩ := Program.step_event_eq_some_iff.mp taken
      cases EngineSystem.occur_cases occurred with
      | @worked engine choice lane dropped advances =>
          have moves := setLane_moves (.advanced advances)
          cases dropped <;> exact ⟨moves, id⟩
      | cancelled known =>
          exact ⟨setLane_moves (.touched ⟨rfl, rfl, fun _ => rfl, id⟩), id⟩
      | @received engine number update queue listens head =>
          refine ⟨setLane_moves (.touched ⟨rfl, ?_, id, id⟩), id⟩
          rw [EngineJob.sent, EngineJob.sent, head, List.append_assoc]
          rfl
      | left listens => exact ⟨setLane_moves (.touched ⟨rfl, rfl, id, fun _ => rfl⟩), id⟩
      | shut => exact ⟨fun _ => .refl .., fun _ => rfl⟩

variable {lane after : EngineLane engine} {shutdown later : Bool}

/-- Changing one job touches no other. -/
theorem EngineLane.Moves.touch {changed : Nat} {change : EngineJob engine → EngineJob engine}
    (touches : (lane.jobs changed).Touches (change (lane.jobs changed))) (number : Nat) :
    (lane.jobs number).Touches ((lane.setJob changed change).jobs number) := by
  unfold setJob
  dsimp only
  by_cases same : number = changed
  · subst same
    rw [Function.update_self]
    exact touches
  · rw [Function.update_of_ne same]
    exact ⟨rfl, rfl, id, id⟩

/-- Whatever others do with a lane keeps its order. -/
theorem EngineLane.Orderly.moves (orderly : lane.Orderly shutdown)
    (moves : lane.Moves shutdown after) (shut : shutdown = true → later = true) :
    after.Orderly later := by
  have grows : ∀ {other : EngineLane engine}, other.Orderly shutdown → other.Orderly later :=
    fun orderly => orderly.congr rfl rfl rfl (fun _ => rfl) (fun _ => rfl) (fun _ => id) shut
  cases moves with
  | flagged active =>
      exact orderly.congr rfl rfl rfl (fun _ => rfl) (fun _ => rfl) (fun _ => id) shut
  | pushed request lease empty free running => exact grows (orderly.push empty free running)
  | advanced advances => exact grows (orderly.advances advances)
  | touched touches =>
      have touch := EngineLane.Moves.touch touches
      exact orderly.congr rfl rfl rfl (fun number => (touch number).request)
        (fun number => (touch number).sent) (fun number => (touch number).receiver) shut

/-- A settled job stays so whatever others do. -/
theorem EngineLane.Settled.moves (settled : lane.Settled number) (orderly : lane.Orderly shutdown)
    (known : number < lane.jobCount) (moves : lane.Moves shutdown after) :
    after.Settled number := by
  cases moves with
  | flagged active => exact settled
  | pushed request lease empty free running =>
      unfold EngineLane.Settled
      dsimp only
      rw [Function.update_of_ne (Nat.ne_of_lt known)]
      exact settled
  | advanced advances => exact settled.advances orderly advances
  | touched touches =>
      have touch := EngineLane.Moves.touch touches number
      exact settled.imp (fun completed => completed.congr touch.request touch.sent) touch.receiver

/-- What the worker has taken it keeps until the job is settled. -/
theorem EngineLane.Runs.moves (runs : lane.Runs number) (orderly : lane.Orderly shutdown)
    (moves : lane.Moves shutdown after) : after.Runs number ∨ after.Settled number := by
  cases moves with
  | flagged active => exact .inl runs
  | pushed request lease empty free running =>
      have holds := runs.1
      rw [free] at holds
      cases holds
  | advanced advances => exact advances.runs orderly runs
  | touched touches => exact .inl runs

/-- What is owed stays owed, with no more steps to go, or is settled. -/
theorem EngineLane.Owes.moves (owes : lane.Owes number) (orderly : lane.Orderly shutdown)
    (moves : lane.Moves shutdown after) :
    after.Owes number ∧ after.worker.stepsLeft ≤ lane.worker.stepsLeft ∨ after.Settled number := by
  cases moves with
  | flagged active => exact .inl ⟨owes, le_rfl⟩
  | pushed request lease empty free running =>
      have holds := owes.1
      rw [free] at holds
      cases holds
  | advanced advances => exact (advances.owes orderly owes).imp_left (And.imp_right Nat.le_of_lt)
  | touched touches => exact .inl ⟨owes, le_rfl⟩

/-- No job is forgotten. -/
theorem EngineLane.Moves.jobCount (moves : lane.Moves shutdown after) :
    lane.jobCount ≤ after.jobCount := by
  cases moves with
  | flagged active | touched touches => exact le_rfl
  | pushed request lease empty free running => exact Nat.le_succ _
  | advanced advances => exact advances.jobCount.ge

/-- Whatever others do with a lane keeps it honest. -/
theorem EngineLane.Honest.moves (honest : lane.Honest) (orderly : lane.Orderly shutdown)
    (moves : lane.Moves shutdown after) : after.Honest := by
  cases moves with
  | flagged active => exact honest.congr rfl rfl rfl (fun _ => rfl) fun _ => rfl
  | pushed request lease empty free => exact honest.push free
  | advanced advances => exact honest.advances orderly advances
  | touched touches =>
      have touch := EngineLane.Moves.touch touches
      exact honest.congr rfl rfl rfl (fun number => (touch number).request)
        fun number => (touch number).sent

/-- One turn keeps the order of both engines. -/
theorem Engines.Orderly.step {turn : Turn SubmitChoice EngineEvent} (orderly : engines.Orderly)
    (taken : engineProgram.step engines turn = some next) : next.Orderly := by
  obtain ⟨moves, shut⟩ := orderly.lawful.moves taken
  exact ⟨orderly.lawful.step taken,
    fun engine => (orderly.lanes engine).moves (moves engine) shut,
    fun engine => (orderly.honest engine).moves (orderly.lanes engine) (moves engine)⟩

/-- The order holds wherever a fresh system gets. -/
theorem Engines.Orderly.reaches {allowed : Engines → Turn SubmitChoice EngineEvent → Prop}
    {start : Engines} (fresh : start.Fresh)
    (reached : engineProgram.Reaches allowed start engines) : engines.Orderly :=
  reached.invariant fresh.orderly fun _ _ _ orderly _ taken => orderly.step taken

/-- The job was cancelled, by its client or by shutdown. -/
def Engines.Cancelled (engines : Engines) (engine : BiometricEngine) (number : Nat) : Prop :=
  (((engines.shared.lane engine).jobs number).cancelled || engines.shared.shutdown) = true

/-- A cancellation is not taken back. -/
theorem EngineLane.Moves.cancelled (moves : lane.Moves shutdown after)
    (known : number < lane.jobCount) (cancelled : (lane.jobs number).cancelled = true) :
    (after.jobs number).cancelled = true := by
  cases moves with
  | flagged active => exact cancelled
  | pushed request lease empty free =>
      dsimp only
      rwa [Function.update_of_ne (Nat.ne_of_lt known)]
  | advanced advances =>
      obtain ⟨queue, same⟩ := advances.job number
      rw [same]
      exact cancelled
  | touched touches => exact (EngineLane.Moves.touch touches number).cancelled cancelled

/-- A cancelled job earns no success whatever others do. -/
theorem EngineLane.Denied.moves (denied : lane.Denied number)
    (cancelled : ((lane.jobs number).cancelled || shutdown) = true)
    (moves : lane.Moves shutdown after) : after.Denied number := by
  cases moves with
  | flagged active => exact ⟨denied.known, denied.storing, denied.sending, denied.sent⟩
  | pushed request lease empty free =>
      refine ⟨Nat.lt_succ_of_lt denied.known, denied.storing, denied.sending, ?_⟩
      dsimp only
      rw [Function.update_of_ne (Nat.ne_of_lt denied.known)]
      exact denied.sent
  | advanced advances => exact denied.advances cancelled advances
  | touched touches =>
      refine ⟨denied.known, denied.storing, denied.sending, ?_⟩
      rw [(EngineLane.Moves.touch touches number).sent]
      exact denied.sent

/-- A cancelled job that cannot succeed any more never does. -/
theorem Engines.Orderly.denied {allowed : Engines → Turn SubmitChoice EngineEvent → Prop}
    (orderly : engines.Orderly) (denied : (engines.shared.lane engine).Denied number)
    (cancelled : engines.Cancelled engine number)
    (reached : engineProgram.Reaches allowed engines next) :
    (next.shared.lane engine).Denied number := by
  have kept : next.Orderly ∧ (next.shared.lane engine).Denied number ∧
      next.Cancelled engine number := by
    induction reached with
    | start => exact ⟨orderly, denied, cancelled⟩
    | next earlier fits taken ih =>
        obtain ⟨before, still, set⟩ := ih
        obtain ⟨moves, shut⟩ := before.lawful.moves taken
        refine ⟨before.step taken, still.moves set (moves engine), ?_⟩
        unfold Engines.Cancelled at set ⊢
        rw [Bool.or_eq_true] at set ⊢
        exact set.imp ((moves engine).cancelled still.known) shut
  exact kept.2.1

/-- The worker of this engine takes the turn. -/
def BiometricEngine.isWorkers (engine : BiometricEngine) : Turn SubmitChoice EngineEvent → Bool
  | .event (.worker worker _) => decide (worker = engine)
  | _ => false

/-- Only jobs that were made run. -/
theorem Engines.Orderly.known_of_runs (orderly : engines.Orderly)
    (runs : (engines.shared.lane engine).Runs number) :
    number < (engines.shared.lane engine).jobCount := by
  refine (orderly.lanes engine).known number ?_
  rw [EngineLane.outstanding, runs.1]
  exact List.mem_append_right _ List.mem_cons_self

/-- A job that ran is running still, or is settled. -/
theorem Engines.Orderly.settled {allowed : Engines → Turn SubmitChoice EngineEvent → Prop}
    (orderly : engines.Orderly) (known : number < (engines.shared.lane engine).jobCount)
    (begun : (engines.shared.lane engine).Runs number ∨ (engines.shared.lane engine).Settled number)
    (reached : engineProgram.Reaches allowed engines next) :
    (next.shared.lane engine).Runs number ∨ (next.shared.lane engine).Settled number := by
  have kept : next.Orderly ∧ number < (next.shared.lane engine).jobCount ∧
      ((next.shared.lane engine).Runs number ∨ (next.shared.lane engine).Settled number) := by
    induction reached with
    | start => exact ⟨orderly, known, begun⟩
    | next earlier fits taken ih =>
        obtain ⟨before, known, runs | settled⟩ := ih
        · obtain ⟨moves, -⟩ := before.lawful.moves taken
          exact ⟨before.step taken, known.trans_le (moves engine).jobCount,
            runs.moves (before.lanes engine) (moves engine)⟩
        · obtain ⟨moves, -⟩ := before.lawful.moves taken
          exact ⟨before.step taken, known.trans_le (moves engine).jobCount,
            .inr (settled.moves (before.lanes engine) known (moves engine))⟩
  exact kept.2.2

/-- One turn leaves an owed update owed or settles it, and each of the worker's own brings it
nearer. -/
theorem Engines.Orderly.owes_step {turn : Turn SubmitChoice EngineEvent} (orderly : engines.Orderly)
    (known : number < (engines.shared.lane engine).jobCount)
    (owes : (engines.shared.lane engine).Owes number ∨ (engines.shared.lane engine).Settled number)
    (taken : engineProgram.step engines turn = some next) :
    ((next.shared.lane engine).Owes number ∨ (next.shared.lane engine).Settled number) ∧
      (¬ (next.shared.lane engine).Settled number → ¬ (engines.shared.lane engine).Settled number ∧
        (engine.isWorkers turn).toNat + (next.shared.lane engine).worker.stepsLeft ≤
          (engines.shared.lane engine).worker.stepsLeft) := by
  obtain ⟨moves, -⟩ := orderly.lawful.moves taken
  have lanes := orderly.lanes engine
  by_cases settled : (engines.shared.lane engine).Settled number
  · have still := settled.moves lanes known (moves engine)
    exact ⟨.inr still, fun open_ => (open_ still).elim⟩
  have owes := owes.resolve_right settled
  have onward := owes.moves lanes (moves engine)
  refine ⟨onward.imp_left And.left, fun open_ => ⟨settled, ?_⟩⟩
  have fewer := (onward.resolve_right open_).2
  cases works : engine.isWorkers turn with
  | false => simpa using fewer
  | true =>
      cases turn with
      | thread index choice => cases works
      | event event =>
          cases event with
          | worker worker choice =>
              obtain rfl := of_decide_eq_true works
              obtain ⟨system, occurred, rfl⟩ := Program.step_event_eq_some_iff.mp taken
              obtain ⟨⟨lane, dropped⟩, advanced, rfl⟩ := Option.map_eq_some_iff.mp occurred
              have advances := EngineLane.advance_cases advanced
              have lower := advances.owes lanes owes
              have same : (dropped.elim (engines.shared.setLane worker lane)
                  (engines.shared.setLane worker lane).release).lane worker = lane := by
                cases dropped <;> exact EngineSystem.lane_setLane_self ..
              dsimp only at open_ ⊢
              rw [same] at open_ ⊢
              have least := (lower.resolve_right open_).2
              simp only [Bool.toNat_true]
              omega
          | cancel _ _ | receive _ _ | dropHandle _ _ | shutdown => cases works

/-- Three steps of the worker after its engine has returned, the job is settled. -/
theorem Engines.Orderly.delivers {allowed : Engines → Turn SubmitChoice EngineEvent → Prop}
    (orderly : engines.Orderly) (owes : (engines.shared.lane engine).Owes number)
    {turns : List (Turn SubmitChoice EngineEvent)}
    (obeys : engineProgram.Obeys allowed engines turns) :
    ((engineProgram.after engines turns).shared.lane engine).Settled number ∨
      ((engineProgram.after engines turns).shared.lane engine).Ready
        (engineProgram.after engines turns).shared.shutdown ∧
      turns.countP engine.isWorkers < 3 := by
  have known := orderly.known_of_runs owes.runs
  have kept : ∀ (state : Engines) turn (next : Engines),
      (state.Orderly ∧ number < (state.shared.lane engine).jobCount ∧
        ((state.shared.lane engine).Owes number ∨ (state.shared.lane engine).Settled number)) →
      allowed state turn → engineProgram.step state turn = some next →
        (next.Orderly ∧ number < (next.shared.lane engine).jobCount ∧
          ((next.shared.lane engine).Owes number ∨ (next.shared.lane engine).Settled number)) ∧
        (¬ (next.shared.lane engine).Settled number → ¬ (state.shared.lane engine).Settled number ∧
          (engine.isWorkers turn).toNat + (next.shared.lane engine).worker.stepsLeft ≤
            (state.shared.lane engine).worker.stepsLeft) := by
    rintro state turn next ⟨orderly, known, owes⟩ - taken
    obtain ⟨moves, -⟩ := orderly.lawful.moves taken
    obtain ⟨goesOn, lower⟩ := orderly.owes_step known owes taken
    exact ⟨⟨orderly.step taken, known.trans_le (moves engine).jobCount, goesOn⟩, lower⟩
  obtain ⟨⟨last, -, ends⟩, bound⟩ := obeys.countP_add_le_while kept ⟨orderly, known, .inl owes⟩
  generalize engineProgram.after engines turns = final at last ends bound ⊢
  by_cases settled : (final.shared.lane engine).Settled number
  · exact .inl settled
  · have owing := ends.resolve_right settled
    refine .inr ⟨(last.lanes engine).ready owing.runs, ?_⟩
    have total := (bound settled).2
    have left := owing.2
    have most : (engines.shared.lane engine).worker.stepsLeft ≤ 3 := by
      generalize (engines.shared.lane engine).worker = worker
      cases worker <;> simp [EnginePhase.stepsLeft]
    omega

end Runs

/-! ## The protocol of a job -/

/-- What a job sends, when it has its terminal update, whether its result is kept back, and that
no send waits or fails for want of room. -/
structure JobProtocol (start engines : Engines) : Prop where
  updates : ∀ engine, ∀ number < (engines.shared.lane engine).jobCount,
    ∃ reports : List engine.Progress, reports.length ≤ engine.maxProgressUpdates ∧
      let job := (engines.shared.lane engine).jobs number
      (job.sent = reports.map (.progress job.request.id) ∨
        ∃ result, job.sent =
          reports.map (.progress job.request.id) ++ [.completed job.request.id result])
  taken : ∀ engine number, (engines.shared.lane engine).requests = some number →
    (engines.shared.lane engine).advance engines.shared.shutdown .take =
      some ({ engines.shared.lane engine with requests := none }.withWorker (.starting number),
        none)
  kept : ∀ engine number, (engines.shared.lane engine).Runs number →
    ∀ turns, engineProgram.Obeys (fun _ _ => True) engines turns →
      let final := (engineProgram.after engines turns).shared
      (final.lane engine).Settled number ∨
        (final.lane engine).Runs number ∧ (final.lane engine).Ready final.shutdown
  delivered : ∀ engine number, (engines.shared.lane engine).Owes number →
    ∀ turns, engineProgram.Obeys (fun _ _ => True) engines turns →
      let final := (engineProgram.after engines turns).shared
      (final.lane engine).Settled number ∨
        (final.lane engine).Ready final.shutdown ∧ turns.countP engine.isWorkers < 3
  unread : ∀ engine, ∀ number < (engines.shared.lane engine).jobCount,
    number ∉ (engines.shared.lane engine).outstanding →
      ((engines.shared.lane engine).jobs number).receiver = true →
        ((engines.shared.lane engine).jobs number).Completed ∨
          ((engines.shared.lane engine).jobs number).sent = [] ∧ engines.shared.shutdown = true ∧
            ∀ earlier, engineProgram.Reaches (fun _ _ => True) start earlier →
              engineProgram.Reaches (fun _ _ => True) earlier engines →
                ¬ (earlier.shared.lane engine).Runs number
  cancelled : ∀ engine, ∀ number ∈ (engines.shared.lane engine).outstanding,
    (engines.shared.lane engine).worker.unjudged = true → engines.Cancelled engine number →
      ∀ later : Engines, engineProgram.Reaches (fun _ _ => True) engines later →
        ∀ id success, .completed id (.ok success) ∉
          ((later.shared.lane engine).jobs number).sent
  evidence : ∀ number < (engines.shared.lane .authentication).jobCount, ∀ id evidence,
    .completed id (.ok evidence) ∈ ((engines.shared.lane .authentication).jobs number).sent →
      DerivedAuthenticationEvidence.transactionId evidence =
        ((engines.shared.lane .authentication).jobs number).request.id
  saved : ∀ number record, (number, record) ∈ (engines.shared.lane .enrollment).saved →
    TemplateRecord.uid record =
      ((engines.shared.lane .enrollment).jobs number).request.targetUid
  success : ∀ number < (engines.shared.lane .enrollment).jobCount, ∀ id,
    .completed id (.ok ()) ∈ ((engines.shared.lane .enrollment).jobs number).sent →
      ∃ record, (number, record) ∈ (engines.shared.lane .enrollment).saved
  reports : ∀ engine number count progress,
    (engines.shared.lane engine).worker = .reporting number count progress →
      ((engines.shared.lane engine).jobs number).receiver = true →
        (engines.shared.lane engine).advance engines.shared.shutdown .proceed =
          some (((engines.shared.lane engine).send number
            (.progress ((engines.shared.lane engine).jobs number).request.id progress)).withWorker
              (.running number (count + 1)), none)
  completes : ∀ engine number result,
    (engines.shared.lane engine).worker = .sending number result →
      ((engines.shared.lane engine).jobs number).receiver = true →
        (engines.shared.lane engine).advance engines.shared.shutdown .proceed =
          some (((engines.shared.lane engine).send number
            (.completed ((engines.shared.lane engine).jobs number).request.id result)).withWorker
              (.clearing number true), none)
  requests : ∀ index engine request generation,
    engines.thread index = .activated engine request generation →
      (engines.shared.lane engine).worker.isRunning = true →
        ((engines.shared.lane engine).push request generation).isSome = true

section Protocol

variable {engines : Engines} {engine : BiometricEngine} {number : Nat}
  {lane : EngineLane engine} {shutdown : Bool}

/-- Progress within the bound, and then at most one terminal update. -/
theorem EngineJob.Reported.bounded {job : EngineJob engine} {count : Nat}
    (reported : job.Reported count) (bound : count ≤ engine.maxProgressUpdates) :
    ∃ reports : List engine.Progress, reports.length ≤ engine.maxProgressUpdates ∧
      (job.sent = reports.map (.progress job.request.id) ∨ ∃ result, job.sent =
        reports.map (.progress job.request.id) ++ [.completed job.request.id result]) := by
  obtain ⟨reports, rfl, sent⟩ := reported
  exact ⟨reports, bound, .inl sent⟩

/-- A completed job has sent a bounded number of reports and one terminal update. -/
theorem EngineJob.Completed.bounded {job : EngineJob engine} (completed : job.Completed) :
    ∃ reports : List engine.Progress, reports.length ≤ engine.maxProgressUpdates ∧
      (job.sent = reports.map (.progress job.request.id) ∨ ∃ result, job.sent =
        reports.map (.progress job.request.id) ++ [.completed job.request.id result]) := by
  obtain ⟨reports, result, bound, sent⟩ := completed
  exact ⟨reports, bound, .inr ⟨result, sent⟩⟩

/-- What a job has sent: some reports, and one terminal update at most. -/
theorem EngineLane.Orderly.updates (orderly : lane.Orderly shutdown)
    (known : number < lane.jobCount) :
    ∃ reports : List engine.Progress, reports.length ≤ engine.maxProgressUpdates ∧
      ((lane.jobs number).sent = reports.map (.progress (lane.jobs number).request.id) ∨
        ∃ result, (lane.jobs number).sent = reports.map (.progress (lane.jobs number).request.id) ++
          [.completed (lane.jobs number).request.id result]) := by
  by_cases member : number ∈ lane.outstanding
  · rw [EngineLane.outstanding, List.mem_append, Option.mem_toList, Option.mem_toList] at member
    rcases member with queued | holds
    · exact (orderly.waiting number queued).bounded (Nat.zero_le _)
    · have fits := orderly.worker
      generalize lane.worker = worker at holds fits
      cases worker with
      | waiting | stopped _ => cases holds
      | starting _ | abandoning _ _ =>
          cases holds
          exact fits.bounded (Nat.zero_le _)
      | running _ _ =>
          cases holds
          exact fits.2.bounded fits.1
      | reporting _ _ _ =>
          cases holds
          exact fits.2.bounded fits.1.le
      | returned _ _ | storing _ _ | sending _ _ =>
          cases holds
          obtain ⟨count, bound, reported⟩ := fits
          exact reported.bounded bound
      | clearing _ outcome | dropping _ outcome =>
          cases holds
          cases outcome with
          | true => exact fits.bounded
          | false =>
              obtain ⟨count, bound, reported, -⟩ := fits
              exact reported.bounded bound
  · rcases orderly.done number known member with completed | ⟨count, bound, reported, -⟩
    · exact completed.bounded
    · exact reported.bounded bound

/-- A progress update that was let through is sent. -/
theorem EngineLane.Orderly.reports (orderly : lane.Orderly shutdown) {count : Nat}
    {progress : engine.Progress} (reporting : lane.worker = .reporting number count progress)
    (receiver : (lane.jobs number).receiver = true) :
    lane.advance shutdown .proceed =
      some ((lane.send number (.progress (lane.jobs number).request.id progress)).withWorker
        (.running number (count + 1)), none) := by
  have fits := orderly.worker
  rw [reporting] at fits
  have open_ : lane.canSend number = true := by
    rw [EngineLane.canSend, receiver, decide_eq_true (fits.2.room fits.1.le)]
    rfl
  unfold EngineLane.advance
  rw [reporting]
  dsimp only
  rw [if_pos open_]

/-- The terminal update is sent at once. -/
theorem EngineLane.Orderly.completes (orderly : lane.Orderly shutdown)
    {result : Except engine.Failure engine.Success}
    (sending : lane.worker = .sending number result)
    (receiver : (lane.jobs number).receiver = true) :
    lane.advance shutdown .proceed =
      some ((lane.send number (.completed (lane.jobs number).request.id result)).withWorker
        (.clearing number true), none) := by
  have fits := orderly.worker
  rw [sending] at fits
  obtain ⟨count, bound, reported⟩ := fits
  unfold EngineLane.advance
  rw [sending]
  dsimp only
  rw [if_pos receiver, if_pos (reported.room bound)]

/-- A request in the queue is taken by the next step of the worker. -/
theorem EngineLane.Orderly.takes (orderly : lane.Orderly shutdown)
    (queued : lane.requests = some number) :
    lane.advance shutdown .take =
      some ({ lane with requests := none }.withWorker (.starting number), none) := by
  unfold EngineLane.advance
  rw [orderly.awaited number queued, queued]
  rfl

/-- A job that the worker has taken is settled before the worker is done with it. -/
theorem Engines.Orderly.keeps (orderly : engines.Orderly)
    (runs : (engines.shared.lane engine).Runs number)
    {turns : List (Turn SubmitChoice EngineEvent)}
    (obeys : engineProgram.Obeys (fun _ _ => True) engines turns) :
    let final := (engineProgram.after engines turns).shared
    (final.lane engine).Settled number ∨
      (final.lane engine).Runs number ∧ (final.lane engine).Ready final.shutdown := by
  have last : Engines.Orderly (engineProgram.after engines turns) :=
    obeys.reaches.invariant orderly fun _ _ _ orderly _ taken => orderly.step taken
  obtain still | settled := orderly.settled (orderly.known_of_runs runs) (.inl runs) obeys.reaches
  · exact .inr ⟨still, (last.lanes engine).ready still⟩
  · exact .inl settled

/-- A job that is over without a terminal update was never taken out of the queue. -/
theorem Engines.Orderly.unread (orderly : engines.Orderly)
    (known : number < (engines.shared.lane engine).jobCount)
    (left : number ∉ (engines.shared.lane engine).outstanding)
    (receiver : ((engines.shared.lane engine).jobs number).receiver = true) :
    ((engines.shared.lane engine).jobs number).Completed ∨
      ((engines.shared.lane engine).jobs number).sent = [] ∧ engines.shared.shutdown = true ∧
        ∀ earlier : Engines, earlier.Orderly →
          engineProgram.Reaches (fun _ _ => True) earlier engines →
            ¬ (earlier.shared.lane engine).Runs number := by
  by_cases completed : ((engines.shared.lane engine).jobs number).Completed
  · exact .inl completed
  obtain done | ⟨count, -, reported, why⟩ := (orderly.lanes engine).done number known left
  · exact .inl done
  obtain gone | ⟨rfl, shut⟩ := why
  · rw [receiver] at gone
    cases gone
  obtain ⟨reports, none_, sent⟩ := reported
  rw [List.length_eq_zero_iff.mp none_] at sent
  refine .inr ⟨sent, shut, fun earlier before reached runs => ?_⟩
  obtain still | over_ | gone := before.settled (before.known_of_runs runs) (.inl runs) reached
  · refine left ?_
    rw [EngineLane.outstanding, still.1]
    exact List.mem_append_right _ List.mem_cons_self
  · exact completed over_
  · rw [receiver] at gone
    cases gone

/-- A job reports once and fails, and its client reads both updates at once. -/
def readTerminal : List (Turn SubmitChoice EngineEvent) :=
  [.thread 0 (.submit .enrollment ⟨⟨1⟩, 1000⟩), .thread 0 .proceed, .thread 0 .proceed,
    .event (.worker .enrollment .take), .event (.worker .enrollment .proceed),
    .event (.worker .enrollment (.report .preparing)), .event (.worker .enrollment .proceed),
    .event (.worker .enrollment (.finish (.error .cancelled))),
    .event (.worker .enrollment .proceed), .event (.worker .enrollment .proceed),
    .event (.receive .enrollment 0), .event (.receive .enrollment 0)]

/-- A request waits in the queue while the daemon shuts down, and the service ends. -/
def unreadRequest : List (Turn SubmitChoice EngineEvent) :=
  [.thread 0 (.submit .enrollment ⟨⟨1⟩, 1000⟩), .thread 0 .proceed, .thread 0 .proceed,
    .event .shutdown, .event (.worker .enrollment .stop), .event (.worker .enrollment .proceed)]

end Protocol

end FaceAuth
