import FaceAuth.Daemon.JobProtocol

/-!
# Submitting again

A worker sends the terminal update first, then clears the busy flag, and drops
the lease last. A client that has read the terminal update of a job may submit
before the worker is done with it.
-/

namespace FaceAuth

open Foundation

/-- The receiver of the job has read its terminal update. -/
def EngineJob.ended {engine : BiometricEngine} (job : EngineJob engine) : Bool :=
  job.received.any fun
    | .completed _ _ => true
    | .progress _ _ => false

/-- The worker has still to clear the busy flag or to drop the lease of a job whose terminal
update was read. -/
def EngineLane.settling {engine : BiometricEngine} (lane : EngineLane engine) : Bool :=
  match lane.worker with
  | .clearing number _ | .dropping number _ => (lane.jobs number).ended
  | _ => false

/-- The submission was refused as busy. -/
def Submission.isRefused : Submission → Bool
  | .returned _ (.error .busy) | .refused _ _ => true
  | _ => false

/-- The turn refuses a submission as busy while this job holds the lease. -/
def Engines.RefusesFor (engines : Engines) (turn : Turn SubmitChoice EngineEvent)
    (engine : BiometricEngine) (number : Nat) : Prop :=
  ∃ (index : Nat) (choice : SubmitChoice) (next : Engines) (generation : Nat),
    turn = .thread index choice ∧ engineProgram.step engines turn = some next ∧
      (next.thread index).isRefused = true ∧ engines.Holds (.job engine number) generation

/-- The turn refuses no submission on account of a job whose terminal update was read. -/
def Engines.Spares (engines : Engines) (turn : Turn SubmitChoice EngineEvent) : Prop :=
  ∀ engine number, ((engines.shared.lane engine).jobs number).ended = true →
    ¬ engines.RefusesFor turn engine number

/-- The turn begins no submission while a worker is settling. -/
def Engines.Settled (engines : Engines) : Turn SubmitChoice EngineEvent → Prop
  | .thread index _ => engines.thread index = .ready →
      ∀ engine, (engines.shared.lane engine).settling = false
  | .event _ => True

section Retry

variable {engines next : Engines} {engine : BiometricEngine} {number : Nat}

/-- Nothing but its progress was sent to the receiver of a job that is not completed. -/
theorem EngineJob.Reported.not_ended {job : EngineJob engine} {count : Nat}
    (reported : job.Reported count) : job.ended = false := by
  obtain ⟨reports, -, sent⟩ := reported
  rw [ended, List.any_eq_false]
  intro update read
  have member : update ∈ job.sent := List.mem_append_left _ read
  rw [sent] at member
  obtain ⟨progress, -, rfl⟩ := List.mem_map.mp member
  simp

/-- A worker that still holds a job whose terminal update was read is settling. -/
theorem EngineLane.Orderly.settling {lane : EngineLane engine} {shutdown : Bool}
    (orderly : lane.Orderly shutdown) (member : number ∈ lane.outstanding)
    (ended : (lane.jobs number).ended = true) : lane.settling = true := by
  have contra : ∀ {count : Nat}, ¬ (lane.jobs number).Reported count := by
    intro count reported
    rw [reported.not_ended] at ended
    cases ended
  rw [EngineLane.outstanding, List.mem_append, Option.mem_toList, Option.mem_toList] at member
  rcases member with queued | holds
  · exact (contra (orderly.waiting number queued)).elim
  · have fits := orderly.worker
    unfold EngineLane.settling
    generalize lane.worker = worker at holds fits
    cases worker with
    | waiting | stopped _ => cases holds
    | starting _ | abandoning _ _ =>
        cases holds
        exact (contra fits).elim
    | running _ _ | reporting _ _ _ =>
        cases holds
        exact (contra fits.2).elim
    | returned _ _ | storing _ _ | sending _ _ =>
        cases holds
        obtain ⟨count, -, reported⟩ := fits
        exact (contra reported).elim
    | clearing _ _ | dropping _ _ =>
        cases holds
        exact ended

/-- What a settling worker holds. -/
theorem EngineLane.exists_of_settling {lane : EngineLane engine} (settling : lane.settling = true) :
    ∃ number ∈ lane.outstanding, (lane.jobs number).ended = true := by
  unfold EngineLane.settling at settling
  unfold EngineLane.outstanding
  split at settling
  · next number sent clearing =>
      rw [clearing]
      exact ⟨number, List.mem_append_right _ List.mem_cons_self, settling⟩
  · next number sent dropping =>
      rw [dropping]
      exact ⟨number, List.mem_append_right _ List.mem_cons_self, settling⟩
  · cases settling

/-- While a job is outstanding, a submission is refused when it begins and never later. -/
theorem Engines.Lawful.ready_of_refused {index generation : Nat} {choice : SubmitChoice}
    (lawful : engines.Lawful)
    (taken : engineProgram.step engines (.thread index choice) = some next)
    (refused : (next.thread index).isRefused = true)
    (holds : engines.Holds (.job engine number) generation) : engines.thread index = .ready := by
  obtain ⟨current, custody⟩ := lawful.custody
  have alone : ∀ lease, (engines.thread index).lease ≠ some lease := by
    intro lease held
    have none_ := custody.outstanding_of_submission held engine
    rw [holds_job, none_] at holds
    exact List.not_mem_nil holds.1
  obtain ⟨system, own, submitted, rfl⟩ := Program.step_thread_eq_some_iff.mp taken
  dsimp only at refused
  rw [Function.update_self] at refused
  have submits := EngineSystem.submit_cases submitted
  generalize engines.thread index = before at submits alone
  cases submits with
  | denied _ _ | acquired _ _ => rfl
  | contended _ | gaveUp => exact (alone _ rfl).elim
  | activated _ | enqueued _ _ | disconnected _ | dropped | deactivated => cases refused

/-- A turn spares the ended jobs exactly when it begins no submission too early. -/
theorem Engines.Orderly.spares_iff {turn : Turn SubmitChoice EngineEvent}
    (orderly : engines.Orderly) (taken : engineProgram.step engines turn = some next) :
    engines.Spares turn ↔ engines.Settled turn := by
  constructor
  · intro spares
    cases turn with
    | event event => trivial
    | thread index choice =>
        intro ready engine
        by_contra settling
        obtain ⟨number, member, ended⟩ :=
          EngineLane.exists_of_settling (eq_true_of_ne_false settling)
        obtain ⟨current, custody⟩ := orderly.lawful.custody
        cases choice with
        | proceed =>
            obtain ⟨system, own, submitted, -⟩ := Program.step_thread_eq_some_iff.mp taken
            rw [ready] at submitted
            cases submitted
        | submit asked request =>
            have some_ : engines.outstanding ≠ [] :=
              List.ne_nil_of_mem (mem_outstanding.mpr member)
            have refuses := custody.refuses some_ ready asked request
            refine spares engine number ended ⟨index, _, _, _, rfl, refuses, ?_, member, rfl⟩
            dsimp only
            rw [Function.update_self]
            rfl
  · rintro settled engine number ended
      ⟨index, choice, after, generation, rfl, taken, refused, holds⟩
    have ready := orderly.lawful.ready_of_refused taken refused holds
    have clear := settled ready engine
    rw [(orderly.lanes engine).settling holds.1 ended] at clear
    cases clear

/-- A run refuses no submission on account of a job whose terminal update was read exactly
when no submission begins while the worker of such a job is settling. -/
theorem retry_spared_iff {start : Engines} (fresh : start.Fresh)
    (turns : List (Turn SubmitChoice EngineEvent)) :
    engineProgram.Obeys Engines.Spares start turns ↔
      engineProgram.Obeys Engines.Settled start turns := by
  have orderly := fresh.orderly
  clear fresh
  induction turns generalizing start with
  | nil => exact Iff.rfl
  | cons turn turns ih =>
      unfold Program.Obeys
      cases taken : engineProgram.step start turn with
      | none => simp
      | some next => exact and_congr (orderly.spares_iff taken) (ih (orderly.step taken))

/-- The worker of the job settles, and then another client submits. -/
theorem retry_spared_settled : engineProgram.Obeys Engines.Spares Engines.start
    (readTerminal ++ [.event (.worker .enrollment .proceed), .event (.worker .enrollment .proceed),
      .thread 1 (.submit .authentication ⟨⟨2⟩, 1000⟩)]) := by
  have first : ∀ engine, (Engines.start.shared.lane engine).settling = false := by
    intro engine
    cases engine <;> rfl
  apply (retry_spared_iff Engines.fresh_start _).mpr
  refine ⟨fun _ => first, nofun, nofun, trivial, trivial, trivial, trivial, trivial, trivial,
    trivial, trivial, trivial, trivial, trivial, fun _ engine => ?_, trivial⟩
  cases engine <;> rfl

/-- A client reads the terminal update of an enrollment, and the next submission is refused on
account of it. -/
theorem retry_refused : ∃ engines : Engines,
    engineProgram.Reaches (fun _ _ => True) Engines.start engines ∧
      ((engines.shared.lane .enrollment).jobs 0).ended = true ∧
        engines.RefusesFor (.thread 1 (.submit .authentication ⟨⟨2⟩, 1000⟩)) .enrollment 0 := by
  have read : engineProgram.Obeys (fun _ _ => True) Engines.start readTerminal := by decide
  have refused : (engineProgram.after Engines.start readTerminal).shared.submit
      (.submit .authentication ⟨⟨2⟩, 1000⟩) .ready =
        some (_, .returned .authentication (.error .busy)) := rfl
  obtain ⟨next, taken, -, own⟩ := step_submission
    (show (engineProgram.after Engines.start readTerminal).thread 1 = .ready from rfl) refused
  refine ⟨_, read.reaches, rfl, 1, _, next, 1, rfl, taken, ?_, by decide, rfl⟩
  rw [own, Function.update_self]
  rfl

end Retry

end FaceAuth
