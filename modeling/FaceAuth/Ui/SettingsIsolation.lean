import FaceAuth.Ui.SettingsWorld

/-!
# Isolation of the settings module

When the page follows none but its own operation, and none of its operations is
left running without an identifier to cancel it.
-/

namespace FaceAuth

open Foundation

namespace KcmWorld

section Isolation

variable {world : KcmWorld} {event : KcmEvent}

theorem shown_malformedSignal (kcm : FaceAuthKcm) : kcm.malformedSignal.shown = kcm.shown := by
  unfold FaceAuthKcm.malformedSignal
  split <;> rfl

theorem step_of_possible (possible : world.possible event = true) :
    (world.step event).2 = world.after event := by
  rw [step, if_pos possible]

theorem step_of_impossible (impossible : world.possible event = false) :
    (world.step event).2 = world := by
  rw [step, if_neg (Bool.eq_false_iff.mp impossible)]

/-- Without the gap, a signal that changes the page is of its own operation. -/
theorem Sound.isolated (sound : world.Sound) (possible : world.possible event = true)
    (meets : world.Meets event) : Isolated (entryAt step world event) := by
  intro operationId carried changed
  rw [entryAt_after, step_of_possible possible, entryAt_before] at changed
  cases event with
  | progressSignal id progress =>
      cases carried
      cases takes world.kcm operationId with
      | malformed wrong =>
          refine (changed ?_).elim
          simp only [KcmWorld.after, FaceAuthKcm.handleEnrollmentProgress, wrong, if_true,
            shown_malformedSignal]
      | foreign canonical kept other =>
          refine (changed ?_).elim
          simp only [KcmWorld.after, FaceAuthKcm.handleEnrollmentProgress, canonical,
            Bool.true_eq_false, if_false, kept, ne_eq, other, not_false_eq_true, if_true]
      | own canonical same => exact (sound.own_started canonical same meets).1
  | completedSignal id result =>
      cases carried
      cases takes world.kcm operationId with
      | malformed wrong =>
          refine (changed ?_).elim
          simp only [KcmWorld.after, FaceAuthKcm.handleEnrollmentCompleted, wrong, if_true,
            shown_malformedSignal]
      | foreign canonical kept other =>
          refine (changed ?_).elim
          simp only [KcmWorld.after, FaceAuthKcm.handleEnrollmentCompleted, canonical,
            Bool.true_eq_false, if_false, kept, ne_eq, other, not_false_eq_true, if_true]
      | own canonical same => exact (sound.own_started canonical same meets).1
  | _ => cases carried

/-- A signal that the waiting page adopts changes the page. -/
theorem shown_progress_ne {kcm : FaceAuthKcm} {operationId progress : String}
    (state : kcm.pageState = .authorizing) (blank : kcm.operationId = "")
    (canonical : isCanonicalOperationId operationId = true) :
    (kcm.handleEnrollmentProgress operationId progress).shown ≠ kcm.shown := by
  have adopted : kcm.adopt operationId = { kcm with operationId := operationId } := by
    rw [FaceAuthKcm.adopt, if_pos ⟨blank, state⟩]
  have taken : (kcm.handleEnrollmentProgress operationId progress).operationId = operationId := by
    unfold FaceAuthKcm.handleEnrollmentProgress
    simp only [canonical, Bool.true_eq_false, if_false, adopted, ne_eq, not_true_eq_false]
    split_ifs <;> rfl
  intro same
  have held : operationId = kcm.operationId :=
    taken.symm.trans (congrArg (fun shown => shown.2.2.2.1) same)
  exact canonical_ne_empty canonical (held.trans blank)

theorem shown_completed_ne {kcm : FaceAuthKcm} {operationId result : String}
    (state : kcm.pageState = .authorizing) (blank : kcm.operationId = "")
    (canonical : isCanonicalOperationId operationId = true) :
    (kcm.handleEnrollmentCompleted operationId result).shown ≠ kcm.shown := by
  have adopted : kcm.adopt operationId = { kcm with operationId := operationId } := by
    rw [FaceAuthKcm.adopt, if_pos ⟨blank, state⟩]
  have taken : (kcm.handleEnrollmentCompleted operationId result).pageState = .terminal := by
    unfold FaceAuthKcm.handleEnrollmentCompleted
    simp only [canonical, Bool.true_eq_false, if_false, adopted, ne_eq, not_true_eq_false]
  intro same
  have held : PageState.terminal = kcm.pageState :=
    taken.symm.trans (congrArg (fun shown => shown.2.2.2.2) same)
  rw [state] at held
  cases held

/-- Where the page is isolated and nothing is left running, the event did not reach the gap. -/
theorem Sound.meets (sound : world.Sound) (possible : world.possible event = true)
    (isolated : Isolated (entryAt step world event)) (held : (world.step event).2.Held) :
    world.Meets event := by
  rw [step_of_possible possible] at held
  cases event with
  | progressSignal operationId progress =>
      intro state blank canonical
      refine isolated operationId rfl ?_
      rw [entryAt_after, step_of_possible possible]
      exact shown_progress_ne state blank canonical
  | completedSignal operationId result =>
      intro state blank canonical
      refine isolated operationId rfl ?_
      rw [entryAt_after, step_of_possible possible]
      exact shown_completed_ne state blank canonical
  | serviceUnregistered =>
      intro generation operationId running
      rcases held generation operationId running with known | ⟨-, current⟩
      · exact canonical_ne_empty (sound.canonical (generation, operationId) running.1) known.symm
      · have bound := sound.bounded generation (.inl (sound.called _ running.1))
        have later : world.kcm.generation + 1 = generation := current
        omega
  | beginReply generation reply =>
      cases reply with
      | ok operationId => trivial
      | error error =>
          intro operationId running
          have current := sound.current running
          subst current
          rcases held _ operationId running with known | ⟨waits, -⟩
          · have blank : (world.kcm.beginReply world.kcm.generation (.error error)).operationId =
                "" := by
              unfold FaceAuthKcm.beginReply FaceAuthKcm.abandon
              simp
            exact canonical_ne_empty (sound.canonical _ running.1) (known.symm.trans blank)
          · exact waits List.mem_cons_self
  | operationStarts generation operationId =>
      simp only [KcmWorld.possible, Bool.and_eq_true, List.contains_iff_mem, List.all_eq_true,
        bne_iff_ne] at possible
      have runs : generation ∉ world.ended := fun member => by
        obtain ⟨operation, started, same⟩ := sound.finished generation member
        exact (possible.2 operation started).1 same
      rcases held generation operationId ⟨List.mem_cons_self, runs⟩ with known | waits
      · have taken : world.kcm.operationId = operationId := known
        have started := sound.own (by
          rw [taken]
          exact canonical_ne_empty possible.1.2)
        exact ((possible.2 _ started).2 taken).elim
      · exact waits
  | _ => trivial

theorem sound_initial : initial.Sound where
  held := nofun
  own known := (known rfl).elim
  engaged taken := by
    rcases taken with known | ⟨sent, -⟩
    · exact (known rfl).elim
    · revert sent
      decide
  resumes := rfl
  bounded generation := by
    simp [initial, FaceAuthKcm.opened, FaceAuthKcm.refresh, FaceAuthKcm.busy, PageState.busy]
    omega
  apart generation sent := by
    simp [initial, FaceAuthKcm.opened, FaceAuthKcm.refresh, FaceAuthKcm.busy,
      PageState.busy] at sent
  called := nofun
  canonical := nofun
  unique := nofun
  replied := nofun
  finished := nofun

/-- The page is isolated from foreign operations, and no operation of its own is left running,
over every sequence of events of which none reaches the gap, and over no other. -/
theorem run_isolated_iff (sound : world.Sound) (events : List KcmEvent) :
    (∀ entry ∈ run step world events, entry.before.possible entry.action = true →
        entry.before.Meets entry.action) ↔
      ∀ entry ∈ run step world events, Isolated entry ∧ entry.after.Held := by
  induction events generalizing world with
  | nil => simp
  | cons event events ih =>
      rw [run_cons, List.forall_mem_cons, List.forall_mem_cons, entryAt_before, entryAt_action,
        entryAt_after]
      cases possible : world.possible event with
      | false =>
          have still := step_of_impossible possible
          have first : Isolated (entryAt step world event) ∧ (step world event).2.Held := by
            rw [still]
            exact ⟨fun _ _ changed => (changed (by rw [entryAt_after, still]; rfl)).elim,
              sound.held⟩
          rw [← ih (by rw [still]; exact sound)]
          simp [first]
      | true =>
          constructor
          · rintro ⟨meets, rest⟩
            have next := sound.after possible (meets rfl)
            rw [← step_of_possible possible] at next
            exact ⟨⟨sound.isolated possible (meets rfl), next.held⟩, (ih next).mp rest⟩
          · rintro ⟨⟨isolated, held⟩, rest⟩
            have meets := sound.meets possible isolated held
            have next := sound.after possible meets
            rw [← step_of_possible possible] at next
            exact ⟨fun _ => meets, (ih next).mpr rest⟩

theorem settings_isolated_iff (events : List KcmEvent) :
    (∀ entry ∈ run step initial events, entry.before.possible entry.action = true →
        entry.before.Meets entry.action) ↔
      ∀ entry ∈ run step initial events, Isolated entry ∧ entry.after.Held :=
  run_isolated_iff sound_initial events

/-- While this page is authorizing, the enrollment of another user completes, and then its own
operation is started and its identifier returned. -/
def raceRun : List KcmEvent :=
  [.versionReply 1 (.ok 2), .enrollmentStateReply 1 (.ok false), .beginEnrollment,
    .completedSignal "11111111-2222-4333-8444-555555555555" "completed",
    .operationStarts 2 "99999999-8888-4777-8666-555555555555",
    .beginReply 2 (.ok "99999999-8888-4777-8666-555555555555")]

/-- The page then shows a success that was not its own, and holds no identifier of the
operation that runs for it. -/
theorem settings_race :
    (∀ entry ∈ run step initial raceRun, entry.before.possible entry.action = true) ∧
      (final step initial raceRun).kcm.enrolled = true ∧
      (final step initial raceRun).kcm.outcome = "succeeded" ∧
      (final step initial raceRun).kcm.operationId = "" ∧
      (final step initial raceRun).Running 2 "99999999-8888-4777-8666-555555555555" ∧
      ¬ ∀ entry ∈ run step initial raceRun, Isolated entry ∧ entry.after.Held := by
  refine ⟨by decide +kernel, by decide +kernel, by decide +kernel, by decide +kernel,
    ⟨by decide +kernel, by decide +kernel⟩, fun claimed => ?_⟩
  have foreign := (claimed ((run step initial raceRun).get ⟨3, by decide +kernel⟩)
    (List.get_mem _ _)).1 "11111111-2222-4333-8444-555555555555" rfl (by decide +kernel)
  exact absurd foreign (by decide +kernel)

end Isolation

end KcmWorld

end FaceAuth
