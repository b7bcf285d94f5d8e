import FaceAuth.Enrollment.Soundness

/-!
# Refusals of observations that are not live

A failed liveness check closes an enrollment for good, except where an earlier
check answers first: the quality of a fresh observation is looked at before its
liveness, and a low quality may be tried again.
-/

namespace FaceAuth

open Foundation

/-- Passive and active liveness both passed. -/
def EnrollmentObservation.Live (observation : EnrollmentObservation) : Prop :=
  observation.passiveLivenessPassed = true ∧ observation.activeLivenessPassed = true

instance (observation : EnrollmentObservation) : Decidable observation.Live :=
  inferInstanceAs (Decidable (_ ∧ _))

namespace EnrollmentSession

variable {session : EnrollmentSession} {observation : EnrollmentObservation}

/-- The quality is a score at or above the configured minimum. -/
def Sharp (session : EnrollmentSession) (observation : EnrollmentObservation) : Prop :=
  UnitScore observation.quality ∧ ¬ observation.quality < session.config.minimumQuality

instance : Decidable (session.Sharp observation) := inferInstanceAs (Decidable (_ ∧ _))

/-- An observation that is not live ends the transaction in failure, and only a
live one may be tried again. -/
structure RefusesForGood (session : EnrollmentSession) (observation : EnrollmentObservation) :
    Prop where
  closed : ¬ observation.Live → (session.observe observation).2.terminalFailure = true
  refused : ¬ observation.Live → ∀ later,
    ∀ entry ∈ ((session.observe observation).2.observeAll later).1,
      ∃ error, entry.2 = .error error
  unfinished : ¬ observation.Live → ∀ later nowMicros,
    ∃ error, ((session.observe observation).2.observeAll later).2.finish nowMicros =
      .error error
  retriable : (session.observe observation).1 = .error .insufficientQuality → observation.Live

/-- Freshness comes first of all. -/
theorem validateObservation_staleObservation_iff :
    session.validateObservation observation = .error .staleObservation ↔
      ¬ session.Fresh observation.timestampMicros := by
  simp only [validateObservation, require_bind_eq_error_iff, require_eq_error_iff,
    reduceCtorEq, and_false, or_false, and_true]

/-- Freshness comes first, and quality before everything else. -/
theorem validateObservation_insufficientQuality_iff :
    session.validateObservation observation = .error .insufficientQuality ↔
      session.Fresh observation.timestampMicros ∧ ¬ session.Sharp observation := by
  simp only [validateObservation, require_bind_eq_error_iff, require_eq_error_iff,
    reduceCtorEq, and_false, false_or, or_false, and_true]
  rfl

/-- What an open transaction refuses a valid observation with. -/
def Unfit (session : EnrollmentSession) (error : EnrollmentError) : Prop :=
  (error = .sampleLimitReached ∧ session.config.maximumSamples ≤ session.samples.length) ∨
    error = .inconsistentIdentity ∨ error = .embeddingIncompatible ∨ error = .embeddingInvalid

/-- An open transaction refuses invalid observations, and those that do not fit it. -/
theorem observe_refused {error : EnrollmentError} (open_ : session.terminalFailure = false)
    (refused : (session.observe observation).1 = .error error) :
    session.validateObservation observation = .error error ∨ session.Unfit error := by
  rw [observe, if_neg (by rw [open_]; exact Bool.false_ne_true)] at refused
  change (session.observeInner observation).1 = _ at refused
  rw [observeInner] at refused
  split at refused
  · next error invalid =>
      cases refused
      exact .inl invalid
  · split at refused
    · next full =>
        cases refused
        exact .inr (.inl ⟨rfl, full⟩)
    · split at refused
      · cases refused
        exact .inr (.inr (.inr (.inl rfl)))
      · split at refused
        · next error inconsistent =>
            cases refused
            exact .inr (.inr (checkConsistency_error inconsistent))
        · cases refused

/-- An invalid observation is refused with what is wrong about it. -/
theorem observe_invalid {error : EnrollmentError} (open_ : session.terminalFailure = false)
    (invalid : session.validateObservation observation = .error error) :
    (session.observe observation).1 = .error error := by
  rw [observe, if_neg (by rw [open_]; exact Bool.false_ne_true)]
  change (session.observeInner observation).1 = _
  rw [observeInner, invalid]

/-- Only an open transaction offers another try, and only for a fresh observation
of low quality. -/
theorem observe_insufficientQuality_iff :
    (session.observe observation).1 = .error .insufficientQuality ↔
      session.terminalFailure = false ∧ session.Fresh observation.timestampMicros ∧
        ¬ session.Sharp observation := by
  rw [← validateObservation_insufficientQuality_iff]
  constructor
  · intro refused
    by_cases open_ : session.terminalFailure = false
    · refine ⟨open_, (observe_refused open_ refused).resolve_right ?_⟩
      simp only [Unfit, reduceCtorEq, false_and, or_self, not_false_eq_true]
    · rw [observe, if_pos (by simpa using open_)] at refused
      cases refused
  · rintro ⟨open_, invalid⟩
    exact observe_invalid open_ invalid

/-- An open transaction finds an observation stale exactly if it is not fresh. -/
theorem observe_staleObservation_iff (open_ : session.terminalFailure = false) :
    (session.observe observation).1 = .error .staleObservation ↔
      ¬ session.Fresh observation.timestampMicros := by
  rw [← validateObservation_staleObservation_iff]
  constructor
  · intro refused
    refine (observe_refused open_ refused).resolve_right ?_
    simp only [Unfit, reduceCtorEq, false_and, or_self, not_false_eq_true]
  · exact observe_invalid open_

/-- An observation that is not live is never accepted. -/
theorem observe_error (dead : ¬ observation.Live) :
    ∃ error, (session.observe observation).1 = .error error := by
  match observed : session.observe observation with
  | (.error error, _) => exact ⟨error, rfl⟩
  | (.ok (), _) =>
      cases observe_cases observed with
      | retains _ admits _ _ _ => exact absurd admits.live dead

/-- The transaction is closed unless it asked for another try. -/
theorem observe_closes_iff (dead : ¬ observation.Live) :
    (session.observe observation).2.terminalFailure = true ↔
      (session.observe observation).1 ≠ .error .insufficientQuality := by
  obtain ⟨error, failed⟩ := session.observe_error dead
  have observed : session.observe observation = (.error error, (session.observe observation).2) :=
    Prod.ext failed rfl
  constructor
  · intro closed retried
    have unchanged : (session.observe observation).2 = session :=
      observe_discards (Prod.ext retried rfl)
    rw [unchanged, (observe_insufficientQuality_iff.mp retried).1] at closed
    exact Bool.false_ne_true closed
  · intro final
    exact observe_closes observed fun low => final (failed.trans (congrArg Except.error low))

/-- Liveness is refused for good except where a fresh observation of low quality
reaches an open transaction. -/
theorem refusesForGood_iff :
    session.RefusesForGood observation ↔
      observation.Live ∨ session.terminalFailure = true ∨
        ¬ session.Fresh observation.timestampMicros ∨ session.Sharp observation := by
  constructor
  · intro refuses
    by_contra hidden
    simp only [not_or, not_not, Bool.not_eq_true] at hidden
    obtain ⟨dead, open_, fresh, blurred⟩ := hidden
    exact dead (refuses.retriable (observe_insufficientQuality_iff.mpr ⟨open_, fresh, blurred⟩))
  · intro visible
    have live : (session.observe observation).1 = .error .insufficientQuality →
        observation.Live := by
      intro retried
      obtain ⟨open_, fresh, blurred⟩ := observe_insufficientQuality_iff.mp retried
      rcases visible with live | failed | stale | sharp
      · exact live
      · exact absurd (open_.symm.trans failed) Bool.false_ne_true
      · exact absurd fresh stale
      · exact absurd sharp blurred
    have closed : ¬ observation.Live →
        (session.observe observation).2.terminalFailure = true := by
      intro dead
      exact (observe_closes_iff dead).mpr fun retried => dead (live retried)
    refine ⟨closed, ?_, ?_, live⟩
    · intro dead later entry member
      exact ⟨_, (observeAll_closed (closed dead) rfl).2 entry member⟩
    · intro dead later nowMicros
      exact ⟨_, finish_closed (observeAll_closed (closed dead) rfl).1 nowMicros⟩

/-- Any number of fresh observations of low quality leaves the transaction as it
was, whether or not they are live. -/
theorem observeAll_blurred {observations : List EnrollmentObservation}
    (open_ : session.terminalFailure = false)
    (blurred : ∀ observation ∈ observations,
      session.Fresh observation.timestampMicros ∧ ¬ session.Sharp observation) :
    (session.observeAll observations).2 = session := by
  induction observations with
  | nil => rfl
  | cons observation observations ih =>
      have retried := observe_insufficientQuality_iff.mpr
        ⟨open_, blurred observation List.mem_cons_self⟩
      have unchanged : (session.observe observation).2 = session :=
        observe_discards (Prod.ext retried rfl)
      rw [observeAll_cons, unchanged]
      exact ih fun later member => blurred later (List.mem_cons_of_mem _ member)

/-- A blurred observation that failed both liveness checks. -/
def blurredSpoof : EnrollmentObservation :=
  { steadyObservation 2_000_000 0.5 0.0 with
    passiveLivenessPassed := false
    activeLivenessPassed := false }

/-- A blurred spoof may be presented again. -/
theorem blurredSpoof_retried :
    ¬ ∀ (session : EnrollmentSession) (observation : EnrollmentObservation),
      session.RefusesForGood observation := by
  intro refuses
  have retried : (steadySession.observe blurredSpoof).1 = .error .insufficientQuality := by
    decide +kernel
  have live := (refuses steadySession blurredSpoof).retriable retried
  exact Bool.false_ne_true live.1

end EnrollmentSession

end FaceAuth
