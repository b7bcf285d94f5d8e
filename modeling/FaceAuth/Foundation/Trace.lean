import FaceAuth.Foundation.Loop

/-!
# What a loop observes

Every iteration of a loop observes a list of labels at the state at which it
begins. The labels of all iterations, in order, are the trace of the run.
-/

namespace Foundation

variable {State Result Label : Type}

/-- The labels of at most the given number of iterations. -/
def trace (body : State → Flow State Result) (observe : State → List Label) :
    Nat → State → List Label
  | 0, _ => []
  | fuel + 1, state =>
      observe state ++
        match body state with
        | .again next => trace body observe fuel next
        | .done _ _ => []

/-- The states at which an iteration begins, with the labels of those before it. -/
inductive Traced (body : State → Flow State Result) (observe : State → List Label)
    (start : State) : List Label → State → Prop where
  | start : Traced body observe start [] start
  | next {labels : List Label} {state next : State}
      (earlier : Traced body observe start labels state) (goes : body state = .again next) :
      Traced body observe start (labels ++ observe state) next

variable {body : State → Flow State Result} {observe : State → List Label}
  {start state final : State} {result : Result} {labels : List Label}

/-- An iteration that goes on is observed before the rest. -/
theorem trace_of_again {next : State} (goes : body state = .again next) (fuel : Nat) :
    trace body observe (fuel + 1) state = observe state ++ trace body observe fuel next := by
  rw [trace, goes]

/-- An iteration that is done is observed last. -/
theorem trace_of_done (ends : body state = .done result final) (fuel : Nat) :
    trace body observe (fuel + 1) state = observe state := by
  rw [trace, ends]
  exact List.append_nil _

variable (observe) in
/-- Nothing is observed after a loop returned. -/
theorem trace_prefix_of_returns {fuel : Nat}
    (returns : iterate body fuel state = some (result, final)) (other : Nat) :
    trace body observe other state <+: trace body observe fuel state := by
  induction fuel generalizing other state with
  | zero => cases returns
  | succ fuel ih =>
      cases other with
      | zero => exact List.nil_prefix
      | succ other =>
          cases shape : body state with
          | again next =>
              rw [iterate_of_again shape] at returns
              rw [trace_of_again shape, trace_of_again shape, List.prefix_append_right_inj]
              exact ih returns other
          | done answer after =>
              simp only [trace_of_done shape, List.prefix_rfl]

/-- The labels of the iterations up to a state come first in the trace. -/
theorem Traced.trace_add (traced : Traced body observe start labels state) :
    ∃ past, ∀ fuel, trace body observe (past + fuel) start =
      labels ++ trace body observe fuel state := by
  induction traced with
  | start => exact ⟨0, fun fuel => by rw [Nat.zero_add, List.nil_append]⟩
  | next earlier goes ih =>
      obtain ⟨past, same⟩ := ih
      refine ⟨past + 1, fun fuel => ?_⟩
      rw [Nat.add_assoc, Nat.add_comm 1, same, trace_of_again goes, List.append_assoc]

/-- The labels up to a state and those of the state itself are the beginning of a trace. -/
theorem Traced.exists_trace (traced : Traced body observe start labels state) :
    ∃ fuel, labels ++ observe state <+: trace body observe fuel start := by
  obtain ⟨past, same⟩ := traced.trace_add
  refine ⟨past + 1, ?_⟩
  rw [same, List.prefix_append_right_inj]
  exact List.prefix_append ..

/-- What is traced was visited. -/
theorem Traced.visited (traced : Traced body observe start labels state) :
    Visited body start state := by
  induction traced with
  | start => exact .start
  | next earlier goes ih => exact .next ih goes

variable (observe) in
/-- What was visited is traced. -/
theorem Visited.traced (visited : Visited body start state) :
    ∃ labels, Traced body observe start labels state := by
  induction visited with
  | start => exact ⟨[], .start⟩
  | next earlier goes ih =>
      obtain ⟨labels, traced⟩ := ih
      exact ⟨_, .next traced goes⟩

variable (observe) in
/-- The iteration that returns, with the trace of the whole run. -/
theorem iterate_traced {fuel : Nat} (returns : iterate body fuel start = some (result, final)) :
    ∃ labels last, Traced body observe start labels last ∧ body last = .done result final ∧
      trace body observe fuel start = labels ++ observe last := by
  have general : ∀ fuel labels state, Traced body observe start labels state →
      iterate body fuel state = some (result, final) →
        ∃ labels' last, Traced body observe start labels' last ∧ body last = .done result final ∧
          labels ++ trace body observe fuel state = labels' ++ observe last := by
    intro fuel
    induction fuel with
    | zero =>
        intro labels state _ impossible
        cases impossible
    | succ fuel ih =>
        intro labels state traced found
        cases outcome : body state with
        | again next =>
            rw [iterate_of_again outcome] at found
            obtain ⟨labels', last, reached, ends, same⟩ := ih _ next (.next traced outcome) found
            refine ⟨labels', last, reached, ends, ?_⟩
            rw [trace_of_again outcome, ← List.append_assoc, same]
        | done answer after =>
            rw [iterate_of_done outcome, Option.some.injEq, Prod.mk.injEq] at found
            obtain ⟨rfl, rfl⟩ := found
            exact ⟨labels, state, traced, outcome, by rw [trace_of_done outcome]⟩
  obtain ⟨labels, last, traced, ends, same⟩ := general fuel [] start .start returns
  exact ⟨labels, last, traced, ends, by rw [← same, List.nil_append]⟩

end Foundation
