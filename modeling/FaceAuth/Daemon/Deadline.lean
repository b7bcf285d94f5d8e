import Mathlib.Order.Monotone.Defs
import FaceAuth.Daemon.Coordinator

/-!
# The deadline at the socket boundary

Two questions about the coordinator and the session deadline, which is set on
the daemon clock: on which side of it evidence is turned into the terminal
response, and what an iteration does that begins after it.
-/

namespace FaceAuth

open Foundation

/-! ## Evidence -/

section Evidence

variable (environment : Environment) (policy : AuthenticationConnectionPolicy)
  (connection : ConnectionToken) (transactionId : TransactionId) (active : ActiveSession)

/-- The iteration that begins here takes evidence of the transaction from the engine. -/
def TakesEvidence (head : World) (evidence : DerivedAuthenticationEvidence) : Prop :=
  environment.next head = .update (.completed transactionId (.ok evidence)) ∧
    evidence.transactionId = transactionId

/-- The daemon clock when the evidence of an iteration was taken. -/
def evidenceClock (head : World) : Nat := environment.clock (head.moment + 1)

/-- The evidence with its timestamp on another clock. -/
def DerivedAuthenticationEvidence.stamped (evidence : DerivedAuthenticationEvidence)
    (completedAtMicros : Nat) : DerivedAuthenticationEvidence :=
  { evidence with completedAtMicros }

/-- The terminal response of an iteration stands on the same side of the deadline as
the daemon clock, and is the one that the same evidence has with the daemon's own
timestamp. -/
structure DeadlineEnforced (head : World) (evidence : DerivedAuthenticationEvidence) : Prop where
  decided : ∀ result final decision,
    coordinatorStep environment policy connection transactionId head = .done result final →
    final.answered = head.answered ++ [.completed transactionId decision] →
    decision.Biometric → evidenceClock environment head < active.deadlineMicros
  timedOut : ∀ result final,
    coordinatorStep environment policy connection transactionId head = .done result final →
    final.answered = head.answered ++ [.completed transactionId .timedOut] →
    active.deadlineMicros ≤ evidenceClock environment head
  originFree : ∀ result final,
    coordinatorStep environment policy connection transactionId head = .done result final →
    final.answered = (sendDerivedCompletion environment connection policy
      (evidence.stamped (evidenceClock environment head))
      (head.received (environment.next head))).2.answered

variable {environment policy connection transactionId active} {head : World}
  {evidence : DerivedAuthenticationEvidence}

/-- A turn that takes evidence sends the completion derived from it. -/
theorem coordinatorStep_of_evidence
    (takes : TakesEvidence environment transactionId head evidence) :
    coordinatorStep environment policy connection transactionId head =
      finish (sendDerivedCompletion environment connection policy evidence
        (head.received (environment.next head))) := by
  rw [coordinatorStep, takes.1]
  dsimp only
  rw [if_pos rfl]

/-- The completion is answered as derived, at the moment after the evidence. -/
theorem answered_sendDerivedCompletion (live : Live connection transactionId active head)
    (own : evidence.transactionId = transactionId) (received : Received) :
    (sendDerivedCompletion environment connection policy evidence
        (head.received received)).2.answered =
      head.answered ++ [derivedAnswer environment policy connection transactionId active evidence
        (head.moment + 1)] := by
  subst own
  have bound : (head.received received).sessions.Bound connection evidence.transactionId active :=
    live.bound
  rw [sendDerivedCompletion_of_bound bound, answered_deliver]
  rfl

variable (policy) in
/-- The iteration that takes evidence returns, with the answer to it. -/
theorem coordinatorStep_takes (live : Live connection transactionId active head)
    (takes : TakesEvidence environment transactionId head evidence) :
    ∃ result final,
      coordinatorStep environment policy connection transactionId head = .done result final ∧
        final.answered = head.answered ++ [derivedAnswer environment policy connection
          transactionId active evidence (head.moment + 1)] :=
  ⟨_, _, coordinatorStep_of_evidence takes, answered_sendDerivedCompletion live takes.2 _⟩

/-- A turn that takes evidence answers with its decision. -/
theorem answered_of_takes (live : Live connection transactionId active head)
    (takes : TakesEvidence environment transactionId head evidence)
    {result : Except BoundaryError Response} {final : World}
    (returns : coordinatorStep environment policy connection transactionId head =
      .done result final) :
    final.answered = head.answered ++ [derivedAnswer environment policy connection
      transactionId active evidence (head.moment + 1)] := by
  obtain ⟨other, after, found, answered⟩ := coordinatorStep_takes policy live takes
  rw [found, Flow.done.injEq] at returns
  rw [← returns.2]
  exact answered

/-- No decision on evidence is a timeout. -/
theorem derivedDecision_ne_timedOut {templates : TemplateSource}
    {completion : AuthenticationCompletion} {targetUid : UInt32} :
    derivedDecision templates completion targetUid ≠ .timedOut := by
  intro same
  have free : SessionManager.reserved (derivedDecision templates completion targetUid) = false :=
    derivedDecision_free
  rw [same] at free
  cases free

/-- The answer is a timeout exactly when the evidence is stamped after the deadline. -/
theorem derivedAnswer_eq_timedOut_iff (moment : Nat) :
    derivedAnswer environment policy connection transactionId active evidence moment =
        .completed transactionId .timedOut ↔
      active.deadlineMicros ≤ evidence.completedAtMicros := by
  rw [derivedAnswer, Response.completed.injEq, and_iff_right rfl]
  by_cases late : active.deadlineMicros ≤ evidence.completedAtMicros
  · rw [if_pos late]
    exact iff_of_true rfl late
  · rw [if_neg late]
    exact iff_of_false derivedDecision_ne_timedOut late

/-- Two timestamps have the same answer exactly when they stand on the same side of the
deadline. -/
theorem derivedAnswer_stamped_iff (moment completedAtMicros : Nat) :
    derivedAnswer environment policy connection transactionId active evidence moment =
        derivedAnswer environment policy connection transactionId active
          (evidence.stamped completedAtMicros) moment ↔
      (active.deadlineMicros ≤ evidence.completedAtMicros ↔
        active.deadlineMicros ≤ completedAtMicros) := by
  constructor
  · intro same
    have stamped : active.deadlineMicros ≤ evidence.completedAtMicros ↔
        derivedAnswer environment policy connection transactionId active evidence moment =
          .completed transactionId .timedOut := (derivedAnswer_eq_timedOut_iff moment).symm
    rw [stamped, same]
    exact derivedAnswer_eq_timedOut_iff moment
  · intro sides
    unfold derivedAnswer
    rw [if_congr sides rfl rfl]
    rfl

/-- The deadline is enforced on evidence exactly when its timestamp and the daemon clock
stand on the same side of the deadline. -/
theorem deadlineEnforced_iff (live : Live connection transactionId active head)
    (takes : TakesEvidence environment transactionId head evidence) :
    DeadlineEnforced environment policy connection transactionId active head evidence ↔
      (active.deadlineMicros ≤ evidence.completedAtMicros ↔
        active.deadlineMicros ≤ evidenceClock environment head) := by
  have stamped : (sendDerivedCompletion environment connection policy
      (evidence.stamped (evidenceClock environment head))
      (head.received (environment.next head))).2.answered =
        head.answered ++ [derivedAnswer environment policy connection transactionId active
          (evidence.stamped (evidenceClock environment head)) (head.moment + 1)] := by
    apply answered_sendDerivedCompletion live
    exact takes.2
  constructor
  · intro enforced
    obtain ⟨result, final, returns, answered⟩ := coordinatorStep_takes policy live takes
    have same := enforced.originFree result final returns
    rw [answered, stamped, List.append_cancel_left_eq, List.cons.injEq] at same
    exact (derivedAnswer_stamped_iff _ _).mp same.1
  · intro sides
    constructor
    · intro result final decision returns decided biometric
      rw [answered_of_takes live takes returns, List.append_cancel_left_eq, List.cons.injEq]
        at decided
      apply Nat.lt_of_not_le
      intro late
      rw [(derivedAnswer_eq_timedOut_iff _).mpr (sides.mpr late)] at decided
      cases decided.1
      exact biometric.2.1 rfl
    · intro result final returns expired
      rw [answered_of_takes live takes returns, List.append_cancel_left_eq, List.cons.injEq]
        at expired
      exact sides.mp ((derivedAnswer_eq_timedOut_iff _).mp expired.1)
    · intro result final returns
      rw [answered_of_takes live takes returns, stamped,
        (derivedAnswer_stamped_iff _ _).mpr sides]

end Evidence

/-- **The deadline on evidence.** A run of the loop enforces the deadline on all evidence
that it takes exactly when every timestamp stands on the same side of the deadline as
the daemon clock that reads it. -/
theorem coordinator_deadline_iff (environment : Environment)
    (policy : AuthenticationConnectionPolicy) (connection : ConnectionToken)
    (boundary : BoundaryService) (active : ActiveSession)
    (opens : Opens environment connection boundary active) :
    (∀ head evidence, Visited
        (coordinatorStep environment policy connection active.grant.transactionId)
        (firstHead environment connection boundary active) head →
      TakesEvidence environment active.grant.transactionId head evidence →
        DeadlineEnforced environment policy connection active.grant.transactionId active head
          evidence) ↔
    ∀ head evidence, Visited
        (coordinatorStep environment policy connection active.grant.transactionId)
        (firstHead environment connection boundary active) head →
      TakesEvidence environment active.grant.transactionId head evidence →
        (active.deadlineMicros ≤ evidence.completedAtMicros ↔
          active.deadlineMicros ≤ evidenceClock environment head) := by
  constructor
  · intro enforced head evidence visited takes
    exact (deadlineEnforced_iff (opens.visited visited) takes).mp
      (enforced head evidence visited takes)
  · intro sides head evidence visited takes
    exact (deadlineEnforced_iff (opens.visited visited) takes).mpr
      (sides head evidence visited takes)

/-- Evidence for the test session, stamped by the clock of the camera. -/
def DerivedAuthenticationEvidence.test (completedAtMicros : Nat) :
    DerivedAuthenticationEvidence where
  transactionId := ⟨7⟩
  timing := ⟨completedAtMicros, none⟩
  quality := 0.9
  embedding := ⟨List.replicate 64 97, []⟩
  passiveLiveness := []
  activeChallenge := .passed
  completedAtMicros := completedAtMicros

/-- An engine that returns evidence with this timestamp at once. -/
def Environment.stamped (completedAtMicros : Nat) : Environment :=
  { Environment.test with
    receive := fun _ _ => .update (.completed ⟨7⟩ (.ok (.test completedAtMicros))) }

/-- A request of the example takes evidence at the head of its loop. -/
theorem coordinator_deadline_iff_test :
    Opens (Environment.stamped 0) ⟨1⟩ BoundaryService.test ActiveSession.test ∧
      DeadlineEnforced (Environment.stamped 0) AuthenticationConnectionPolicy.test ⟨1⟩ ⟨7⟩
        ActiveSession.test
        (firstHead (Environment.stamped 0) ⟨1⟩ BoundaryService.test ActiveSession.test)
        (.test 0) := by
  have opens : Opens (Environment.stamped 0) ⟨1⟩ BoundaryService.test ActiveSession.test :=
    ⟨rfl, rfl⟩
  refine ⟨opens, ?_⟩
  refine (coordinator_deadline_iff _ _ _ _ _ opens).mpr ?_ _ _ .start ⟨rfl, rfl⟩
  rintro head evidence - ⟨found, -⟩
  cases found
  have still : evidenceClock (Environment.stamped 0) head = 0 := rfl
  rw [still]
  decide

/-- A camera clock twenty seconds ahead turns timely evidence into a timeout. -/
theorem coordinator_deadline_fails :
    Opens (Environment.stamped 20_000_000) ⟨1⟩ BoundaryService.test ActiveSession.test ∧
      ∃ final, coordinateAuthenticationConnection (Environment.stamped 20_000_000)
          AuthenticationConnectionPolicy.test ⟨1⟩ 1 BoundaryService.test =
            some (.ok (.completed ⟨7⟩ .timedOut), final) ∧
        final.delivered = [.started ⟨7⟩, .completed ⟨7⟩ .timedOut] ∧
        (∀ moment, (Environment.stamped 20_000_000).clock moment <
          ActiveSession.test.deadlineMicros) ∧
        ¬ DeadlineEnforced (Environment.stamped 20_000_000) AuthenticationConnectionPolicy.test
          ⟨1⟩ ⟨7⟩ ActiveSession.test
          (firstHead (Environment.stamped 20_000_000) ⟨1⟩ BoundaryService.test
            ActiveSession.test) (.test 20_000_000) := by
  have early : 0 < ActiveSession.test.deadlineMicros := by decide
  refine ⟨⟨rfl, rfl⟩, _, rfl, rfl, fun _ => early, fun enforced => ?_⟩
  have late := enforced.timedOut _ _ rfl rfl
  revert late
  decide

end FaceAuth
