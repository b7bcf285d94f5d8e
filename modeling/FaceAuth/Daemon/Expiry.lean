import Mathlib.Order.Monotone.Defs
import FaceAuth.Daemon.Deadline

/-!
# Expiry in the coordinator's loop

What an iteration does that begins at or after the session deadline. The loop
compares the clock with the deadline only inside the session operations, so an
iteration that calls none of them goes on waiting.
-/

namespace FaceAuth

open Foundation

/-- The terminal responses between two worlds: those that were drawn up, and those that
were written unless the connection failed. -/
structure Terminals (terminals : List Response) (before after : World) : Prop where
  answered : ∃ extra, after.answered = before.answered ++ extra ∧
    extra.filter Response.IsCompletion = terminals
  written : after.failed = true ∨ ∃ sent, after.delivered = before.delivered ++ sent ∧
    sent.filter Response.IsCompletion = terminals

/-- The transaction has ended with one terminal response, its timeout. -/
structure Expired (transactionId : TransactionId) (active : ActiveSession)
    (before after : World) : Prop where
  terminals : Terminals [.completed transactionId .timedOut] before after
  empty : after.sessions.active = none
  raised : after.sessions.isCancelled active.cancellation = true

/-- An iteration that ends the transaction with its timeout. -/
def Expires (transactionId : TransactionId) (active : ActiveSession) (before : World)
    (flow : Flow World (Except BoundaryError Response)) : Prop :=
  ∃ result final, flow = .done result final ∧ Expired transactionId active before final

section Conditions

variable (environment : Environment) (transactionId : TransactionId) (active : ActiveSession)

/-- A look at the client at this moment ends the transaction: its connection fails, or it
asks for the cancellation. -/
def PollEnds (moment : Nat) : Prop :=
  match environment.pending moment with
  | .ok false => False
  | .error _ => True
  | .ok true =>
      match environment.read (moment + 1) with
      | .error _ => True
      | .ok request => request = .cancel transactionId ∨ environment.write (moment + 2) ≠ .ok ()

/-- A late iteration that begins at this moment calls a session operation, with a time
that is late too. -/
def ChecksDeadline (moment : Nat) : Prop :=
  match environment.receive moment false with
  | .update (.completed subject (.ok evidence)) =>
      subject = transactionId →
        evidence.transactionId = transactionId ∧
          active.deadlineMicros ≤ evidence.completedAtMicros
  | .update (.completed _ (.error _)) => True
  | .update (.progress _ _) => True
  | .disconnected => True
  | .timeout => PollEnds environment transactionId (moment + 1)

end Conditions

section Steps

variable {environment : Environment} {policy : AuthenticationConnectionPolicy}
  {connection : ConnectionToken} {transactionId : TransactionId} {active : ActiveSession}
  {before world : World} {flow : Flow World (Except BoundaryError Response)}

/-- Nothing is told while nothing happens. -/
theorem Terminals.refl (world : World) : Terminals [] world world :=
  ⟨⟨[], by simp⟩, .inr ⟨[], by simp⟩⟩

/-- Only what is answered, what is written and whether the connection failed counts. -/
theorem Terminals.congr {terminals : List Response} {after : World}
    (since : Terminals terminals before world) (answered : after.answered = world.answered)
    (delivered : after.delivered = world.delivered) (failed : after.failed = world.failed) :
    Terminals terminals before after := by
  obtain ⟨drawn, written⟩ := since
  exact ⟨answered ▸ drawn, failed ▸ delivered ▸ written⟩

/-- A delivery adds its response if that completes a transaction. -/
theorem Terminals.deliver {terminals : List Response} (since : Terminals terminals before world)
    (environment : Environment) (response : Response) :
    Terminals (terminals ++ [response].filter Response.IsCompletion) before
      (deliver environment response world).2 := by
  constructor
  · obtain ⟨extra, answered, kept⟩ := since.answered
    refine ⟨extra ++ [response], ?_, ?_⟩
    · rw [answered_deliver, answered, List.append_assoc]
    · rw [List.filter_append, kept]
  · rcases since.written with failed | ⟨sent, delivered, kept⟩
    · exact .inl (failed_deliver failed)
    · rcases delivered_or_failed environment response world with failed | written
      · exact .inl failed
      · refine .inr ⟨sent ++ [response], ?_, ?_⟩
        · rw [written, delivered, List.append_assoc]
        · rw [List.filter_append, kept]

/-- The timeout of a live transaction ends it. -/
theorem Live.expired (live : Live connection transactionId active world) {after : World}
    (since : Terminals [] before after) (environment : Environment) :
    Expired transactionId active before (FaceAuth.deliver environment
      (.completed transactionId .timedOut)
      (after.withSessions (world.sessions.release active))).2 := by
  have released : Terminals [] before (after.withSessions (world.sessions.release active)) :=
    since.congr rfl rfl rfl
  refine ⟨released.deliver environment (.completed transactionId .timedOut), ?_, ?_⟩
  · rw [sessions_deliver]
    rfl
  · rw [sessions_deliver]
    exact live.release.raised

/-- A drain after the timeout adds no other terminal. -/
theorem Expired.drained (expired : Expired transactionId active before world)
    (closed : Closed active world) (environment : Environment)
    (result : Except BoundaryError Response) :
    Expires transactionId active before (drainThen environment result world) := by
  obtain ⟨answer, final, returns, -, same, -⟩ := drainThen_spec environment closed result
  refine ⟨answer, final, returns, ?_⟩
  exact {
    terminals := expired.terminals.congr same.answered same.delivered same.failed
    empty := same.sessions ▸ expired.empty
    raised := same.sessions ▸ expired.raised }

/-- A failed look at the client ends nothing, and leaves a failed connection. -/
theorem Lost.since {error : TransportError} {after : World} (since : Terminals [] before world)
    (cause : Lost environment transactionId world error after) :
    Terminals [] before after ∧ after.failed = true ∧ world.moment ≤ after.moment := by
  cases cause with
  | poll broken => exact ⟨⟨since.answered, .inl rfl⟩, rfl, Nat.le_succ _⟩
  | read pending broken =>
      exact ⟨⟨since.answered, .inl rfl⟩, rfl, Nat.le_add_right _ 2⟩
  | write pending read other broken =>
      have ticked : Terminals [] before world.tick.tick := since.congr rfl rfl rfl
      refine ⟨ticked.deliver environment (.rejected _ _), (deliver_of_error broken).2, ?_⟩
      rw [moment_deliver]
      exact Nat.le_add_right _ 3

/-- A late cancellation is answered as a timeout. -/
theorem cancellationAnswer_of_late {nowMicros : Nat} (late : active.deadlineMicros ≤ nowMicros) :
    cancellationAnswer transactionId active nowMicros = .completed transactionId .timedOut := by
  rw [cancellationAnswer, if_pos late]

/-- A late failure is answered as a timeout. -/
theorem failureAnswer_of_late {nowMicros : Nat} (late : active.deadlineMicros ≤ nowMicros) :
    failureAnswer transactionId active nowMicros = .completed transactionId .timedOut := by
  rw [failureAnswer, if_pos late]

/-- Cancelling a late transaction on a failed connection is its timeout. -/
theorem Live.expired_abandoned (live : Live connection transactionId active world)
    (since : Terminals [] before world) (failed : world.failed = true)
    (late : active.deadlineMicros ≤ environment.clock world.moment) :
    Expired transactionId active before (world.abandoned environment transactionId active) := by
  have closed := live.abandoned environment
  refine ⟨⟨?_, .inl failed⟩, closed.empty, closed.raised⟩
  obtain ⟨extra, answered, kept⟩ := since.answered
  refine ⟨extra ++ [.completed transactionId .timedOut], ?_, ?_⟩
  · rw [World.abandoned, answered, List.append_assoc, cancellationAnswer_of_late late]
  · rw [List.filter_append, kept]
    rfl

/-- A late look at the client expires the transaction exactly when it ends it. -/
theorem Polled.expires_iff (live : Live connection transactionId active world)
    (since : Terminals [] before world)
    (late : ∀ moment, world.moment ≤ moment → active.deadlineMicros ≤ environment.clock moment)
    (polled : Polled environment transactionId active world flow) :
    Expires transactionId active before flow ↔
      PollEnds environment transactionId world.moment := by
  cases polled with
  | idle quiet =>
      rw [PollEnds, quiet]
      refine iff_of_false (fun expires => ?_) id
      obtain ⟨_, _, returns, -⟩ := expires
      cases returns
  | refused pending read other written =>
      rw [PollEnds, pending]
      dsimp only
      rw [read]
      refine iff_of_false (fun expires => ?_) (fun ends => ends.elim other (absurd written))
      obtain ⟨_, _, returns, -⟩ := expires
      cases returns
  | cancelled pending read written =>
      subst written
      rw [PollEnds, pending]
      dsimp only
      rw [read]
      refine iff_of_true ?_ (.inl rfl)
      rw [cancellationAnswer_of_late (late _ (Nat.le_succ _))]
      have ticked : Terminals [] before world.tick.tick := since.congr rfl rfl rfl
      exact (live.tick.tick.expired ticked environment).drained
        (live.tick.tick.release.deliver environment _) environment _
  | lost cause =>
      obtain ⟨after, failed, later⟩ := cause.since since
      have ended := (cause.live live).expired_abandoned after failed (late _ later)
      refine iff_of_true (ended.drained ((cause.live live).abandoned environment) environment _) ?_
      cases cause with
      | poll broken =>
          rw [PollEnds, broken]
          trivial
      | read pending broken =>
          rw [PollEnds, pending]
          dsimp only
          rw [broken]
          trivial
      | write pending read other broken =>
          rw [PollEnds, pending]
          dsimp only
          rw [read, broken]
          exact .inr fun impossible => by cases impossible

/-- A late iteration expires the transaction exactly when it checks the deadline. -/
theorem Stepped.expires_iff (live : Live connection transactionId active world)
    (late : ∀ moment, world.moment ≤ moment → active.deadlineMicros ≤ environment.clock moment)
    (stepped : Stepped environment policy connection transactionId active world flow) :
    Expires transactionId active world flow ↔
      ChecksDeadline environment transactionId active world.moment := by
  have later : active.deadlineMicros ≤ environment.clock (world.moment + 1) :=
    late _ (Nat.le_succ _)
  have since : ∀ received, Terminals [] world (world.received received) :=
    fun _ => (Terminals.refl world).congr rfl rfl rfl
  cases stepped with
  | silent found polled =>
      rw [ChecksDeadline, found]
      exact polled.expires_iff (live.received id) (since _)
        (fun moment reached => late moment (Nat.le_of_succ_le reached))
  | progressed found early written polled => exact absurd later (Nat.not_le_of_lt early)
  | progressLost found early broken => exact absurd later (Nat.not_le_of_lt early)
  | timedOut found reached written =>
      rename_i code
      rw [ChecksDeadline, found]
      refine iff_of_true ?_ trivial
      have after : Live connection transactionId active
          (world.received (.update (.progress transactionId code))) := live.received id
      exact (after.expired (since _) environment).drained (after.release.deliver environment _)
        environment _
  | timeoutLost found reached broken =>
      rw [ChecksDeadline, found]
      exact iff_of_true ⟨_, _, rfl, live.expired (since _) environment⟩ trivial
  | failed found fault =>
      rw [ChecksDeadline, found]
      refine iff_of_true ⟨_, _, rfl, ?_⟩ ?_
      · rw [failureAnswer_of_late later]
        exact live.expired (since _) environment
      · match fault with
        | .progress _ => trivial
        | .foreign other => exact fun same => absurd same other
        | .failure => trivial
        | .gone => trivial
  | derived found own =>
      rw [ChecksDeadline, found]
      constructor
      · intro expires _
        refine ⟨own, ?_⟩
        obtain ⟨result, final, returns, expired⟩ := expires
        obtain ⟨extra, answered, kept⟩ := expired.terminals.answered
        cases returns
        rw [answered_deliver, World.answered_withSessions, World.answered_received,
          List.append_cancel_left_eq] at answered
        subst answered
        exact (derivedAnswer_eq_timedOut_iff _).mp (List.cons.inj kept).1
      · intro checks
        refine ⟨_, _, rfl, ?_⟩
        rw [(derivedAnswer_eq_timedOut_iff _).mpr (checks rfl).2]
        exact live.expired (since _) environment
  | foreign found other =>
      rw [ChecksDeadline, found]
      refine iff_of_false (fun expires => ?_) (fun checks => other (checks rfl).1)
      obtain ⟨result, final, returns, expired⟩ := expires
      cases returns
      have empty := expired.empty
      rw [World.sessions_received, live.bound.1] at empty
      cases empty

end Steps

/-- **Expiry in the loop.** With a clock that never goes back, every iteration that
begins at or after the deadline expires the transaction exactly when every such
iteration checks the deadline. -/
theorem coordinator_expiry_iff (environment : Environment)
    (policy : AuthenticationConnectionPolicy) (connection : ConnectionToken)
    (boundary : BoundaryService) (active : ActiveSession)
    (opens : Opens environment connection boundary active)
    (forward : Monotone environment.clock) :
    (∀ head, Visited
        (coordinatorStep environment policy connection active.grant.transactionId)
        (firstHead environment connection boundary active) head →
      active.deadlineMicros ≤ environment.clock head.moment →
        Expires active.grant.transactionId active head
          (coordinatorStep environment policy connection active.grant.transactionId head)) ↔
    ∀ head, Visited
        (coordinatorStep environment policy connection active.grant.transactionId)
        (firstHead environment connection boundary active) head →
      active.deadlineMicros ≤ environment.clock head.moment →
        ChecksDeadline environment active.grant.transactionId active head.moment := by
  have single : ∀ head, Visited
      (coordinatorStep environment policy connection active.grant.transactionId)
      (firstHead environment connection boundary active) head →
      active.deadlineMicros ≤ environment.clock head.moment →
      (Expires active.grant.transactionId active head
          (coordinatorStep environment policy connection active.grant.transactionId head) ↔
        ChecksDeadline environment active.grant.transactionId active head.moment) := by
    intro head visited late
    have live := opens.visited visited
    exact (coordinatorStep_cases live).expires_iff live
      fun moment reached => late.trans (forward reached)
  constructor
  · intro expires head visited late
    exact (single head visited late).mp (expires head visited late)
  · intro checks head visited late
    exact (single head visited late).mpr (checks head visited late)

/-- A clock that passes the deadline of the test session while its job is submitted, and
an engine that answers every wait in one way. -/
def Environment.late (received : Received) : Environment :=
  { Environment.test with
    clock := fun moment => if moment = 0 then 0 else 20_000_000
    receive := fun _ _ => received }

/-- The clock of the example goes forward. -/
theorem Environment.late_forward (received : Received) :
    Monotone (Environment.late received).clock := by
  intro first second later
  change (if first = 0 then 0 else 20_000_000) ≤ if second = 0 then 0 else 20_000_000
  by_cases start : first = 0
  · rw [if_pos start]
    exact Nat.zero_le _
  · rw [if_neg start, if_neg (by omega)]

/-- A request whose client goes away after the deadline expires. -/
theorem coordinator_expiry_iff_test :
    Expires ⟨7⟩ ActiveSession.test
      (firstHead (Environment.late .disconnected) ⟨1⟩ BoundaryService.test ActiveSession.test)
      (coordinatorStep (Environment.late .disconnected) AuthenticationConnectionPolicy.test ⟨1⟩ ⟨7⟩
        (firstHead (Environment.late .disconnected) ⟨1⟩ BoundaryService.test
          ActiveSession.test)) :=
  (coordinator_expiry_iff (.late .disconnected) AuthenticationConnectionPolicy.test ⟨1⟩
    BoundaryService.test ActiveSession.test ⟨rfl, rfl⟩ (Environment.late_forward _)).mpr
      (fun _ _ _ => trivial) _ .start (by decide)

/-- With a silent engine and a silent client the loop waits for ever on a session that
expired before its first iteration. -/
theorem coordinator_expiry_fails :
    Opens (Environment.late .timeout) ⟨1⟩ BoundaryService.test ActiveSession.test ∧
      Monotone (Environment.late .timeout).clock ∧
      ActiveSession.test.deadlineMicros ≤ (Environment.late .timeout).clock
        (firstHead (Environment.late .timeout) ⟨1⟩ BoundaryService.test
          ActiveSession.test).moment ∧
      ¬ Expires ⟨7⟩ ActiveSession.test
        (firstHead (Environment.late .timeout) ⟨1⟩ BoundaryService.test ActiveSession.test)
        (coordinatorStep (Environment.late .timeout) AuthenticationConnectionPolicy.test ⟨1⟩ ⟨7⟩
          (firstHead (Environment.late .timeout) ⟨1⟩ BoundaryService.test
            ActiveSession.test)) ∧
      ∀ fuel, coordinateAuthenticationConnection (Environment.late .timeout)
        AuthenticationConnectionPolicy.test ⟨1⟩ fuel BoundaryService.test = none := by
  have opens : Opens (Environment.late .timeout) ⟨1⟩ BoundaryService.test ActiveSession.test :=
    ⟨rfl, rfl⟩
  have waits : ∀ head, ∃ next, coordinatorStep (Environment.late .timeout)
      AuthenticationConnectionPolicy.test ⟨1⟩ ⟨7⟩ head = .again next := fun _ => ⟨_, rfl⟩
  refine ⟨opens, Environment.late_forward _, by decide, ?_, ?_⟩
  · rintro ⟨result, final, returns, -⟩
    obtain ⟨next, going⟩ := waits
      (firstHead (Environment.late .timeout) ⟨1⟩ BoundaryService.test ActiveSession.test)
    rw [going] at returns
    cases returns
  · intro fuel
    rw [coordinate_of_opens opens]
    exact iterate_diverges waits fuel _

end FaceAuth
