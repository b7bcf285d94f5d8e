import FaceAuth.Daemon.Coordinator

/-!
# Clean-up of a coordinated transaction

What the coordinator leaves behind when it returns: the session slot, the token
of the job, and the worker's last update. Each way in which an iteration can end
is matched against what it leaves.
-/

namespace FaceAuth

open Foundation

/-- The slot is empty, the token is raised, and the worker has sent its last update to
a receiver that was still there. -/
structure CleanedUp (active : ActiveSession) (world : World) : Prop where
  empty : world.sessions.active = none
  raised : world.sessions.isCancelled active.cancellation = true
  settled : ∀ handle, world.handle = some handle → handle.ended = true

section Conditions

variable (environment : Environment) (transactionId : TransactionId) (active : ActiveSession)

/-- A look at the client at this moment either keeps the transaction live, or is
followed by a drain that settles. -/
def PollClean (moment : Nat) : Prop :=
  match environment.pending moment with
  | .ok false => True
  | .error _ => DrainSettles environment (moment + 1)
  | .ok true =>
      match environment.read (moment + 1) with
      | .error _ => DrainSettles environment (moment + 2)
      | .ok request =>
          (request ≠ .cancel transactionId ∧ environment.write (moment + 2) = .ok ()) ∨
            DrainSettles environment (moment + 3)

/-- An iteration that begins at this moment leaves nothing behind if it returns. -/
def HeadClean (moment : Nat) : Prop :=
  match environment.receive moment false with
  | .update (.progress subject _) =>
      subject = transactionId ∧ environment.write (moment + 1) = .ok () ∧
        if active.deadlineMicros ≤ environment.clock (moment + 1) then
          DrainSettles environment (moment + 2)
        else PollClean environment transactionId (moment + 2)
  | .update (.completed subject (.ok evidence)) =>
      subject = transactionId → evidence.transactionId = transactionId
  | .update (.completed _ (.error _)) => True
  | .disconnected => True
  | .timeout => PollClean environment transactionId (moment + 1)

end Conditions

section Heads

variable {environment : Environment} {policy : AuthenticationConnectionPolicy}
  {connection : ConnectionToken} {transactionId : TransactionId} {active : ActiveSession}
  {world : World} {flow : Flow World (Except BoundaryError Response)}

/-- A flow that goes on under a condition which it meets, or that returns and has
cleaned up exactly under the condition. -/
def Settles (active : ActiveSession) (clean : Prop)
    (flow : Flow World (Except BoundaryError Response)) : Prop :=
  (∀ next, flow = .again next → clean) ∧
    ∀ result final, flow = .done result final → (CleanedUp active final ↔ clean)

/-- A flow that goes on settles nothing yet. -/
theorem settles_again {clean : Prop} (holds : clean) : Settles active clean (.again world) :=
  ⟨fun _ _ => holds, fun result final impossible => by cases impossible⟩

/-- A flow that is done is clean exactly under the condition. -/
theorem settles_done {clean : Prop} {result : Except BoundaryError Response}
    (exact_ : CleanedUp active world ↔ clean) :
    Settles active clean (.done result world) := by
  refine ⟨fun next impossible => (by cases impossible), fun answer final same => ?_⟩
  cases same
  exact exact_

/-- A drain after the session was released cleans up exactly when it settles. -/
theorem settles_drainThen (closed : Closed active world)
    (result : Except BoundaryError Response) :
    Settles active (DrainSettles environment world.moment)
      (drainThen environment result world) := by
  obtain ⟨answer, final, returns, -, same, ended, handle, exact_⟩ :=
    drainThen_spec environment closed result
  rw [returns]
  apply settles_done
  constructor
  · intro cleaned
    exact exact_.mp (cleaned.settled _ handle)
  · intro settles
    refine ⟨same.sessions ▸ closed.empty, same.sessions ▸ closed.raised, ?_⟩
    intro found held
    rw [handle, Option.some.injEq] at held
    rw [← held]
    exact exact_.mpr settles

/-- After a failed look only a drain can settle the transaction. -/
theorem Lost.settles {error : TransportError} {after : World}
    (cause : Lost environment transactionId world error after) :
    PollClean environment transactionId world.moment ↔
      DrainSettles environment after.moment := by
  cases cause with
  | poll broken =>
      rw [PollClean, broken]
      rfl
  | read pending broken =>
      rw [PollClean, pending]
      dsimp only
      rw [broken]
      rfl
  | write pending read other broken =>
      rw [PollClean, pending]
      dsimp only
      rw [read, moment_deliver]
      refine or_iff_right fun parts => ?_
      rw [broken] at parts
      cases parts.2

/-- One poll of the engine settles what its writes decide. -/
theorem Polled.settles (live : Live connection transactionId active world)
    (polled : Polled environment transactionId active world flow) :
    Settles active
      (PollClean environment transactionId world.moment) flow := by
  cases polled with
  | idle quiet =>
      apply settles_again
      rw [PollClean, quiet]
      trivial
  | refused pending read other written =>
      apply settles_again
      rw [PollClean, pending]
      dsimp only
      rw [read]
      exact .inl ⟨other, written⟩
  | cancelled pending read written =>
      subst written
      have clean : PollClean environment transactionId world.moment ↔
          DrainSettles environment (world.moment + 3) := by
        rw [PollClean, pending]
        dsimp only
        rw [read]
        exact or_iff_right fun parts => parts.1 rfl
      have closed := live.tick.tick.release.deliver environment
        (cancellationAnswer transactionId active (environment.clock (world.moment + 1)))
      have moment : (deliver environment
          (cancellationAnswer transactionId active (environment.clock (world.moment + 1)))
          (world.tick.tick.withSessions (world.sessions.release active))).2.moment =
            world.moment + 3 := moment_deliver _ _ _
      rw [clean, ← moment]
      exact settles_drainThen closed _
  | lost cause =>
      rw [cause.settles]
      exact settles_drainThen ((cause.live live).abandoned environment) _

/-- A released session whose job has seen its last update is cleaned up. -/
theorem cleanedUp_iff {after : World} {ended : Bool} (empty : after.sessions.active = none)
    (raised : after.sessions.isCancelled active.cancellation = true)
    (handle : after.handle = some ⟨active.cancellation, ended⟩) :
    CleanedUp active after ↔ ended = true := by
  constructor
  · intro cleaned
    exact cleaned.settled _ handle
  · intro done
    refine ⟨empty, raised, ?_⟩
    intro found held
    rw [handle, Option.some.injEq] at held
    rw [← held]
    exact done

/-- A terminal answer cleans up exactly when the receipt was the last one. -/
theorem Live.finished (live : Live connection transactionId active world) (received : Received)
    (environment : Environment) (response : Response) :
    CleanedUp active (FaceAuth.deliver environment response
        ((world.received received).withSessions (world.sessions.release active))).2 ↔
      received.IsLast := by
  have handle : (FaceAuth.deliver environment response ((world.received received).withSessions
      (world.sessions.release active))).2.handle =
        some ⟨active.cancellation, decide received.IsLast⟩ := by
    rw [handle_deliver, World.handle_withSessions, World.handle_received live.handle,
      Bool.false_or]
  have released : (FaceAuth.deliver environment response ((world.received received).withSessions
      (world.sessions.release active))).2.sessions = world.sessions.release active :=
    sessions_deliver _ _ _
  rw [cleanedUp_iff (by rw [released]; rfl) ?_ handle, decide_eq_true_iff]
  rw [released]
  exact live.release.raised

/-- One turn of the loop settles what its writes decide. -/
theorem Stepped.settles (live : Live connection transactionId active world)
    (stepped : Stepped environment policy connection transactionId active world flow) :
    Settles active
      (HeadClean environment transactionId active world.moment) flow := by
  cases stepped with
  | silent found polled =>
      have clean : HeadClean environment transactionId active world.moment =
          PollClean environment transactionId (world.moment + 1) := by
        rw [HeadClean, found]
      rw [clean]
      exact polled.settles (live.received id)
  | progressed found early written polled =>
      rename_i code
      have clean : HeadClean environment transactionId active world.moment ↔
          PollClean environment transactionId (world.moment + 2) := by
        rw [HeadClean, found]
        dsimp only
        rw [if_neg (Nat.not_le_of_lt early)]
        exact ⟨fun parts => parts.2.2, fun poll => ⟨rfl, written, poll⟩⟩
      have settled := polled.settles ((live.received id).deliver environment _)
      rw [moment_deliver] at settled
      rw [clean]
      exact settled
  | progressLost found early broken =>
      apply settles_done
      refine iff_of_false (fun cleaned => ?_) (fun clean => ?_)
      · have empty := cleaned.empty
        rw [sessions_deliver, World.sessions_received, live.bound.1] at empty
        cases empty
      · rw [HeadClean, found] at clean
        rw [broken] at clean
        cases clean.2.1
  | timedOut found late written =>
      rename_i code
      have clean : HeadClean environment transactionId active world.moment ↔
          DrainSettles environment (world.moment + 2) := by
        rw [HeadClean, found]
        dsimp only
        rw [if_pos late]
        exact ⟨fun parts => parts.2.2, fun drain => ⟨rfl, written, drain⟩⟩
      have after : Live connection transactionId active
          (world.received (.update (.progress transactionId code))) := live.received id
      have moment : (deliver environment (.completed transactionId .timedOut)
          ((world.received (.update (.progress transactionId code))).withSessions
            (world.sessions.release active))).2.moment = world.moment + 2 := moment_deliver _ _ _
      rw [clean, ← moment]
      exact settles_drainThen (after.release.deliver environment _) _
  | timeoutLost found late broken =>
      apply settles_done
      rw [live.finished]
      refine iff_of_false id (fun clean => ?_)
      rw [HeadClean, found] at clean
      rw [broken] at clean
      cases clean.2.1
  | failed found fault =>
      apply settles_done
      rw [live.finished, HeadClean, found]
      match fault with
      | .progress other => exact iff_of_false id fun clean => other clean.1
      | .foreign other => exact iff_of_true trivial fun same => absurd same other
      | .failure => exact iff_of_true trivial trivial
      | .gone => exact iff_of_true trivial trivial
  | derived found own =>
      apply settles_done
      rw [live.finished, HeadClean, found]
      exact iff_of_true trivial fun _ => own
  | foreign found other =>
      apply settles_done
      refine iff_of_false (fun cleaned => ?_) (fun clean => ?_)
      · have empty := cleaned.empty
        rw [World.sessions_received, live.bound.1] at empty
        cases empty
      · rw [HeadClean, found] at clean
        exact other (clean rfl)

end Heads

/-- The answer to the start is written, and no iteration of the loop leaves anything
behind. -/
def RunClean (environment : Environment) (policy : AuthenticationConnectionPolicy)
    (connection : ConnectionToken) (boundary : BoundaryService) (active : ActiveSession) : Prop :=
  environment.write 1 = .ok () ∧
    (environment.submit 2 (jobOf active) = .ok () →
      ∀ head, Visited
          (coordinatorStep environment policy connection active.grant.transactionId)
          (firstHead environment connection boundary active) head →
        HeadClean environment active.grant.transactionId active head.moment)

/-- **Clean-up of a started transaction.** Whenever the coordinator returns after it
started a session, it has cleaned up exactly when its run was clean. -/
theorem coordinator_cleanup_iff (environment : Environment)
    (policy : AuthenticationConnectionPolicy) (connection : ConnectionToken)
    (boundary : BoundaryService) (active : ActiveSession) (fuel : Nat)
    (result : Except BoundaryError Response) (final : World)
    (opens : Opens environment connection boundary active)
    (returned : coordinateAuthenticationConnection environment policy connection fuel boundary =
      some (result, final)) :
    CleanedUp active final ↔ RunClean environment policy connection boundary active := by
  rw [coordinate_of_opens opens] at returned
  obtain ⟨bound, flags, address, -, unsubmitted⟩ := opens.requested
  unfold RunClean
  cases written : environment.write 1 with
  | error error =>
      rw [written, Option.some.injEq, Prod.mk.injEq] at returned
      obtain ⟨-, rfl⟩ := returned
      refine iff_of_false (fun cleaned => ?_) (fun parts => by cases parts.1)
      have empty := cleaned.empty
      rw [bound.1] at empty
      cases empty
  | ok _ =>
      rw [written] at returned
      dsimp only at returned
      rw [and_iff_right rfl]
      cases submitted : environment.submit 2 (jobOf active) with
      | error error =>
          rw [submitted] at returned
          refine iff_of_true ?_ (fun impossible => by cases impossible)
          have after : _ = final := congrArg Prod.snd (Option.some.inj returned)
          rw [← after]
          refine ⟨?_, ?_, ?_⟩
          · rw [sessions_deliver]
            rfl
          · rw [sessions_deliver]
            exact opens.live.release.raised
          · intro handle held
            rw [handle_deliver, World.handle_withSessions, World.handle_tick,
              unsubmitted] at held
            cases held
      | ok _ =>
          rw [submitted] at returned
          have settles : ∀ head, Live connection active.grant.transactionId active head →
              Settles active (HeadClean environment active.grant.transactionId active head.moment)
                (coordinatorStep environment policy connection active.grant.transactionId head) :=
            fun head live => (coordinatorStep_cases live).settles live
          have heads := iterate_exact
            (fun head next live goes =>
              ⟨(settles head live).1 next goes, (coordinatorStep_cases live).live live goes⟩)
            (fun head answer after live ends => (settles head live).2 answer after ends)
            opens.live returned
          exact heads.trans ⟨fun all _ => all, fun all => all rfl⟩

/-- A transaction whose engine fails at once. -/
theorem coordinator_cleanup_iff_test :
    ∃ final, coordinateAuthenticationConnection Environment.test
        AuthenticationConnectionPolicy.test ⟨1⟩ 1 BoundaryService.test =
          some (.ok (.completed ⟨7⟩ .internalError), final) ∧
      (CleanedUp ActiveSession.test final ↔
        RunClean Environment.test AuthenticationConnectionPolicy.test ⟨1⟩ BoundaryService.test
          ActiveSession.test) :=
  ⟨_, rfl, coordinator_cleanup_iff _ _ _ _ _ 1 _ _ opens_test rfl⟩

/-- A client that is gone before the answer to its request is written. -/
def Environment.gone : Environment :=
  { Environment.test with write := fun _ => .error (.io ⟨.other, "Broken pipe (os error 32)"⟩) }

/-- The coordinator returns with the session of the vanished client in its slot. -/
theorem coordinator_cleanup_fails :
    Opens Environment.gone ⟨1⟩ BoundaryService.test ActiveSession.test ∧
      ∃ final, coordinateAuthenticationConnection Environment.gone
          AuthenticationConnectionPolicy.test ⟨1⟩ 1 BoundaryService.test =
            some (.error (.transport (.io ⟨.other, "Broken pipe (os error 32)"⟩)), final) ∧
        ¬ CleanedUp ActiveSession.test final :=
  ⟨⟨rfl, rfl⟩, _, rfl, fun cleaned => by cases cleaned.empty⟩

end FaceAuth
