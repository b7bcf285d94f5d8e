import FaceAuth.Daemon.Coordinator
import FaceAuth.Foundation.Trace

/-!
# What the coordinator writes

The responses of one connection, iteration by iteration: every update of the
transaction's own job becomes at most one response, and what is not such a
response answers a further request of the client.
-/

namespace FaceAuth

open Foundation

/-- A response that is not the rejection of a request. -/
def Response.spoken : Response → Bool
  | .rejected _ _ => false
  | _ => true

/-- The update that an iteration receives, with the daemon clock after it. -/
def Environment.receipts (environment : Environment) (world : World) :
    List (Nat × AuthenticationEngineUpdate) :=
  match environment.next world with
  | .update update => [(environment.clock (world.moment + 1), update)]
  | .timeout => []
  | .disconnected => []

/-- The client sends a request after its first one. -/
def Environment.AsksAgain (environment : Environment) : Prop :=
  ∃ moment request, 0 < moment ∧ environment.read moment = .ok request

/-- These responses are the progress of a transaction, and replies to further requests. -/
structure Narrates (environment : Environment) (transactionId : TransactionId)
    (codes : List ProgressCode) (written : List Response) : Prop where
  course : written.filter Response.spoken = codes.map (.progress transactionId)
  replies : ∀ response ∈ written, response.spoken = false → environment.AsksAgain

section Narrates

variable {environment : Environment} {transactionId : TransactionId}
  {codes later : List ProgressCode}
  {written after : List Response}

/-- Nothing written narrates nothing. -/
theorem Narrates.nil : Narrates environment transactionId [] [] := ⟨rfl, nofun⟩

/-- Narrations are written one after the other. -/
theorem Narrates.append (speaks : Narrates environment transactionId codes written)
    (goesOn : Narrates environment transactionId later after) :
    Narrates environment transactionId (codes ++ later) (written ++ after) where
  course := by rw [List.filter_append, speaks.course, goesOn.course, List.map_append]
  replies response member := by
    rcases List.mem_append.mp member with first | second
    · exact speaks.replies response first
    · exact goesOn.replies response second

/-- A progress response narrates its code. -/
theorem Narrates.progress (environment : Environment) (transactionId : TransactionId)
    (code : ProgressCode) :
    Narrates environment transactionId [code] [.progress transactionId code] where
  course := rfl
  replies response member silent := by
    rw [List.mem_singleton.mp member] at silent
    cases silent

/-- A rejection on the way narrates nothing. -/
theorem Narrates.reply (asks : environment.AsksAgain) (transactionId : TransactionId)
    (subject : Option TransactionId) (reason : RejectionCode) :
    Narrates environment transactionId [] [.rejected subject reason] where
  course := rfl
  replies _ _ _ := asks

/-- Without further requests, everything that is written speaks for the transaction. -/
theorem Narrates.eq_of_alone {codes : List ProgressCode} {written : List Response}
    (speaks : Narrates environment transactionId codes written) (alone : ¬ environment.AsksAgain) :
    written = codes.map (.progress transactionId) := by
  rw [← speaks.course, eq_comm, List.filter_eq_self]
  intro response member
  cases heard : response.spoken with
  | true => rfl
  | false => exact (alone (speaks.replies response member heard)).elim

end Narrates

/-- What is written from one world to a later one while the transaction goes on. -/
def GoesOn (environment : Environment) (transactionId : TransactionId) (codes : List ProgressCode)
    (before after : World) : Prop :=
  ∃ written, Narrates environment transactionId codes written ∧
    after.delivered = before.delivered ++ written

/-- What is written from one world to the return of the handler. -/
def EndsWith (environment : Environment) (transactionId : TransactionId)
    (codes : List ProgressCode) (before after : World) : Prop :=
  ∃ written, Narrates environment transactionId codes written ∧
    (after.delivered = before.delivered ++ written ∨
      ∃ decision, after.delivered =
        before.delivered ++ written ++ [.completed transactionId decision])

section Steps

variable {environment : Environment} {policy : AuthenticationConnectionPolicy}
  {connection : ConnectionToken} {transactionId : TransactionId} {active : ActiveSession}
  {world before after final : World} {codes later : List ProgressCode}

/-- A delivery delivers its response or nothing. -/
theorem delivered_deliver (environment : Environment) (response : Response) (world : World) :
    (deliver environment response world).2.delivered = world.delivered ∨
      (deliver environment response world).2.delivered = world.delivered ++ [response] := by
  unfold deliver
  cases environment.write world.moment with
  | ok _ => exact .inr rfl
  | error error => exact .inl rfl

/-- A successful write delivers its response. -/
theorem delivered_deliver_of_ok {response : Response}
    (written : environment.write world.moment = .ok ()) :
    (deliver environment response world).2.delivered = world.delivered ++ [response] := by
  rw [deliver, written]

/-- A failed write delivers nothing. -/
theorem delivered_deliver_of_error {response : Response} {error : TransportError}
    (broken : environment.write world.moment = .error error) :
    (deliver environment response world).2.delivered = world.delivered := by
  rw [deliver, broken]
  rfl

/-- Draining delivers nothing. -/
theorem delivered_drain (environment : Environment) (polls : Nat) (world : World) :
    (drainCancelledEngine environment polls world).2.delivered = world.delivered := by
  induction polls generalizing world with
  | zero => rfl
  | succ polls ih =>
      rw [drainCancelledEngine]
      split
      · rfl
      · exact ih _
      · exact ih _
      · rfl

/-- A drain writes nothing. It hands on the result, or reports that the engine stopped. -/
theorem drainThen_eq_done {result outcome : Except BoundaryError Response}
    (ends : drainThen environment result world = .done outcome final) :
    final.delivered = world.delivered ∧ (outcome = result ∨ ∃ error, outcome = .error error) := by
  have same := delivered_drain environment MAX_CANCEL_DRAIN_POLLS world
  unfold drainThen at ends
  split at ends
  · next drained =>
      cases ends
      rw [drained] at same
      exact ⟨same, .inl rfl⟩
  · next drained =>
      cases ends
      rw [drained] at same
      exact ⟨same, .inr ⟨_, rfl⟩⟩

/-- Nothing was narrated yet. -/
theorem GoesOn.refl (environment : Environment) (transactionId : TransactionId) (world : World) :
    GoesOn environment transactionId [] world world :=
  ⟨[], .nil, (List.append_nil _).symm⟩

/-- The transaction goes on from one part to the next. -/
theorem GoesOn.trans (goesOn : GoesOn environment transactionId codes before world)
    (more : GoesOn environment transactionId later world after) :
    GoesOn environment transactionId (codes ++ later) before after := by
  obtain ⟨written, speaks, delivered⟩ := goesOn
  obtain ⟨written', speaks', delivered'⟩ := more
  exact ⟨written ++ written', speaks.append speaks',
    by rw [delivered', delivered, List.append_assoc]⟩

/-- A transaction goes on until it ends. -/
theorem GoesOn.ends (goesOn : GoesOn environment transactionId codes before world)
    (ends : EndsWith environment transactionId later world after) :
    EndsWith environment transactionId (codes ++ later) before after := by
  obtain ⟨written, speaks, delivered⟩ := goesOn
  obtain ⟨written', speaks', last⟩ := ends
  refine ⟨written ++ written', speaks.append speaks', ?_⟩
  rcases last with same | ⟨decision, same⟩
  · exact .inl (by rw [same, delivered, List.append_assoc])
  · refine .inr ⟨decision, ?_⟩
    rw [same, delivered]
    simp only [List.append_assoc]

/-- Nothing more is written, or the terminal response of the transaction. -/
theorem endsWith_deliver (start : World) (decision : DecisionCode)
    (same : start.delivered = world.delivered) :
    EndsWith environment transactionId [] world
      (deliver environment (.completed transactionId decision) start).2 := by
  refine ⟨[], .nil, ?_⟩
  rw [List.append_nil, ← same]
  exact (delivered_deliver environment _ start).imp id fun written => ⟨decision, written⟩

/-- An end depends on what was delivered only. -/
theorem EndsWith.congr (ends : EndsWith environment transactionId codes before after)
    (same : final.delivered = after.delivered) :
    EndsWith environment transactionId codes before final := by
  unfold EndsWith
  rwa [same]

/-- A transaction may end on the way, without a completion. -/
theorem GoesOn.endsWith (goesOn : GoesOn environment transactionId codes before after) :
    EndsWith environment transactionId codes before after := by
  obtain ⟨written, speaks, delivered⟩ := goesOn
  exact ⟨written, speaks, .inl delivered⟩

/-- A look at the client writes no progress. -/
theorem Polled.goesOn {flow : Flow World (Except BoundaryError Response)} {next : World}
    (polled : Polled environment transactionId active world flow) (goes : flow = .again next) :
    GoesOn environment transactionId [] world next := by
  cases polled with
  | idle quiet =>
      cases goes
      exact .refl environment transactionId world
  | @refused request subject reason pending read other written =>
      cases goes
      exact ⟨_, .reply ⟨_, _, Nat.succ_pos _, read⟩ transactionId subject reason,
        delivered_deliver_of_ok written⟩
  | cancelled pending read written => exact absurd goes drainThen_returns
  | lost cause => exact absurd goes drainThen_returns

/-- A failed look at the client writes nothing. -/
theorem Lost.delivered {error : TransportError}
    (cause : Lost environment transactionId world error after) :
    after.delivered = world.delivered := by
  cases cause with
  | poll broken => rfl
  | read pending broken => rfl
  | write pending read other broken => exact delivered_deliver_of_error broken

/-- A poll of the client that is done ends the transaction. -/
theorem Polled.endsWith {flow : Flow World (Except BoundaryError Response)}
    {result : Except BoundaryError Response}
    (polled : Polled environment transactionId active world flow)
    (ends : flow = .done result final) : EndsWith environment transactionId [] world final := by
  cases polled with
  | idle quiet => cases ends
  | refused pending read other written => cases ends
  | @cancelled pending read answer written =>
      subst written
      exact (endsWith_deliver (world.tick.tick.withSessions (world.sessions.release active))
        _ rfl).congr (drainThen_eq_done ends).1
  | lost cause =>
      have same : final.delivered = world.delivered :=
        (drainThen_eq_done ends).1.trans cause.delivered
      exact (GoesOn.refl environment transactionId world).endsWith.congr same

/-- A look at the client accepts nothing. -/
theorem Polled.not_accepted {flow : Flow World (Except BoundaryError Response)}
    (polled : Polled environment transactionId active world flow) :
    flow ≠ .done (.ok (.completed transactionId .accepted)) final := by
  intro ends
  cases polled with
  | idle quiet => cases ends
  | refused pending read other written => cases ends
  | @cancelled pending read answer written =>
      obtain ⟨-, same | ⟨error, failed⟩⟩ := drainThen_eq_done ends
      · subst written
        unfold deliver at same
        split at same
        · rw [Except.ok.injEq, cancellationAnswer, Response.completed.injEq] at same
          split at same <;> cases same.2
        · cases same
      · cases failed
  | lost cause =>
      obtain ⟨-, same | ⟨error, failed⟩⟩ := drainThen_eq_done ends
      · cases same
      · cases failed

/-- An iteration that goes on writes the progress that it received. -/
theorem Stepped.goesOn {flow : Flow World (Except BoundaryError Response)} {next : World}
    (live : Live connection transactionId active world)
    (stepped : Stepped environment policy connection transactionId active world flow)
    (goes : flow = .again next) :
    ∃ codes, (environment.receipts world).map Prod.snd =
        codes.map (AuthenticationEngineUpdate.progress transactionId) ∧
      GoesOn environment transactionId codes world next := by
  unfold Environment.receipts
  rw [live.next]
  cases stepped with
  | silent found polled =>
      rw [found]
      exact ⟨[], rfl, polled.goesOn goes⟩
  | @progressed flow code found early written polled =>
      rw [found]
      refine ⟨[code], rfl, ?_⟩
      have sent : GoesOn environment transactionId [code] world
          (deliver environment (.progress transactionId code)
            (world.received (.update (.progress transactionId code)))).2 :=
        ⟨_, .progress environment transactionId code, delivered_deliver_of_ok written⟩
      exact sent.trans (polled.goesOn goes)
  | timedOut found late written => exact absurd goes drainThen_returns
  | progressLost | timeoutLost | failed | derived | foreign => cases goes

/-- An iteration that returns writes no more than the progress that it received and one
terminal response. -/
theorem Stepped.endsWith {flow : Flow World (Except BoundaryError Response)}
    {result : Except BoundaryError Response}
    (live : Live connection transactionId active world)
    (stepped : Stepped environment policy connection transactionId active world flow)
    (ends : flow = .done result final) :
    ∃ codes, codes.map (AuthenticationEngineUpdate.progress transactionId) <+:
        (environment.receipts world).map Prod.snd ∧
      EndsWith environment transactionId codes world final := by
  have quiet : ∀ updates : List AuthenticationEngineUpdate,
      ([] : List ProgressCode).map (AuthenticationEngineUpdate.progress transactionId) <+:
        updates := fun updates => List.nil_prefix
  cases stepped with
  | silent found polled => exact ⟨[], quiet _, polled.endsWith ends⟩
  | @progressed flow code found early written polled =>
      refine ⟨[code], ?_, ?_⟩
      · rw [Environment.receipts, live.next, found]
        exact List.prefix_rfl
      · have sent : GoesOn environment transactionId [code] world
            (deliver environment (.progress transactionId code)
              (world.received (.update (.progress transactionId code)))).2 :=
          ⟨_, .progress environment transactionId code, delivered_deliver_of_ok written⟩
        exact sent.ends (polled.endsWith ends)
  | progressLost found early broken =>
      cases ends
      exact ⟨[], quiet _, (GoesOn.refl environment transactionId world).endsWith.congr
        (delivered_deliver_of_error broken)⟩
  | @timedOut code found late written =>
      have sent : EndsWith environment transactionId [] world (deliver environment
          (.completed transactionId .timedOut)
          ((world.received (.update (.progress transactionId code))).withSessions
            (world.sessions.release active))).2 := endsWith_deliver _ _ rfl
      exact ⟨[], quiet _, sent.congr (drainThen_eq_done ends).1⟩
  | timeoutLost found late broken =>
      cases ends
      exact ⟨[], quiet _, endsWith_deliver _ _ rfl⟩
  | failed found fault =>
      cases ends
      exact ⟨[], quiet _, endsWith_deliver _ _ rfl⟩
  | derived found own =>
      cases ends
      exact ⟨[], quiet _, endsWith_deliver _ _ rfl⟩
  | foreign found other =>
      cases ends
      exact ⟨[], quiet _, (GoesOn.refl environment transactionId world).endsWith⟩

/-- Acceptance follows from evidence that was received, and is written. -/
theorem Stepped.accepted {flow : Flow World (Except BoundaryError Response)}
    (live : Live connection transactionId active world)
    (stepped : Stepped environment policy connection transactionId active world flow)
    (ends : flow = .done (.ok (.completed transactionId .accepted)) final) :
    (∃ evidence, environment.receipts world = [(environment.clock (world.moment + 1),
        .completed transactionId (.ok evidence))]) ∧
      final.delivered = world.delivered ++ [.completed transactionId .accepted] := by
  have delivers : ∀ {response : Response} {start : World},
      finish (deliver environment response start) =
          .done (.ok (.completed transactionId .accepted)) final →
        response = .completed transactionId .accepted ∧
          final.delivered = start.delivered ++ [response] := by
    intro response start returns
    rw [finish, Flow.done.injEq] at returns
    obtain ⟨same, rfl⟩ := returns
    cases written : environment.write start.moment with
    | ok _ =>
        rw [(deliver_of_ok written).1, Except.ok.injEq] at same
        exact ⟨same, delivered_deliver_of_ok written⟩
    | error error =>
        rw [(deliver_of_error written).1] at same
        cases same
  cases stepped with
  | silent found polled => exact absurd ends polled.not_accepted
  | progressed found early written polled => exact absurd ends polled.not_accepted
  | progressLost | timeoutLost | foreign => cases ends
  | timedOut found late written =>
      obtain ⟨-, same | ⟨error, failed⟩⟩ := drainThen_eq_done ends
      · cases same
      · cases failed
  | failed found fault =>
      obtain ⟨same, -⟩ := delivers ends
      rw [failureAnswer, Response.completed.injEq] at same
      split at same <;> cases same.2
  | @derived evidence found own =>
      obtain ⟨same, written⟩ := delivers ends
      refine ⟨⟨evidence, ?_⟩, ?_⟩
      · rw [Environment.receipts, live.next, found]
      · rw [written, same]
        rfl

end Steps

end FaceAuth
