import FaceAuth.Authz.Soundness
import FaceAuth.Daemon.JobProtocol
import FaceAuth.Daemon.Responses
import FaceAuth.Pam.Exchange

/-!
# The daemon and its client

The stream of responses that the coordinator writes for one transaction, against
the stream that the client of the authentication module accepts.
-/

namespace FaceAuth

open Foundation

/-! ## The updates of the service -/

/-- The update of the authentication service as its client receives it. -/
def authenticationUpdate : EngineUpdate .authentication → AuthenticationEngineUpdate
  | .progress id progress => .progress id progress
  | .completed id result => .completed id result

/-- The update is progress. -/
def AuthenticationEngineUpdate.isProgress : AuthenticationEngineUpdate → Bool
  | .progress _ _ => true
  | .completed _ _ => false

/-- The loop of the connection receives a beginning of what the service sent for the job of
its transaction. -/
def Converses (engines : Engines) (environment : Environment)
    (policy : AuthenticationConnectionPolicy) (connection : ConnectionToken)
    (boundary : BoundaryService) : Prop :=
  ∀ active, Opens environment connection boundary active →
    environment.submit 2 (jobOf active) = .ok () →
      ∃ number < (engines.shared.lane .authentication).jobCount,
        ((engines.shared.lane .authentication).jobs number).request.id =
            active.grant.transactionId ∧
          ∀ fuel, (trace
            (coordinatorStep environment policy connection active.grant.transactionId)
            environment.receipts fuel
            (firstHead environment connection boundary active)).map Prod.snd <+:
              ((engines.shared.lane .authentication).jobs number).sent.map authenticationUpdate

/-- The responses of one transaction, apart from rejections: it is started, it makes
progress within the bound, and it is completed at most once, with nothing after that. -/
def Transcript (transactionId : TransactionId) (responses : List Response) : Prop :=
  ∃ codes : List ProgressCode, codes.length ≤ AuthenticationEngine.MAX_PROGRESS_UPDATES ∧
    ∃ body, body.filter Response.spoken =
        .started transactionId :: codes.map (.progress transactionId) ∧
      (responses = body ∨ ∃ decision, responses = body ++ [.completed transactionId decision])

section Service

variable {engines : Engines}

/-- A job reports no more than its budget. -/
theorem countP_progress_le {lane : EngineLane .authentication} {shutdown : Bool} {number : Nat}
    (orderly : lane.Orderly shutdown) (known : number < lane.jobCount) :
    ((lane.jobs number).sent.map authenticationUpdate).countP
        AuthenticationEngineUpdate.isProgress ≤ AuthenticationEngine.MAX_PROGRESS_UPDATES := by
  obtain ⟨reports, bound, sent⟩ := orderly.updates known
  have all : ((reports.map (EngineUpdate.progress (lane.jobs number).request.id)).map
      authenticationUpdate).countP AuthenticationEngineUpdate.isProgress ≤ reports.length := by
    refine Nat.le_trans List.countP_le_length ?_
    rw [List.length_map, List.length_map]
  refine Nat.le_trans ?_ bound
  rcases sent with sent | ⟨result, sent⟩
  · rw [sent]
    exact all
  · rw [sent, List.map_append, List.countP_append]
    exact all

/-- Progress that was received is progress that was sent. -/
theorem length_le_of_received {transactionId : TransactionId} {codes : List ProgressCode}
    {sent : List AuthenticationEngineUpdate}
    (received : codes.map (AuthenticationEngineUpdate.progress transactionId) <+: sent) :
    codes.length ≤ sent.countP AuthenticationEngineUpdate.isProgress := by
  refine Nat.le_trans ?_ received.sublist.countP_le
  rw [List.countP_map, List.countP_eq_length.mpr]
  exact fun _ _ => rfl

end Service

/-! ## The start of a transaction -/

section Start

variable {environment : Environment} {policy : AuthenticationConnectionPolicy}
  {connection : ConnectionToken} {boundary : BoundaryService} {active : ActiveSession}
  {context : RequestContext}

/-- A request to authenticate is rejected, or starts its own transaction in an empty slot. -/
theorem process_authenticate (boundary : BoundaryService) (peer : PeerIdentity)
    (executable : Except ExecutableError VerifiedExecutable) (connection : ConnectionToken)
    (nowMicros : Nat) (context : RequestContext) :
    (∃ reason, boundary.process peer executable connection nowMicros (.authenticate context) =
      (.rejected (some context.transactionId) reason, boundary.sessions)) ∨
    boundary.sessions.active = none ∧ ∃ active : ActiveSession,
      active.grant.transactionId = context.transactionId ∧
      boundary.process peer executable connection nowMicros (.authenticate context) =
        (.started context.transactionId, { boundary.sessions with
          active := some active
          flags := boundary.sessions.flags.allocate }) := by
  cases executable with
  | error error => exact .inl ⟨_, rfl⟩
  | ok executable =>
      simp only [BoundaryService.process]
      cases granted : boundary.authorization.authorize peer (some executable) context with
      | error error => exact .inl (by cases error <;> exact ⟨_, rfl⟩)
      | ok grant =>
          obtain ⟨-, verified, -, same⟩ :=
            boundary.authorization.authorize_eq_ok_iff.mp granted
          have own : grant.transactionId = context.transactionId := by rw [same]
          dsimp only
          cases held : boundary.sessions.active with
          | some active =>
              rw [SessionManager.start_of_active held]
              exact .inl ⟨_, rfl⟩
          | none =>
              rw [SessionManager.start_of_empty held]
              by_cases fits : nowMicros + boundary.sessions.config.transactionDurationMicros ≤
                  U64_MAX
              · rw [if_pos fits]
                dsimp only
                rw [own]
                exact .inr ⟨rfl, boundary.sessions.opened grant connection nowMicros, own, rfl⟩
              · rw [if_neg fits]
                exact .inl ⟨_, rfl⟩

/-- The first request is rejected, or its transaction is opened and the start is written. -/
theorem handleOne_authenticate (connection : ConnectionToken) (boundary : BoundaryService)
    (asks : environment.read 0 = .ok (.authenticate context)) :
    (∃ reason, handleOne environment connection (environment.clock 0) (.start boundary) =
      deliver environment (.rejected (some context.transactionId) reason)
        (World.start boundary).tick) ∨
    ∃ active : ActiveSession, active.grant.transactionId = context.transactionId ∧
      Opens environment connection boundary active := by
  unfold Opens requested handleOne
  rw [show environment.read (World.start boundary).moment = .ok (.authenticate context) from asks]
  dsimp only
  obtain ⟨reason, answer⟩ | ⟨empty, active, own, answer⟩ := process_authenticate boundary
    environment.peer (environment.executable (World.start boundary).moment) connection
    (environment.clock 0) context
  · change (World.start boundary).boundary.process _ _ _ _ _ = _ at answer
    rw [answer]
    exact .inl ⟨reason, rfl⟩
  · change (World.start boundary).boundary.process _ _ _ _ _ = _ at answer
    rw [answer]
    refine .inr ⟨active, own, empty, ?_⟩
    rw [sessions_deliver]
    rfl

/-- What was written when the loop begins. -/
theorem Opens.delivered (opens : Opens environment connection boundary active) :
    (FaceAuth.requested environment connection boundary).delivered =
      match environment.write 1 with
      | .ok () => [.started active.grant.transactionId]
      | .error _ => [] := by
  obtain ⟨context, grant, -, -, answer⟩ := opens.request
  unfold FaceAuth.requested
  rw [answer]
  cases written : environment.write 1 with
  | ok _ => exact delivered_deliver_of_ok written
  | error error => exact delivered_deliver_of_error written

/-- The start of the transaction, its progress and then perhaps its completion. -/
def Recounts (environment : Environment) (transactionId : TransactionId)
    (responses : List Response) : Prop :=
  ∃ codes written, codes.length ≤ AuthenticationEngine.MAX_PROGRESS_UPDATES ∧
    Narrates environment transactionId codes written ∧
      (responses = .started transactionId :: written ∨ ∃ decision, responses =
        .started transactionId :: written ++ [.completed transactionId decision])

/-- What recounts the engine is a transcript of the protocol. -/
theorem Recounts.transcript {transactionId : TransactionId} {responses : List Response}
    (recounts : Recounts environment transactionId responses) :
    Transcript transactionId responses := by
  obtain ⟨codes, written, bound, speaks, ends⟩ := recounts
  refine ⟨codes, bound, .started transactionId :: written, ?_, ends⟩
  rw [List.filter_cons_of_pos rfl, speaks.course]

/-- A transaction that ends recounts its engine. -/
theorem EndsWith.recounts {transactionId : TransactionId} {codes : List ProgressCode}
    {before after : World} (ends : EndsWith environment transactionId codes before after)
    (bound : codes.length ≤ AuthenticationEngine.MAX_PROGRESS_UPDATES)
    (started : before.delivered = [.started transactionId]) :
    Recounts environment transactionId after.delivered := by
  obtain ⟨written, speaks, last⟩ := ends
  rw [started] at last
  exact ⟨codes, written, bound, speaks, last⟩

end Start

/-! ## The run -/

section Run

variable {engines : Engines} {environment : Environment} {policy : AuthenticationConnectionPolicy}
  {connection : ConnectionToken} {boundary : BoundaryService} {active : ActiveSession}

/-- Up to every iteration, the updates that were received are the progress that was
written. -/
theorem Opens.goesOn (opens : Opens environment connection boundary active)
    {labels : List (Nat × AuthenticationEngineUpdate)} {head : World}
    (traced : Traced
      (coordinatorStep environment policy connection active.grant.transactionId)
      environment.receipts (firstHead environment connection boundary active) labels head) :
    ∃ codes, labels.map Prod.snd =
        codes.map (AuthenticationEngineUpdate.progress active.grant.transactionId) ∧
      GoesOn environment active.grant.transactionId codes
        (firstHead environment connection boundary active) head := by
  induction traced with
  | start => exact ⟨[], rfl, .refl environment _ _⟩
  | next earlier goes ih =>
      have live := opens.visited earlier.visited
      obtain ⟨codes, received, goesOn⟩ := ih
      obtain ⟨more, receives, continues⟩ := (coordinatorStep_cases live).goesOn live goes
      refine ⟨codes ++ more, ?_, goesOn.trans continues⟩
      rw [List.map_append, List.map_append, received, receives]

/-- What the loop has received at some iteration fits the bound of the service. -/
theorem Converses.bounded (serves : Converses engines environment policy connection boundary)
    (orderly : engines.Orderly) (opens : Opens environment connection boundary active)
    (submitted : environment.submit 2 (jobOf active) = .ok ())
    {labels : List (Nat × AuthenticationEngineUpdate)} {head : World}
    (traced : Traced
      (coordinatorStep environment policy connection active.grant.transactionId)
      environment.receipts (firstHead environment connection boundary active) labels head)
    {codes : List ProgressCode}
    (received : codes.map (AuthenticationEngineUpdate.progress active.grant.transactionId) <+:
      (labels ++ environment.receipts head).map Prod.snd) :
    codes.length ≤ AuthenticationEngine.MAX_PROGRESS_UPDATES := by
  obtain ⟨number, known, -, serves⟩ := serves active opens submitted
  obtain ⟨fuel, early⟩ := traced.exists_trace
  have sent := (received.trans (early.map Prod.snd)).trans (serves fuel)
  exact (length_le_of_received sent).trans (countP_progress_le (orderly.lanes _) known)

/-- At every iteration, what was written recounts the transaction. -/
theorem Converses.recounts_head (serves : Converses engines environment policy connection boundary)
    (orderly : engines.Orderly) (opens : Opens environment connection boundary active)
    (written : environment.write 1 = .ok ())
    (submitted : environment.submit 2 (jobOf active) = .ok ()) {head : World}
    (visited : Visited
      (coordinatorStep environment policy connection active.grant.transactionId)
      (firstHead environment connection boundary active) head) :
    Recounts environment active.grant.transactionId head.delivered := by
  obtain ⟨labels, traced⟩ := visited.traced environment.receipts
  obtain ⟨codes, received, goesOn⟩ := opens.goesOn traced
  refine goesOn.endsWith.recounts (serves.bounded orderly opens submitted traced ?_) ?_
  · rw [List.map_append, ← received]
    exact List.prefix_append ..
  · have started := opens.delivered
    rw [written] at started
    exact started

/-- When the handler returns, what was written recounts the transaction. -/
theorem Converses.recounts (serves : Converses engines environment policy connection boundary)
    (orderly : engines.Orderly) (opens : Opens environment connection boundary active)
    {fuel : Nat} {result : Except BoundaryError Response} {final : World}
    (returns : coordinateAuthenticationConnection environment policy connection fuel boundary =
      some (result, final)) :
    environment.write 1 ≠ .ok () ∧ final.delivered = [] ∨
      environment.write 1 = .ok () ∧
        Recounts environment active.grant.transactionId final.delivered := by
  have start := opens.delivered
  rw [coordinate_of_opens opens] at returns
  cases written : environment.write 1 with
  | error error =>
      rw [written] at returns start
      cases returns
      exact .inl ⟨nofun, start⟩
  | ok _ =>
      rw [written] at returns start
      refine .inr ⟨rfl, ?_⟩
      dsimp only at returns
      cases submitted : environment.submit 2 (jobOf active) with
      | error error =>
          rw [submitted, Option.some.injEq] at returns
          have ends : EndsWith environment active.grant.transactionId []
              (requested environment connection boundary) final := by
            have same : (deliver environment _ _).2 = final := congrArg Prod.snd returns
            rw [← same]
            exact endsWith_deliver _ _ rfl
          exact ends.recounts (Nat.zero_le _) start
      | ok _ =>
          rw [submitted] at returns
          dsimp only at returns
          obtain ⟨labels, last, traced, ends, -⟩ := iterate_traced environment.receipts returns
          have live := opens.visited traced.visited
          obtain ⟨codes, received, goesOn⟩ := opens.goesOn traced
          obtain ⟨more, receives, closes⟩ := (coordinatorStep_cases live).endsWith live ends
          have whole : EndsWith environment active.grant.transactionId (codes ++ more)
              (firstHead environment connection boundary active) final := goesOn.ends closes
          refine whole.recounts (serves.bounded orderly opens submitted traced ?_) start
          rw [List.map_append, List.map_append, received, List.prefix_append_right_inj]
          exact receives

end Run

/-! ## The client of the stream -/

section Client

variable {environment : Environment} {transactionId : TransactionId} {responses : List Response}

/-- Without further requests, the stream is the start, the progress and the completion. -/
theorem Recounts.alone (recounts : Recounts environment transactionId responses)
    (alone : ¬ environment.AsksAgain) :
    ∃ early : List Response, early.length ≤ AuthenticationEngine.MAX_PROGRESS_UPDATES + 1 ∧
      (∀ response ∈ early, response.Continues transactionId) ∧
        (responses = early ∨
          ∃ decision, responses = early ++ [.completed transactionId decision]) := by
  obtain ⟨codes, written, bound, speaks, ends⟩ := recounts
  have course := speaks.eq_of_alone alone
  subst course
  refine ⟨_, ?_, ?_, ends⟩
  · rw [List.length_cons, List.length_map]
    exact Nat.succ_le_succ bound
  · intro response member
    rcases List.mem_cons.mp member with rfl | progress
    · exact rfl
    · obtain ⟨code, -, rfl⟩ := List.mem_map.mp progress
      exact rfl

/-- A stream of the daemon fits the limit of the client, which accepts exactly when the
daemon completed the transaction with acceptance. -/
theorem exchange_of_alone {client : PamEnvironment} {context : RequestContext}
    {early : List Response}
    (bound : early.length ≤ AuthenticationEngine.MAX_PROGRESS_UPDATES + 1)
    (continues : ∀ response ∈ early, response.Continues context.transactionId)
    (ends : responses = early ∨
      ∃ decision, responses = early ++ [.completed context.transactionId decision])
    (hears : client.Hears responses) :
    responses.length ≤ Pam.MAX_RESPONSES ∧
      (exchange client (.authenticate context) = .accepted ↔
        .completed context.transactionId .accepted ∈ responses) := by
  have limit : AuthenticationEngine.MAX_PROGRESS_UPDATES + 2 ≤ Pam.MAX_RESPONSES := by decide
  refine ⟨?_, ?_⟩
  · rcases ends with rfl | ⟨decision, rfl⟩
    · omega
    · rw [List.length_append, List.length_singleton]
      omega
  · rw [exchange_eq_accepted_iff hears]
    constructor
    · rintro ⟨first, rest, -, -, rfl⟩
      exact List.mem_append_right _ List.mem_cons_self
    · intro member
      rcases ends with rfl | ⟨decision, rfl⟩
      · exact (continues _ member).elim
      · rcases List.mem_append.mp member with before | last
        · exact (continues _ before).elim
        · rw [← List.mem_singleton.mp last]
          exact ⟨early, [], by omega, continues, rfl⟩

end Client

/-! ## The protocol of responses -/

section Protocol

variable {environment : Environment} {policy : AuthenticationConnectionPolicy}
  {connection : ConnectionToken} {boundary : BoundaryService} {engines start : Engines}

/-- The responses of a client's single request, as its exchange takes them. -/
theorem Converses.agrees (serves : Converses engines environment policy connection boundary)
    (orderly : engines.Orderly) {context : RequestContext}
    (asks : environment.read 0 = .ok (.authenticate context)) (alone : ¬ environment.AsksAgain)
    {fuel : Nat} {result : Except BoundaryError Response} {final : World}
    (returns : coordinateAuthenticationConnection environment policy connection fuel boundary =
      some (result, final))
    {client : PamEnvironment} (hears : client.Hears final.delivered) :
    final.delivered.length ≤ Pam.MAX_RESPONSES ∧
      (exchange client (.authenticate context) = .accepted ↔
        .completed context.transactionId .accepted ∈ final.delivered) := by
  have none_ : final.delivered = [] → final.delivered.length ≤ Pam.MAX_RESPONSES ∧
      (exchange client (.authenticate context) = .accepted ↔
        .completed context.transactionId .accepted ∈ final.delivered) := fun nothing =>
    exchange_of_alone (Nat.zero_le _) (List.forall_mem_nil _) (.inl nothing) hears
  obtain ⟨reason, answer⟩ | ⟨active, own, opens⟩ :=
    handleOne_authenticate connection boundary asks
  · unfold coordinateAuthenticationConnection at returns
    rw [answer] at returns
    cases written : environment.write 1 with
    | error error =>
        rw [deliver_eq_of_error written] at returns
        cases returns
        exact none_ (delivered_deliver_of_error written)
    | ok _ =>
        rw [deliver_eq_of_ok written] at returns
        cases returns
        have only : (deliver environment (.rejected (some context.transactionId) reason)
            (World.start boundary).tick).2.delivered =
              [.rejected (some context.transactionId) reason] := delivered_deliver_of_ok written
        rw [only] at hears ⊢
        refine ⟨Nat.succ_le_succ (Nat.zero_le _), ?_⟩
        rw [exchange_eq_accepted_iff hears]
        refine iff_of_false ?_ (by simp)
        rintro ⟨early, rest, -, continues, same⟩
        cases early with
        | nil => cases same
        | cons first early =>
            have goesOn := continues first List.mem_cons_self
            rw [← (List.cons.inj same).1] at goesOn
            exact goesOn
  · rcases serves.recounts orderly opens returns with ⟨-, nothing⟩ | ⟨-, recounts⟩
    · exact none_ nothing
    · rw [own] at recounts
      obtain ⟨early, bound, continues, ends⟩ := recounts.alone alone
      exact exchange_of_alone bound continues ends hears

/-- **The protocol of responses.** With an update stream of the authentication service,
what the coordinator writes for a transaction that it started is the start, progress within
the bound and at most one completion, at every iteration and when it returns. Of any stream,
the client accepts what begins with fewer than its limit of responses of its own transaction
and then the acceptance. So the stream for a single request fits the client, and the client
accepts it exactly when the daemon completed the transaction with acceptance. -/
theorem response_protocol (fresh : start.Fresh)
    (reached : engineProgram.Reaches (fun _ _ => True) start engines)
    (serves : Converses engines environment policy connection boundary) :
    (∀ active, Opens environment connection boundary active → environment.write 1 = .ok () →
      environment.submit 2 (jobOf active) = .ok () → ∀ head, Visited
        (coordinatorStep environment policy connection active.grant.transactionId)
        (firstHead environment connection boundary active) head →
          Transcript active.grant.transactionId head.delivered) ∧
    (∀ active, Opens environment connection boundary active → ∀ fuel result final,
      coordinateAuthenticationConnection environment policy connection fuel boundary =
        some (result, final) →
          environment.write 1 ≠ .ok () ∧ final.delivered = [] ∨
            environment.write 1 = .ok () ∧
              Transcript active.grant.transactionId final.delivered) ∧
    (∀ (client : PamEnvironment) (context : RequestContext) (responses : List Response),
      client.Hears responses →
        (exchange client (.authenticate context) = .accepted ↔
          ∃ early rest, early.length < Pam.MAX_RESPONSES ∧
            (∀ response ∈ early, response.Continues context.transactionId) ∧
            responses = early ++ .completed context.transactionId .accepted :: rest)) ∧
    ∀ context, environment.read 0 = .ok (.authenticate context) → ¬ environment.AsksAgain →
      ∀ fuel result final,
        coordinateAuthenticationConnection environment policy connection fuel boundary =
          some (result, final) →
        ∀ client : PamEnvironment, client.Hears final.delivered →
          final.delivered.length ≤ Pam.MAX_RESPONSES ∧
            (exchange client (.authenticate context) = .accepted ↔
              .completed context.transactionId .accepted ∈ final.delivered) := by
  have orderly := Engines.Orderly.reaches fresh reached
  refine ⟨?_, ?_, ?_, ?_⟩
  · intro active opens written submitted head visited
    exact (serves.recounts_head orderly opens written submitted visited).transcript
  · intro active opens fuel result final returns
    exact (serves.recounts orderly opens returns).imp id (And.imp_right Recounts.transcript)
  · exact fun client context responses hears => exchange_eq_accepted_iff hears
  · intro context asks alone fuel result final returns client hears
    exact serves.agrees orderly asks alone returns hears

/-- The service fails the job of the test connection. -/
def failCapture : List (Turn SubmitChoice EngineEvent) :=
  [.thread 0 (.submit .authentication ⟨⟨7⟩, 1000⟩), .thread 0 .proceed, .thread 0 .proceed,
    .event (.worker .authentication .take), .event (.worker .authentication .proceed),
    .event (.worker .authentication (.finish (.error .capture))),
    .event (.worker .authentication .proceed), .event (.worker .authentication .proceed)]

/-- The failed job of the example is what its client hears of. -/
theorem serves_failCapture :
    Converses (engineProgram.after Engines.start failCapture) Environment.test
      AuthenticationConnectionPolicy.test ⟨1⟩ BoundaryService.test := by
  intro active opens submitted
  have same : active = ActiveSession.test :=
    Option.some.inj (opens.2.symm.trans opens_test.2)
  subst same
  refine ⟨0, by decide, rfl, fun fuel => ?_⟩
  have returns : (iterate (coordinatorStep Environment.test AuthenticationConnectionPolicy.test
      ⟨1⟩ ⟨7⟩) 1 (firstHead Environment.test ⟨1⟩ BoundaryService.test ActiveSession.test)).isSome =
        true := rfl
  obtain ⟨⟨result, final⟩, ends⟩ := Option.isSome_iff_exists.mp returns
  exact (trace_prefix_of_returns _ ends fuel).map Prod.snd

/-- The responses of the failed job follow the protocol. -/
theorem response_protocol_failCapture :
    Transcript ⟨7⟩ (firstHead Environment.test ⟨1⟩ BoundaryService.test
      ActiveSession.test).delivered := by
  have taken : engineProgram.Obeys (fun _ _ => True) Engines.start failCapture := by decide
  exact (response_protocol Engines.fresh_start taken.reaches serves_failCapture).1 _ opens_test
    rfl rfl _ .start

end Protocol

end FaceAuth
