import Mathlib.Order.Monotone.Defs
import FaceAuth.Pam.Agreement
import FaceAuth.Transport.Frame

/-!
# How long the client waits

The client gives up on a response that does not come within the I/O timeout of
its socket, and on a transaction that lasts longer than its total limit. The
coordinator writes a response only when its engine has an update.
-/

namespace FaceAuth

open Foundation

/-! ## Responses on time -/

/-- When the client begins to wait for the response of this index: it read all before it as
they came. -/
def waitsFrom (arrivals : List (Nat × Response)) (index : Nat) : Nat :=
  ((arrivals.take index).map Prod.fst).foldl max 0

/-- A client whose responses arrive at these times since its request, in microseconds, and
which takes no time of its own. -/
def PamEnvironment.timed (config : TransportConfig) (arrivals : List (Nat × Response)) :
    PamEnvironment where
  write _ := .ok ()
  elapsed index := waitsFrom arrivals index
  read index :=
    match arrivals[index]? with
    | some arrival =>
        if arrival.1 < waitsFrom arrivals index + config.ioTimeoutMicros then
          .ok (.current arrival.2)
        else .error (.io ⟨.other, "Resource temporarily unavailable"⟩)
    | none => .error (.io ⟨.other, "Resource temporarily unavailable"⟩)

/-- Responses at these times follow each other within the I/O timeout, and the client waits
for each of them from before the total limit. -/
def Timely (times : List Nat) : Prop :=
  (0 :: times).IsChain (fun earlier later =>
      later < earlier + TransportConfig.default.ioTimeoutMicros) ∧
    ∀ begins ∈ (0 :: times).dropLast, begins < Pam.MAX_TRANSACTION_DURATION

instance : DecidablePred Timely := fun _ => inferInstanceAs (Decidable (_ ∧ _))

section Timed

variable {times : List Nat} {responses : List Response} {transactionId : TransactionId}

/-- The largest of an ascending list is its last. -/
theorem foldl_max_take {first : Nat} (ascending : (first :: times).Pairwise (· ≤ ·)) {index : Nat}
    (known : index < (first :: times).length) :
    (times.take index).foldl max first = (first :: times)[index] := by
  induction times generalizing first index with
  | nil =>
      cases index with
      | zero => rfl
      | succ index => exact absurd known (by simp)
  | cons second times ih =>
      cases index with
      | zero => rfl
      | succ index =>
          obtain ⟨least, later⟩ := List.pairwise_cons.mp ascending
          rw [List.take_succ_cons, List.foldl_cons,
            Nat.max_eq_right (least second List.mem_cons_self)]
          exact ih later (Nat.lt_of_succ_lt_succ known)

/-- What the module has waited for when a response comes. -/
theorem waitsFrom_zip (same : times.length = responses.length)
    (ascending : times.Pairwise (· ≤ ·)) {index : Nat} (known : index < (0 :: times).length) :
    waitsFrom (times.zip responses) index = (0 :: times)[index] := by
  rw [waitsFrom, List.map_take, List.map_fst_zip (Nat.le_of_eq same)]
  exact foldl_max_take (List.pairwise_cons.mpr ⟨fun _ _ => Nat.zero_le _, ascending⟩) known

/-- Times are timely when every wait begins before the limit and ends within the timeout. -/
theorem timely_iff :
    Timely times ↔ ∀ index, ∀ known : index + 1 < (0 :: times).length,
      (0 :: times)[index] < Pam.MAX_TRANSACTION_DURATION ∧
        (0 :: times)[index + 1] <
          (0 :: times)[index] + TransportConfig.default.ioTimeoutMicros := by
  unfold Timely
  rw [List.isChain_iff_getElem]
  constructor
  · rintro ⟨gaps, limit⟩ index known
    have small : index < (0 :: times).dropLast.length := by
      rw [List.length_dropLast]
      omega
    have begins := limit _ (List.getElem_mem small)
    rw [List.getElem_dropLast] at begins
    exact ⟨begins, gaps index known⟩
  · intro timely
    refine ⟨fun index known => (timely index known).2, fun begins member => ?_⟩
    obtain ⟨index, small, rfl⟩ := List.getElem_of_mem member
    have known : index + 1 < (0 :: times).length := by
      rw [List.length_dropLast] at small
      omega
    rw [List.getElem_dropLast]
    exact (timely index known).1

variable {early : List Response} {context : RequestContext}

/-- A response is read when it comes before the client gives up. -/
theorem reads_timed_iff (same : times.length = responses.length)
    (ascending : times.Pairwise (· ≤ ·)) {index : Nat} (known : index + 1 < (0 :: times).length)
    {response : Response} :
    (PamEnvironment.timed .default (times.zip responses)).Reads index response ↔
      ((0 :: times)[index] < Pam.MAX_TRANSACTION_DURATION ∧
        (0 :: times)[index + 1] <
          (0 :: times)[index] + TransportConfig.default.ioTimeoutMicros) ∧
        responses[index]? = some response := by
  have inside : index < (times.zip responses).length := by
    rw [List.length_zip, ← same, Nat.min_self]
    exact Nat.lt_of_succ_lt_succ known
  have small : index < responses.length := by
    rw [← same]
    exact Nat.lt_of_succ_lt_succ known
  unfold PamEnvironment.Reads PamEnvironment.timed
  dsimp only
  rw [List.getElem?_eq_getElem inside, List.getElem_zip, List.getElem?_eq_getElem small,
    waitsFrom_zip same ascending (Nat.lt_of_succ_lt known), Option.some.injEq]
  dsimp only
  rw [List.getElem_cons_succ]
  by_cases soon : times[index] < (0 :: times)[index] + TransportConfig.default.ioTimeoutMicros
  · simp only [soon, ↓reduceIte, Except.ok.injEq, exists_eq_left', and_true]
    rfl
  · simp [soon]

/-- A response that is read was sent. -/
theorem index_of_reads (same : times.length = responses.length) {config : TransportConfig}
    {index : Nat} {response : Response}
    (reads : (PamEnvironment.timed config (times.zip responses)).Reads index response) :
    index + 1 < (0 :: times).length := by
  obtain ⟨-, envelope, read, -⟩ := reads
  rw [List.length_cons]
  refine Nat.succ_lt_succ (Nat.lt_of_not_le fun past => ?_)
  have none_ : (times.zip responses)[index]? = none := by
    rw [List.getElem?_eq_none_iff, List.length_zip, ← same, Nat.min_self]
    exact past
  unfold PamEnvironment.timed at read
  dsimp only at read
  rw [none_] at read
  cases read

/-- The client accepts a completed stream within its limit exactly when the stream is on
time. -/
theorem exchange_timed_iff
    (same : times.length =
      (early ++ [Response.completed context.transactionId .accepted]).length)
    (ascending : times.Pairwise (· ≤ ·)) (bound : early.length < Pam.MAX_RESPONSES)
    (continues : ∀ response ∈ early, response.Continues context.transactionId) :
    exchange (.timed .default (times.zip
        (early ++ [.completed context.transactionId .accepted])))
        (.authenticate context) = .accepted ↔ Timely times := by
  have length : times.length = early.length + 1 := by
    rw [same, List.length_append, List.length_singleton]
  rw [exchange_of_sent rfl, awaitCompletion_eq_accepted_iff, timely_iff]
  constructor
  · rintro ⟨last, -, earlier, accepted⟩ index known
    rw [Nat.zero_add] at accepted
    have inside := index_of_reads same accepted
    have found := ((reads_timed_iff same ascending inside).mp accepted).2
    have ends : last = early.length := by
      refine Nat.le_antisymm (by rw [List.length_cons, length] at inside; omega) ?_
      refine Nat.le_of_not_lt fun before => ?_
      rw [List.getElem?_append_left before] at found
      exact continues _ (List.mem_of_getElem? found)
    rcases Nat.lt_or_ge index last with before | after
    · obtain ⟨response, reads, -⟩ := earlier index before
      rw [Nat.zero_add] at reads
      exact ((reads_timed_iff same ascending known).mp reads).1
    · have only : index = last := by
        rw [List.length_cons, length] at known
        omega
      subst only
      exact ((reads_timed_iff same ascending known).mp accepted).1
  · intro timely
    refine ⟨early.length, bound, fun round below => ?_, ?_⟩
    · rw [Nat.zero_add]
      have known : round + 1 < (0 :: times).length := by
        rw [List.length_cons, length]
        omega
      refine ⟨early[round], (reads_timed_iff same ascending known).mpr ⟨timely round known, ?_⟩,
        continues _ (List.getElem_mem below)⟩
      rw [List.getElem?_append_left below, List.getElem?_eq_getElem below]
    · rw [Nat.zero_add]
      have known : early.length + 1 < (0 :: times).length := by
        rw [List.length_cons, length]
        omega
      refine (reads_timed_iff same ascending known).mpr ⟨timely _ known, ?_⟩
      exact List.getElem?_concat_length

end Timed

/-! ## The times of a run -/

/-- When the coordinator writes the responses of a transaction: its start, and then one for
each update that it receives. -/
def responseTimes (environment : Environment) (policy : AuthenticationConnectionPolicy)
    (connection : ConnectionToken) (boundary : BoundaryService) (active : ActiveSession)
    (fuel : Nat) : List Nat :=
  environment.clock 1 ::
    (trace (coordinatorStep environment policy connection active.grant.transactionId)
      environment.receipts fuel (firstHead environment connection boundary active)).map Prod.fst

section Run

variable {environment : Environment} {policy : AuthenticationConnectionPolicy}
  {connection : ConnectionToken} {boundary : BoundaryService} {active : ActiveSession}
  {transactionId : TransactionId} {world next : World}

/-- Polling does not turn back the time. -/
theorem Polled.moment_le {flow : Flow World (Except BoundaryError Response)}
    (polled : Polled environment transactionId active world flow) (goes : flow = .again next) :
    world.moment ≤ next.moment := by
  cases polled with
  | idle quiet =>
      cases goes
      exact Nat.le_succ _
  | refused pending read other written =>
      cases goes
      rw [moment_deliver, World.moment_tick, World.moment_tick]
      omega
  | cancelled pending read written => exact absurd goes drainThen_returns
  | lost cause => exact absurd goes drainThen_returns

/-- Every iteration takes some time. -/
theorem Stepped.moment_lt {flow : Flow World (Except BoundaryError Response)}
    (stepped : Stepped environment policy connection transactionId active world flow)
    (goes : flow = .again next) : world.moment + 1 ≤ next.moment := by
  cases stepped with
  | silent found polled => exact polled.moment_le goes
  | progressed found early written polled =>
      have later := polled.moment_le goes
      rw [moment_deliver, World.moment_received] at later
      omega
  | timedOut found late written => exact absurd goes drainThen_returns
  | progressLost | timeoutLost | failed | derived | foreign => cases goes

/-- An update is received at the time of its moment. -/
theorem receipts_time {receipt : Nat × AuthenticationEngineUpdate}
    (received : receipt ∈ environment.receipts world) :
    receipt.1 = environment.clock (world.moment + 1) := by
  unfold Environment.receipts at received
  split at received
  · rw [List.mem_singleton.mp received]
  · cases received
  · cases received

/-- Updates are received in the order of their times. -/
theorem receipts_ascending : ((environment.receipts world).map Prod.fst).Pairwise (· ≤ ·) := by
  unfold Environment.receipts
  split
  · exact List.pairwise_singleton ..
  · exact .nil
  · exact .nil

/-- With a clock that does not go back, the updates come one after the other. -/
theorem Opens.ascending (opens : Opens environment connection boundary active)
    (forward : Monotone environment.clock) {labels : List (Nat × AuthenticationEngineUpdate)}
    {head : World}
    (traced : Traced
      (coordinatorStep environment policy connection active.grant.transactionId)
      environment.receipts (firstHead environment connection boundary active) labels head) :
    (environment.clock 1 :: labels.map Prod.fst).Pairwise (· ≤ ·) ∧
      ∀ time ∈ environment.clock 1 :: labels.map Prod.fst,
        time ≤ environment.clock head.moment := by
  induction traced with
  | start =>
      refine ⟨List.pairwise_singleton .., fun time member => ?_⟩
      rw [List.mem_singleton.mp member]
      refine forward ?_
      have moment := opens.requested.2.2.2.1
      change 1 ≤ (FaceAuth.requested environment connection boundary).tick.moment
      rw [World.moment_tick, moment]
      decide
  | @next labels state next earlier goes ih =>
      obtain ⟨ascending, past⟩ := ih
      have later := (coordinatorStep_cases (opens.visited earlier.visited)).moment_lt goes
      have new : ∀ time ∈ (environment.receipts state).map Prod.fst,
          time = environment.clock (state.moment + 1) := by
        intro time member
        obtain ⟨receipt, received, rfl⟩ := List.mem_map.mp member
        exact receipts_time received
      rw [List.map_append, ← List.cons_append]
      refine ⟨List.pairwise_append.mpr ⟨ascending, receipts_ascending, ?_⟩, ?_⟩
      · intro first old second recent
        rw [new second recent]
        exact (past first old).trans (forward (Nat.le_succ _))
      · intro time member
        rcases List.mem_append.mp member with old | recent
        · exact (past time old).trans (forward (by omega))
        · rw [new time recent]
          exact forward later

/-- A run that ends with acceptance wrote one response for each update, in order, and the
loop was entered. -/
theorem Opens.accepted_run (opens : Opens environment connection boundary active)
    (alone : ¬ environment.AsksAgain) (forward : Monotone environment.clock) {fuel : Nat}
    {final : World}
    (accepts : coordinateAuthenticationConnection environment policy connection fuel boundary =
      some (.ok (.completed active.grant.transactionId .accepted), final)) :
    environment.submit 2 (jobOf active) = .ok () ∧
      ∃ codes : List ProgressCode, ∃ labels head,
        Traced (coordinatorStep environment policy connection active.grant.transactionId)
          environment.receipts (firstHead environment connection boundary active) labels head ∧
        labels.map Prod.snd =
          codes.map (AuthenticationEngineUpdate.progress active.grant.transactionId) ∧
        final.delivered = (.started active.grant.transactionId ::
          codes.map (.progress active.grant.transactionId)) ++
            [.completed active.grant.transactionId .accepted] ∧
        (responseTimes environment policy connection boundary active fuel).length =
          codes.length + 2 ∧
        (responseTimes environment policy connection boundary active fuel).Pairwise (· ≤ ·) := by
  have start := opens.delivered
  rw [coordinate_of_opens opens] at accepts
  cases written : environment.write 1 with
  | error error =>
      rw [written] at accepts
      cases accepts
  | ok _ =>
      rw [written] at accepts start
      dsimp only at accepts
      cases submitted : environment.submit 2 (jobOf active) with
      | error error =>
          rw [submitted, Option.some.injEq] at accepts
          have answer := congrArg Prod.fst accepts
          unfold deliver at answer
          split at answer
          · rw [Except.ok.injEq, failureAnswer, Response.completed.injEq] at answer
            split at answer <;> cases answer.2
          · cases answer
      | ok _ =>
          rw [submitted] at accepts
          dsimp only at accepts
          obtain ⟨labels, last, traced, ends, whole⟩ :=
            iterate_traced environment.receipts accepts
          have live := opens.visited traced.visited
          obtain ⟨codes, received, goesOn⟩ := opens.goesOn traced
          obtain ⟨⟨evidence, receives⟩, delivered⟩ :=
            (coordinatorStep_cases live).accepted live ends
          obtain ⟨between, speaks, same⟩ := goesOn
          have begun : (firstHead environment connection boundary active).delivered =
              [.started active.grant.transactionId] := start
          have count : labels.length = codes.length := by
            rw [← List.length_map (f := Prod.snd), received, List.length_map]
          refine ⟨rfl, codes, labels, last, traced, received, ?_, ?_, ?_⟩
          · rw [delivered, same, begun, speaks.eq_of_alone alone]
            rfl
          · rw [responseTimes, whole, receives]
            simp [count]
          · obtain ⟨ascending, past⟩ := opens.ascending forward traced
            rw [responseTimes, whole, receives, List.map_append, ← List.cons_append,
              List.pairwise_append]
            refine ⟨ascending, List.pairwise_singleton .., fun first old second recent => ?_⟩
            rw [List.mem_singleton.mp recent]
            exact (past first old).trans (forward (Nat.le_succ _))

/-- The session of a first request is that of its own transaction. -/
theorem Opens.own {context : RequestContext}
    (opens : Opens environment connection boundary active)
    (asks : environment.read 0 = .ok (.authenticate context)) :
    active.grant.transactionId = context.transactionId := by
  obtain ⟨reason, answer⟩ | ⟨other, own, started⟩ :=
    handleOne_authenticate connection boundary asks
  · have held := opens.2
    unfold FaceAuth.requested at held
    rw [answer, sessions_deliver] at held
    exact absurd (opens.1.symm.trans held) nofun
  · rw [Option.some.inj (opens.2.symm.trans started.2), own]

end Run

/-! ## Patience -/

section Patience

variable {environment : Environment} {policy : AuthenticationConnectionPolicy}
  {connection : ConnectionToken} {boundary : BoundaryService} {active : ActiveSession}
  {engines start : Engines} {context : RequestContext}

/-- **When the client waits long enough.** Of a transaction that the daemon completes with
acceptance, the client hears one response for the start and one for each update of the
engine. It accepts exactly when each of them comes within the I/O timeout of the one before
it, and all but the last within the total limit. -/
theorem pam_waits_iff (fresh : start.Fresh)
    (reached : engineProgram.Reaches (fun _ _ => True) start engines)
    (serves : Converses engines environment policy connection boundary)
    (forward : Monotone environment.clock)
    (opens : Opens environment connection boundary active)
    (asks : environment.read 0 = .ok (.authenticate context)) (alone : ¬ environment.AsksAgain)
    {fuel : Nat} {final : World}
    (accepts : coordinateAuthenticationConnection environment policy connection fuel boundary =
      some (.ok (.completed active.grant.transactionId .accepted), final)) (sent : Nat) :
    (responseTimes environment policy connection boundary active fuel).length =
        final.delivered.length ∧
      (exchange (.timed .default
          (((responseTimes environment policy connection boundary active fuel).map
            (· - sent)).zip final.delivered)) (.authenticate context) = .accepted ↔
        Timely ((responseTimes environment policy connection boundary active fuel).map
          (· - sent))) := by
  have orderly := Engines.Orderly.reaches fresh reached
  obtain ⟨submitted, codes, labels, head, traced, received, delivered, count, ascending⟩ :=
    opens.accepted_run alone forward accepts
  have bound : codes.length ≤ AuthenticationEngine.MAX_PROGRESS_UPDATES := by
    refine serves.bounded orderly opens submitted traced ?_
    rw [List.map_append, ← received]
    exact List.prefix_append ..
  have limit : AuthenticationEngine.MAX_PROGRESS_UPDATES + 1 < Pam.MAX_RESPONSES := by decide
  have same : (responseTimes environment policy connection boundary active fuel).length =
      final.delivered.length := by
    rw [count, delivered]
    simp
  refine ⟨same, ?_⟩
  rw [opens.own asks] at delivered
  rw [delivered]
  refine exchange_timed_iff ?_ ?_ ?_ ?_
  · rw [List.length_map, same, delivered]
  · exact ascending.map _ fun first second before => Nat.sub_le_sub_right before sent
  · rw [List.length_cons, List.length_map]
    omega
  · intro response member
    rcases List.mem_cons.mp member with rfl | progress
    · exact rfl
    · obtain ⟨code, -, rfl⟩ := List.mem_map.mp progress
      exact rfl

/-- Evidence that the default policy accepts for the account of the test request. -/
def DerivedAuthenticationEvidence.passing : DerivedAuthenticationEvidence where
  transactionId := ⟨7⟩
  timing := ⟨0, some 0⟩
  quality := 0.9
  embedding := ⟨List.replicate 64 97, 1.0 :: List.replicate 31 0.0⟩
  passiveLiveness :=
    [⟨.passiveLivenessInfrared, List.replicate 64 97, 0.9, by decide +kernel⟩,
      ⟨.passiveLivenessVisible, List.replicate 64 98, 0.9, by decide +kernel⟩]
  activeChallenge := .passed
  completedAtMicros := 3_000_000

/-- A tenth of a second for each interaction up to the last progress, and then a little more
than the poll interval for each wait. -/
def quietClock (moment : Nat) : Nat := 100_000 * min moment 10 + 25_100 * ((moment - 11) / 2)

/-- The clock of the example goes forward. -/
theorem quietClock_forward : Monotone quietClock := by
  intro first second later
  unfold quietClock
  omega

/-- A run of three prompts, after which the engine is silent for this many waits before its
evidence comes. The client is there up to two seconds after the last prompt. -/
def Environment.quiet (waits : Nat) : Environment :=
  { Environment.test with
    clock := quietClock
    pending := fun moment => .ok (decide (3_000_000 ≤ quietClock moment))
    templates := fun _ _ => .ok ⟨FORMAT_VERSION, 1000, List.replicate 64 97,
      1.0 :: List.replicate 31 0.0⟩
    receive := fun moment _ =>
      if moment = 3 then .update (.progress ⟨7⟩ .positionFace)
      else if moment = 6 then .update (.progress ⟨7⟩ .blink)
      else if moment = 9 then .update (.progress ⟨7⟩ .processing)
      else if moment = 12 + 2 * waits then .update (.completed ⟨7⟩ (.ok .passing))
      else .timeout }

/-- The job of such a run. -/
def quietJob : List (Turn SubmitChoice EngineEvent) :=
  [.thread 0 (.submit .authentication ⟨⟨7⟩, 1000⟩), .thread 0 .proceed, .thread 0 .proceed,
    .event (.worker .authentication .take), .event (.worker .authentication .proceed),
    .event (.worker .authentication (.report .positionFace)),
    .event (.worker .authentication .proceed),
    .event (.worker .authentication (.report .blink)), .event (.worker .authentication .proceed),
    .event (.worker .authentication (.report .processing)),
    .event (.worker .authentication .proceed),
    .event (.worker .authentication (.finish (.ok .passing))),
    .event (.worker .authentication .proceed), .event (.worker .authentication .proceed)]

/-- Nobody asks again in the example. -/
theorem quiet_alone (waits : Nat) : ¬ (Environment.quiet waits).AsksAgain := by
  rintro ⟨moment, request, later, read⟩
  change (if moment = 0 then _ else _) = Except.ok request at read
  rw [if_neg (Nat.ne_of_gt later)] at read
  cases read

/-- A run that returns, and receives what the job of the quiet run sent. -/
theorem serves_quiet {waits : Nat} (fuel : Nat)
    (opens : Opens (.quiet waits) ⟨1⟩ BoundaryService.test ActiveSession.test)
    (returns : (iterate (coordinatorStep (.quiet waits) .test ⟨1⟩ ⟨7⟩) fuel
      (firstHead (.quiet waits) ⟨1⟩ BoundaryService.test ActiveSession.test)).isSome = true)
    (same : (trace (coordinatorStep (.quiet waits) .test ⟨1⟩ ⟨7⟩) (Environment.quiet waits).receipts
      fuel (firstHead (.quiet waits) ⟨1⟩ BoundaryService.test ActiveSession.test)).map Prod.snd =
        [.progress ⟨7⟩ .positionFace, .progress ⟨7⟩ .blink, .progress ⟨7⟩ .processing,
          .completed ⟨7⟩ (.ok .passing)]) :
    Converses (engineProgram.after Engines.start quietJob) (.quiet waits) .test ⟨1⟩
      BoundaryService.test := by
  intro active starts submitted
  have only : active = ActiveSession.test := Option.some.inj (starts.2.symm.trans opens.2)
  subst only
  obtain ⟨⟨result, final⟩, ends⟩ := Option.isSome_iff_exists.mp returns
  refine ⟨0, by decide, rfl, fun other => ?_⟩
  have early := (trace_prefix_of_returns (Environment.quiet waits).receipts ends other).map Prod.snd
  rw [same] at early
  exact early

/-- The job of the example can be run. -/
theorem quietJob_taken : engineProgram.Obeys (fun _ _ => True) Engines.start quietJob := by
  decide +kernel

/-- The client of a run that is quiet for a moment only accepts. -/
theorem pam_waits_iff_quiet :
    ∃ final : World, exchange (.timed .default ((responseTimes (.quiet 10) .test ⟨1⟩
      BoundaryService.test ActiveSession.test 14).zip final.delivered))
        (.authenticate .test) = .accepted := by
  have opens : Opens (.quiet 10) ⟨1⟩ BoundaryService.test ActiveSession.test :=
    ⟨rfl, by decide +kernel⟩
  have accepts : (coordinateAuthenticationConnection (.quiet 10) .test ⟨1⟩ 14
      BoundaryService.test).map Prod.fst = some (.ok (.completed ⟨7⟩ .accepted)) := by
    decide +kernel
  obtain ⟨⟨result, final⟩, returns, rfl⟩ := Option.map_eq_some_iff.mp accepts
  have patient := (pam_waits_iff Engines.fresh_start quietJob_taken.reaches
    (serves_quiet 14 opens (by decide +kernel) rfl) quietClock_forward opens rfl
    (quiet_alone 10) returns 0).2.mpr (by decide +kernel)
  exact ⟨final, by simpa using patient⟩

/-- The engine needs a little more than two seconds between its last prompt and its
evidence. Up to then no look at the client finds that it has gone, and the daemon completes
the transaction with acceptance. The client has given up. -/
theorem pam_gives_up :
    Engines.start.Fresh ∧ engineProgram.Reaches (fun _ _ => True) Engines.start
      (engineProgram.after Engines.start quietJob) ∧
    Converses (engineProgram.after Engines.start quietJob) (.quiet 79) .test ⟨1⟩
      BoundaryService.test ∧
    Monotone (Environment.quiet 79).clock ∧
    BoundaryService.test.sessions.config.validate = .ok () ∧
    Opens (.quiet 79) ⟨1⟩ BoundaryService.test ActiveSession.test ∧
    (Environment.quiet 79).read 0 = .ok (.authenticate .test) ∧
    ¬ (Environment.quiet 79).AsksAgain ∧
    ∃ final, coordinateAuthenticationConnection (.quiet 79) .test ⟨1⟩ 83 BoundaryService.test =
        some (.ok (.completed ⟨7⟩ .accepted), final) ∧
      exchange (.timed .default ((responseTimes (.quiet 79) .test ⟨1⟩ BoundaryService.test
        ActiveSession.test 83).zip final.delivered)) (.authenticate .test) = .ignore := by
  have opens : Opens (.quiet 79) ⟨1⟩ BoundaryService.test ActiveSession.test :=
    ⟨rfl, by decide +kernel⟩
  have ends : (coordinateAuthenticationConnection (.quiet 79) .test ⟨1⟩ 83
      BoundaryService.test).map (fun answer => (answer.1,
        exchange (.timed .default ((responseTimes (.quiet 79) .test ⟨1⟩ BoundaryService.test
          ActiveSession.test 83).zip answer.2.delivered)) (.authenticate .test))) =
      some (.ok (.completed ⟨7⟩ .accepted), .ignore) := by
    decide +kernel
  obtain ⟨⟨result, final⟩, returns, same⟩ := Option.map_eq_some_iff.mp ends
  obtain ⟨rfl, ignored⟩ := Prod.mk.inj same
  exact ⟨Engines.fresh_start, quietJob_taken.reaches,
    serves_quiet 83 opens (by decide +kernel) rfl, quietClock_forward, rfl, opens, rfl,
    quiet_alone 79, final, returns, ignored⟩

end Patience

end FaceAuth
