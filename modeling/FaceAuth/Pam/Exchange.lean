import FaceAuth.Transport.AcceptLoop

/-!
# The client's exchange

The authentication module sends one request and reads responses of its own
transaction up to the terminal one. Whatever else it meets leaves the decision
to the password fallback.
-/

namespace FaceAuth

namespace Pam

/-- How many responses one exchange reads. -/
def MAX_RESPONSES : Nat := 64

/-- Twenty seconds, in microseconds. -/
def MAX_TRANSACTION_DURATION : Nat := 20_000_000

end Pam

/-- What the module tells its caller. -/
inductive PamOutcome where
  | accepted | ignore
deriving DecidableEq, Repr

/-- What the client meets: the outcome of its write, and for each response the time since
then at which it begins to wait, in microseconds, and what the read returns. -/
structure PamEnvironment where
  write : Request → Except TransportError Unit
  elapsed : Nat → Nat
  read : Nat → Except TransportError (Envelope Response)

/-- The transaction goes on after this response. -/
def Response.Continues (response : Response) (transactionId : TransactionId) : Prop :=
  match response with
  | .started received => received = transactionId
  | .progress received _ => received = transactionId
  | .completed _ _ => False
  | .rejected _ _ => False

instance (response : Response) (transactionId : TransactionId) :
    Decidable (response.Continues transactionId) := by
  cases response <;> unfold Response.Continues <;> infer_instance

section Exchange

variable (environment : PamEnvironment) (transactionId : TransactionId)

/-- Read this many responses at most, from the one of this index on. -/
def awaitCompletion : Nat → Nat → PamOutcome
  | 0, _ => .ignore
  | remaining + 1, index =>
      if Pam.MAX_TRANSACTION_DURATION ≤ environment.elapsed index then .ignore
      else
        match environment.read index with
        | .error _ => .ignore
        | .ok envelope =>
            match envelope.message with
            | .started received =>
                if received = transactionId then awaitCompletion remaining (index + 1)
                else .ignore
            | .progress received _ =>
                if received = transactionId then awaitCompletion remaining (index + 1)
                else .ignore
            | .completed received decision =>
                if received = transactionId then
                  if decision = .accepted then .accepted else .ignore
                else .ignore
            | .rejected _ _ => .ignore

/-- Send the request of the client, and wait for the decision. -/
def exchange : Request → PamOutcome
  | .cancel _ => .ignore
  | .authenticate context =>
      match environment.write (.authenticate context) with
      | .error _ => .ignore
      | .ok () => awaitCompletion environment context.transactionId Pam.MAX_RESPONSES 0

/-- The response of this index is read before the total limit. -/
def PamEnvironment.Reads (index : Nat) (response : Response) : Prop :=
  environment.elapsed index < Pam.MAX_TRANSACTION_DURATION ∧
    ∃ envelope, environment.read index = .ok envelope ∧ envelope.message = response

/-- The responses of the stream are read before the total limit, as many as the client
takes, and then the stream ends. -/
structure PamEnvironment.Hears (responses : List Response) : Prop where
  sent : ∀ request, environment.write request = .ok ()
  reads : ∀ index < Pam.MAX_RESPONSES, ∀ response, responses[index]? = some response →
    environment.Reads index response
  ends : ∃ error, environment.read responses.length = .error error

end Exchange

section Laws

variable {environment : PamEnvironment} {transactionId : TransactionId}

/-- What one round of the loop makes of a response that it reads. -/
theorem awaitCompletion_of_reads {index : Nat} {response : Response}
    (reads : environment.Reads index response) (remaining : Nat) :
    awaitCompletion environment transactionId (remaining + 1) index =
      if response.Continues transactionId then
        awaitCompletion environment transactionId remaining (index + 1)
      else if response = .completed transactionId .accepted then .accepted
      else .ignore := by
  obtain ⟨early, envelope, read, rfl⟩ := reads
  rw [awaitCompletion, if_neg (Nat.not_le_of_lt early), read]
  dsimp only
  cases envelope.message with
  | started received => simp [Response.Continues]
  | progress received code => simp [Response.Continues]
  | completed received decision =>
      by_cases own : received = transactionId <;> by_cases accepted : decision = .accepted <;>
        simp [Response.Continues, own, accepted]
  | rejected received reason => simp [Response.Continues]

/-- Nothing is accepted from a response that is not read in time. -/
theorem awaitCompletion_of_unread {index : Nat}
    (unread : ∀ response, ¬ environment.Reads index response) (remaining : Nat) :
    awaitCompletion environment transactionId remaining index = .ignore := by
  cases remaining with
  | zero => rfl
  | succ remaining =>
      rw [awaitCompletion]
      split
      · rfl
      · next early =>
          cases read : environment.read index with
          | error error => rfl
          | ok envelope =>
              exact (unread envelope.message
                ⟨Nat.lt_of_not_le early, envelope, read, rfl⟩).elim

/-- The client accepts exactly after responses that let the transaction go on and then the
acceptance, all read in time and within its limit. -/
theorem awaitCompletion_eq_accepted_iff {remaining index : Nat} :
    awaitCompletion environment transactionId remaining index = .accepted ↔
      ∃ last < remaining,
        (∀ round < last, ∃ response, environment.Reads (index + round) response ∧
          response.Continues transactionId) ∧
        environment.Reads (index + last) (.completed transactionId .accepted) := by
  induction remaining generalizing index with
  | zero => simp [awaitCompletion]
  | succ remaining ih =>
      by_cases found : ∃ response, environment.Reads index response
      · obtain ⟨response, reads⟩ := found
        have only : ∀ other, environment.Reads index other → other = response := by
          obtain ⟨-, envelope, read, rfl⟩ := reads
          rintro other ⟨-, envelope', read', rfl⟩
          rw [read, Except.ok.injEq] at read'
          rw [read']
        rw [awaitCompletion_of_reads reads]
        by_cases continues : response.Continues transactionId
        · rw [if_pos continues, ih]
          constructor
          · rintro ⟨last, bound, early, accepted⟩
            refine ⟨last + 1, Nat.succ_lt_succ bound, ?_, ?_⟩
            · intro round below
              cases round with
              | zero => exact ⟨response, reads, continues⟩
              | succ round =>
                  rw [Nat.add_comm round, ← Nat.add_assoc]
                  exact early round (Nat.lt_of_succ_lt_succ below)
            · rwa [Nat.add_comm last, ← Nat.add_assoc]
          · rintro ⟨last, bound, early, accepted⟩
            cases last with
            | zero =>
                rw [← only _ accepted] at continues
                exact continues.elim
            | succ last =>
                refine ⟨last, Nat.lt_of_succ_lt_succ bound, fun round below => ?_, ?_⟩
                · rw [Nat.add_assoc, Nat.add_comm 1]
                  exact early (round + 1) (Nat.succ_lt_succ below)
                · rwa [Nat.add_assoc, Nat.add_comm 1]
        · rw [if_neg continues]
          constructor
          · intro accepts
            split at accepts
            · next same =>
                subst same
                exact ⟨0, Nat.succ_pos _, nofun, reads⟩
            · cases accepts
          · rintro ⟨last, -, early, accepted⟩
            cases last with
            | zero => rw [if_pos (only _ accepted).symm]
            | succ last =>
                obtain ⟨first, read, goesOn⟩ := early 0 (Nat.succ_pos _)
                rw [only first read] at goesOn
                exact (continues goesOn).elim
      · have unread : ∀ response, ¬ environment.Reads index response :=
          fun response reads => found ⟨response, reads⟩
        rw [awaitCompletion_of_unread unread]
        refine iff_of_false (fun impossible => by cases impossible) ?_
        rintro ⟨last, -, early, accepted⟩
        cases last with
        | zero => exact unread _ accepted
        | succ last =>
            obtain ⟨first, read, -⟩ := early 0 (Nat.succ_pos _)
            exact unread _ read

/-- After the request was sent the module waits for its completion. -/
theorem exchange_of_sent {context : RequestContext}
    (sent : environment.write (.authenticate context) = .ok ()) :
    exchange environment (.authenticate context) =
      awaitCompletion environment context.transactionId Pam.MAX_RESPONSES 0 := by
  rw [exchange, sent]

/-- The rounds of the exchange are the places of the stream that it hears. -/
theorem PamEnvironment.Hears.reads_iff {responses : List Response}
    (hears : environment.Hears responses) {index : Nat} (bound : index < Pam.MAX_RESPONSES)
    (known : index ≤ responses.length) {response : Response} :
    environment.Reads index response ↔ responses[index]? = some response := by
  refine ⟨fun reads => ?_, hears.reads index bound response⟩
  obtain ⟨-, envelope, read, rfl⟩ := reads
  by_cases inside : index < responses.length
  · obtain ⟨-, other, found, same⟩ := hears.reads index bound _
      (List.getElem?_eq_getElem inside)
    rw [read, Except.ok.injEq] at found
    rw [List.getElem?_eq_getElem inside, found, same]
  · obtain ⟨error, broken⟩ := hears.ends
    rw [Nat.le_antisymm known (Nat.le_of_not_lt inside), broken] at read
    cases read

/-- **What the client accepts.** Of a stream that is read in time, the client accepts
exactly fewer than its limit of responses that let its own transaction go on, and then the
acceptance of that transaction. -/
theorem exchange_eq_accepted_iff {responses : List Response} {context : RequestContext}
    (hears : environment.Hears responses) :
    exchange environment (.authenticate context) = .accepted ↔
      ∃ early rest, early.length < Pam.MAX_RESPONSES ∧
        (∀ response ∈ early, response.Continues context.transactionId) ∧
        responses = early ++ .completed context.transactionId .accepted :: rest := by
  rw [exchange_of_sent (hears.sent _), awaitCompletion_eq_accepted_iff]
  constructor
  · rintro ⟨last, bound, early, accepted⟩
    have known : ∀ round ≤ last, round ≤ responses.length := by
      intro round
      induction round with
      | zero => exact fun _ => Nat.zero_le _
      | succ round ih =>
          intro below
          obtain ⟨response, reads, -⟩ := early round below
          rw [Nat.zero_add, hears.reads_iff (Nat.lt_trans below bound)
            (ih (Nat.le_of_lt below))] at reads
          exact (List.getElem?_eq_some_iff.mp reads).1
    rw [Nat.zero_add, hears.reads_iff bound (known last (Nat.le_refl _)),
      List.getElem?_eq_some_iff] at accepted
    obtain ⟨inside, found⟩ := accepted
    refine ⟨responses.take last, responses.drop (last + 1), ?_, ?_, ?_⟩
    · rwa [List.length_take, Nat.min_eq_left (Nat.le_of_lt inside)]
    · intro response member
      obtain ⟨round, small, rfl⟩ := List.getElem_of_mem member
      have below : round < last := Nat.lt_of_lt_of_le small (List.length_take_le _ _)
      obtain ⟨response, reads, continues⟩ := early round below
      rw [Nat.zero_add, hears.reads_iff (Nat.lt_trans below bound)
        (known round (Nat.le_of_lt below)), List.getElem?_eq_some_iff] at reads
      obtain ⟨known, rfl⟩ := reads
      rwa [List.getElem_take]
    · rw [← found, List.getElem_cons_drop, List.take_append_drop]
  · rintro ⟨early, rest, bound, continues, rfl⟩
    refine ⟨early.length, bound, fun round below => ?_, ?_⟩
    · rw [Nat.zero_add]
      refine ⟨early[round], hears.reads _ (Nat.lt_trans below bound) _ ?_,
        continues _ (List.getElem_mem below)⟩
      rw [List.getElem?_append_left below, List.getElem?_eq_getElem below]
    · rw [Nat.zero_add]
      refine hears.reads _ bound _ ?_
      rw [List.getElem?_append_right (Nat.le_refl _), Nat.sub_self]
      rfl

end Laws

end FaceAuth
