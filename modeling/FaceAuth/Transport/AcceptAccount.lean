import Mathlib.Data.List.Induction
import Mathlib.Data.Nat.Find
import FaceAuth.Foundation.Loop
import FaceAuth.Foundation.Word
import FaceAuth.Transport.Frame

/-!
# What the accept loop does

The loop takes its turns one after the other, each with an answer to its stop
check and an accept attempt, and keeps an account of all that it did. What it
has done after some turns is a function of these turns, and so is the turn at
which it gives up.
-/

namespace FaceAuth

open Foundation

/-! ## Turns -/

section Turns

variable {Stream : Type}

/-- The first turns of the loop. -/
def turnsBefore (turns : Nat → AcceptTurn Stream) (count : Nat) : List (AcceptTurn Stream) :=
  (List.range count).map turns

theorem turnsBefore_succ (turns : Nat → AcceptTurn Stream) (count : Nat) :
    turnsBefore turns (count + 1) = turnsBefore turns count ++ [turns count] := by
  rw [turnsBefore, List.range_succ, List.map_append]
  rfl

/-- The accept attempt of this turn fails. -/
def AcceptTurn.failed (turn : AcceptTurn Stream) : Bool :=
  match turn.outcome with
  | .stream _ => false
  | .nothing => false
  | .failure _ => true

/-- The failed attempts of these turns. -/
def failedAttempts (turns : List (AcceptTurn Stream)) : Nat := turns.countP AcceptTurn.failed

/-- The failed attempts since a stream was accepted, counting on from those before. -/
def consecutiveAfter (failures : Nat) (turn : AcceptTurn Stream) : Nat :=
  match turn.outcome with
  | .stream _ => 0
  | .nothing => failures
  | .failure _ => failures + 1

/-- The failed attempts of these turns after the last stream that they accept. -/
def consecutiveFailures (turns : List (AcceptTurn Stream)) : Nat :=
  turns.foldl consecutiveAfter 0

theorem consecutiveFailures_concat (turns : List (AcceptTurn Stream)) (turn : AcceptTurn Stream) :
    consecutiveFailures (turns ++ [turn]) = consecutiveAfter (consecutiveFailures turns) turn := by
  rw [consecutiveFailures, List.foldl_append]
  rfl

theorem acceptedStreams_append (early late : List (AcceptTurn Stream)) :
    acceptedStreams (early ++ late) = acceptedStreams early ++ acceptedStreams late :=
  List.filterMap_append

theorem length_acceptedStreams_mono (turns : Nat → AcceptTurn Stream) {early late : Nat}
    (order : early ≤ late) :
    (acceptedStreams (turnsBefore turns early)).length ≤
      (acceptedStreams (turnsBefore turns late)).length :=
  (((List.range_sublist.mpr order).map turns).filterMap _).length_le

theorem failedAttempts_append (early late : List (AcceptTurn Stream)) :
    failedAttempts (early ++ late) = failedAttempts early + failedAttempts late :=
  List.countP_append

/-- The consecutive failures are those of a last window without a stream. -/
theorem exists_window (turns : List (AcceptTurn Stream)) :
    ∃ earlier window, turns = earlier ++ window ∧ acceptedStreams window = [] ∧
      failedAttempts window = consecutiveFailures turns := by
  induction turns using List.reverseRecOn with
  | nil => exact ⟨[], [], rfl, rfl, rfl⟩
  | append_singleton turns turn ih =>
      obtain ⟨earlier, window, rfl, none_, count⟩ := ih
      rw [consecutiveFailures_concat, ← count]
      obtain ⟨stop, outcome⟩ := turn
      cases outcome with
      | stream stream =>
          exact ⟨earlier ++ window ++ [⟨stop, .stream stream⟩], [], by simp, rfl, rfl⟩
      | nothing =>
          refine ⟨earlier, window ++ [⟨stop, .nothing⟩], by simp, ?_, ?_⟩
          · rw [acceptedStreams_append, none_]
            rfl
          · rw [failedAttempts_append]
            rfl
      | failure error =>
          refine ⟨earlier, window ++ [⟨stop, .failure error⟩], by simp, ?_, ?_⟩
          · rw [acceptedStreams_append, none_]
            rfl
          · rw [failedAttempts_append]
            rfl

/-- A last window without a stream has no more failures than there are consecutive ones. -/
theorem failedAttempts_le_consecutiveFailures {window : List (AcceptTurn Stream)}
    (none_ : acceptedStreams window = []) (earlier : List (AcceptTurn Stream)) :
    failedAttempts window ≤ consecutiveFailures (earlier ++ window) := by
  induction window using List.reverseRecOn with
  | nil => exact Nat.zero_le _
  | append_singleton window turn ih =>
      rw [acceptedStreams_append, List.append_eq_nil_iff] at none_
      rw [← List.append_assoc, consecutiveFailures_concat, failedAttempts_append]
      have sooner := ih none_.1
      obtain ⟨stop, outcome⟩ := turn
      cases outcome with
      | stream stream => cases none_.2
      | nothing => exact sooner
      | failure error => exact Nat.succ_le_succ sooner

end Turns

/-! ## The loop -/

/-- What the loop does, in order. -/
inductive AcceptEvent (Stream : Type) where
  | polled (stop : Bool)
  | tried (outcome : AcceptOutcome Stream)
  | handled (stream : Stream)

namespace AcceptEvent

variable {Stream : Type}

/-- The outcome that an event of the loop reads. -/
def outcome? : AcceptEvent Stream → Option (AcceptOutcome Stream)
  | .polled _ => none
  | .tried outcome => some outcome
  | .handled _ => none

/-- The stream that an event of the loop hands over. -/
def handled? : AcceptEvent Stream → Option Stream
  | .polled _ => none
  | .tried _ => none
  | .handled stream => some stream

end AcceptEvent

/-- The accept attempts of a history. -/
def attempts {Stream : Type} (history : List (AcceptEvent Stream)) :
    List (AcceptOutcome Stream) := history.filterMap AcceptEvent.outcome?

/-- The streams that a history hands to the handler. -/
def handledStreams {Stream : Type} (history : List (AcceptEvent Stream)) : List Stream :=
  history.filterMap AcceptEvent.handled?

/-- The loop before a turn, with all that it has done. -/
structure AcceptRun (Stream : Type) where
  report : AcceptLoopReport
  consecutiveFailures : Nat
  turn : Nat
  history : List (AcceptEvent Stream)

/-- Nothing has happened yet. -/
def AcceptRun.initial {Stream : Type} : AcceptRun Stream := ⟨⟨0, 0⟩, 0, 0, []⟩

section Loop

variable {Stream : Type} (config : AcceptLoopConfig) (turns : Nat → AcceptTurn Stream)

/-- One turn of the loop: it looks at the limit of connections first, then asks whether to
stop, and only then tries to accept. -/
def acceptTurn (run : AcceptRun Stream) :
    Flow (AcceptRun Stream) (Except TransportError AcceptLoopReport) :=
  if config.maxConnections ≤ run.report.acceptedConnections then .done (.ok run.report) run
  else if (turns run.turn).stopRequested then
    .done (.ok run.report) { run with history := run.history ++ [.polled true] }
  else
    match (turns run.turn).outcome with
    | .stream stream => .again {
        report := { run.report with
          acceptedConnections := run.report.acceptedConnections + 1 }
        consecutiveFailures := 0
        turn := run.turn + 1
        history := run.history ++ [.polled false, .tried (.stream stream), .handled stream] }
    | .nothing => .again { run with
        turn := run.turn + 1
        history := run.history ++ [.polled false, .tried .nothing] }
    | .failure error =>
        let failed := { run with
          report := { run.report with
            initializationFailures := run.report.initializationFailures + 1 }
          turn := run.turn + 1
          history := run.history ++ [.polled false, .tried (.failure error)] }
        match checkedAdd U16_MAX run.consecutiveFailures 1 with
        | none => .done (.error .acceptFailureBudgetExceeded) failed
        | some consecutive =>
            let failed := { failed with consecutiveFailures := consecutive }
            if config.maxConsecutiveFailures ≤ consecutive then
              .done (.error .acceptFailureBudgetExceeded) failed
            else .again failed

/-- Validate both configurations, make the listener non-blocking, and run the loop for at
most the given number of turns. -/
def runAcceptLoopTurns (transport : TransportConfig) (nonblocking : Except IoError Unit)
    (fuel : Nat) : Option (Except TransportError AcceptLoopReport × AcceptRun Stream) :=
  match transport.validate with
  | .error error => some (.error error, .initial)
  | .ok () =>
      match config.validate with
      | .error error => some (.error error, .initial)
      | .ok () =>
          match nonblocking with
          | .error error => some (.error (.io error), .initial)
          | .ok () => iterate (acceptTurn config turns) fuel .initial

/-! ## Its course -/

/-- What the loop does in one turn that it takes to its end. -/
def turnEvents (turn : AcceptTurn Stream) : List (AcceptEvent Stream) :=
  match turn.outcome with
  | .stream stream => [.polled false, .tried (.stream stream), .handled stream]
  | .nothing => [.polled false, .tried .nothing]
  | .failure error => [.polled false, .tried (.failure error)]

/-- The loop after these turns. -/
def AcceptRun.after (taken : List (AcceptTurn Stream)) : AcceptRun Stream where
  report := ⟨(acceptedStreams taken).length, failedAttempts taken⟩
  consecutiveFailures := FaceAuth.consecutiveFailures taken
  turn := taken.length
  history := taken.flatMap turnEvents

/-- The loop takes this turn and goes on after it. -/
structure Tolerates (count : Nat) : Prop where
  capacity : (acceptedStreams (turnsBefore turns count)).length < config.maxConnections
  wanted : (turns count).stopRequested = false
  tolerated : consecutiveFailures (turnsBefore turns (count + 1)) < config.maxConsecutiveFailures

/-- Up to this turn nobody asked the loop to stop and it could take a connection more, and
the last of its turns, without a stream among them, exhaust the budget for failures. -/
structure ExhaustsBudget (last : Nat) : Prop where
  capacity : (acceptedStreams (turnsBefore turns last)).length < config.maxConnections
  wanted : ∀ count ≤ last, (turns count).stopRequested = false
  budget : ∃ earlier window, turnsBefore turns (last + 1) = earlier ++ window ∧
    acceptedStreams window = [] ∧ config.maxConsecutiveFailures ≤ failedAttempts window

variable {config turns}

theorem AcceptLoopConfig.limits_of_valid (valid : config.validate = .ok ()) :
    config.maxConnections ≤ 1_000_000 ∧ 1 ≤ config.maxConsecutiveFailures ∧
      config.maxConsecutiveFailures ≤ 1_000 := by
  unfold AcceptLoopConfig.validate at valid
  split at valid
  · rename_i limits
    exact ⟨limits.2.2.2.1, limits.2.2.2.2⟩
  · cases valid

@[simp] theorem length_turnsBefore (count : Nat) : (turnsBefore turns count).length = count := by
  rw [turnsBefore, List.length_map, List.length_range]

/-- The run with one more turn taken to its end. -/
def AcceptRun.take (run : AcceptRun Stream) (turn : AcceptTurn Stream) : AcceptRun Stream where
  report := ⟨run.report.acceptedConnections + (acceptedStreams [turn]).length,
    run.report.initializationFailures + failedAttempts [turn]⟩
  consecutiveFailures := consecutiveAfter run.consecutiveFailures turn
  turn := run.turn + 1
  history := run.history ++ turnEvents turn

theorem AcceptRun.after_concat (taken : List (AcceptTurn Stream)) (turn : AcceptTurn Stream) :
    AcceptRun.after (taken ++ [turn]) = (AcceptRun.after taken).take turn := by
  simp only [after, take, acceptedStreams_append, List.length_append, failedAttempts_append,
    consecutiveFailures_concat, List.flatMap_append, List.flatMap_singleton, List.length_singleton]

theorem AcceptRun.after_turnsBefore_succ (turns : Nat → AcceptTurn Stream) (count : Nat) :
    AcceptRun.after (turnsBefore turns (count + 1)) =
      (AcceptRun.after (turnsBefore turns count)).take (turns count) := by
  rw [turnsBefore_succ, after_concat]

theorem acceptTurn_full {run : AcceptRun Stream}
    (full : config.maxConnections ≤ run.report.acceptedConnections) :
    acceptTurn config turns run = .done (.ok run.report) run := by
  rw [acceptTurn, if_pos full]

theorem acceptTurn_stop {run : AcceptRun Stream}
    (capacity : run.report.acceptedConnections < config.maxConnections)
    (stop : (turns run.turn).stopRequested = true) :
    acceptTurn config turns run =
      .done (.ok run.report) { run with history := run.history ++ [.polled true] } := by
  rw [acceptTurn, if_neg (Nat.not_le.mpr capacity), if_pos stop]

/-- A turn that is neither beyond the limit nor stopped is taken, and ends the loop exactly
when it exhausts the budget. -/
theorem acceptTurn_taken {run : AcceptRun Stream} (limit : config.maxConsecutiveFailures ≤ U16_MAX)
    (capacity : run.report.acceptedConnections < config.maxConnections)
    (wanted : (turns run.turn).stopRequested = false)
    (sofar : run.consecutiveFailures < config.maxConsecutiveFailures) :
    acceptTurn config turns run =
      if config.maxConsecutiveFailures ≤
          consecutiveAfter run.consecutiveFailures (turns run.turn) then
        .done (.error .acceptFailureBudgetExceeded) (run.take (turns run.turn))
      else .again (run.take (turns run.turn)) := by
  have unstopped : ¬(turns run.turn).stopRequested = true := by
    rw [wanted]
    exact Bool.false_ne_true
  rw [acceptTurn, if_neg (Nat.not_le.mpr capacity), if_neg unstopped]
  generalize turns run.turn = turn
  obtain ⟨stop, outcome⟩ := turn
  cases outcome with
  | stream stream =>
      have low : ¬config.maxConsecutiveFailures ≤ 0 := by omega
      exact (if_neg low).symm
  | nothing =>
      have low : ¬config.maxConsecutiveFailures ≤ run.consecutiveFailures := by omega
      exact (if_neg low).symm
  | failure error =>
      have fits : checkedAdd U16_MAX run.consecutiveFailures 1 =
          some (run.consecutiveFailures + 1) :=
        checkedAdd_eq_some_iff.mpr ⟨by omega, rfl⟩
      simp only [fits]
      rfl

/-! ## What it does on its course -/

theorem Tolerates.tolerated_before (some_ : 0 < config.maxConsecutiveFailures) {count : Nat}
    (before : ∀ earlier < count, Tolerates config turns earlier) :
    consecutiveFailures (turnsBefore turns count) < config.maxConsecutiveFailures := by
  cases count with
  | zero => exact some_
  | succ count => exact (before count (Nat.lt_succ_self count)).tolerated

section Course

variable (valid : config.validate = .ok ())

include valid

/-- What the loop does at a place of its course where nothing stops it. -/
theorem acceptTurn_course {count : Nat} (before : ∀ earlier < count, Tolerates config turns earlier)
    (capacity : (acceptedStreams (turnsBefore turns count)).length < config.maxConnections)
    (wanted : (turns count).stopRequested = false) :
    acceptTurn config turns (.after (turnsBefore turns count)) =
      if config.maxConsecutiveFailures ≤ consecutiveFailures (turnsBefore turns (count + 1)) then
        .done (.error .acceptFailureBudgetExceeded) (.after (turnsBefore turns (count + 1)))
      else .again (.after (turnsBefore turns (count + 1))) := by
  obtain ⟨-, some_, few⟩ := config.limits_of_valid valid
  have index : (AcceptRun.after (turnsBefore turns count)).turn = count := length_turnsBefore count
  have taken := @acceptTurn_taken Stream config turns (.after (turnsBefore turns count))
    (Nat.le_trans few (by decide)) capacity (by rw [index]; exact wanted)
    (Tolerates.tolerated_before some_ before)
  rw [taken, index, AcceptRun.after_turnsBefore_succ, turnsBefore_succ, consecutiveFailures_concat]
  rfl

theorem acceptTurn_again (count : Nat) (upto : ∀ earlier ≤ count, Tolerates config turns earlier) :
    acceptTurn config turns (.after (turnsBefore turns count)) =
      .again (.after (turnsBefore turns (count + 1))) := by
  obtain ⟨capacity, wanted, tolerated⟩ := upto count (Nat.le_refl count)
  rw [acceptTurn_course valid (fun earlier low => upto earlier (Nat.le_of_lt low)) capacity wanted,
    if_neg (Nat.not_le.mpr tolerated)]

/-- Where the loop leaves its course. -/
theorem acceptTurn_ends {count : Nat} (before : ∀ earlier < count, Tolerates config turns earlier)
    (leaves : ¬Tolerates config turns count) :
    (∃ final, acceptTurn config turns (.after (turnsBefore turns count)) =
        .done (.ok (AcceptRun.after (turnsBefore turns count)).report) final ∧
      (final = .after (turnsBefore turns count) ∨
        final = { AcceptRun.after (turnsBefore turns count) with
          history := (turnsBefore turns count).flatMap turnEvents ++ [.polled true] })) ∨
      (acceptedStreams (turnsBefore turns count)).length < config.maxConnections ∧
        (turns count).stopRequested = false ∧
        config.maxConsecutiveFailures ≤ consecutiveFailures (turnsBefore turns (count + 1)) ∧
        acceptTurn config turns (.after (turnsBefore turns count)) =
          .done (.error .acceptFailureBudgetExceeded) (.after (turnsBefore turns (count + 1))) := by
  have index : (AcceptRun.after (turnsBefore turns count)).turn = count := length_turnsBefore count
  by_cases full : config.maxConnections ≤ (acceptedStreams (turnsBefore turns count)).length
  · exact .inl ⟨_, acceptTurn_full full, .inl rfl⟩
  · have capacity := Nat.lt_of_not_le full
    cases stop : (turns count).stopRequested with
    | true =>
        refine .inl ⟨_, acceptTurn_stop capacity ?_, .inr rfl⟩
        rw [index, stop]
    | false =>
        have exhausted : config.maxConsecutiveFailures ≤
            consecutiveFailures (turnsBefore turns (count + 1)) :=
          Nat.le_of_not_lt fun tolerated => leaves ⟨capacity, stop, tolerated⟩
        refine .inr ⟨capacity, rfl, exhausted, ?_⟩
        rw [acceptTurn_course valid before capacity stop, if_pos exhausted]

theorem acceptTurn_leaves (count : Nat) (before : ∀ earlier < count, Tolerates config turns earlier)
    (leaves : ¬Tolerates config turns count) :
    ∃ result final, acceptTurn config turns (.after (turnsBefore turns count)) =
      .done result final := by
  rcases acceptTurn_ends valid before leaves with ⟨final, ends, -⟩ | ⟨-, -, -, ends⟩
  · exact ⟨_, final, ends⟩
  · exact ⟨_, _, ends⟩

end Course

/-! ## Its account -/

/-- What the loop has done is what it should have done with the turns that it took: nobody told
it to stop before one of them, it tried each, handed over their streams in their order, counted
them and the failures, stayed within its limit and the words of its counters, and did nothing
after it was told to stop. -/
structure AcceptRun.Accounts (config : AcceptLoopConfig) (turns : Nat → AcceptTurn Stream)
    (run : AcceptRun Stream) : Prop where
  wanted : ∀ count < run.turn, (turns count).stopRequested = false
  attempts : FaceAuth.attempts run.history =
    (turnsBefore turns run.turn).map AcceptTurn.outcome
  handled : handledStreams run.history = acceptedStreams (turnsBefore turns run.turn)
  accepted : run.report.acceptedConnections = (handledStreams run.history).length
  failures : run.report.initializationFailures = failedAttempts (turnsBefore turns run.turn)
  capacity : (handledStreams run.history).length ≤ config.maxConnections
  words : run.report.acceptedConnections ≤ U64_MAX ∧ run.report.initializationFailures ≤ U64_MAX
  stopped : .polled true ∉ run.history.dropLast

theorem attempts_flatMap_turnEvents (taken : List (AcceptTurn Stream)) :
    attempts (taken.flatMap turnEvents) = taken.map AcceptTurn.outcome := by
  induction taken with
  | nil => rfl
  | cons turn taken ih =>
      rw [List.flatMap_cons, attempts, List.filterMap_append, List.map_cons, ← ih]
      obtain ⟨stop, outcome⟩ := turn
      cases outcome <;> rfl

theorem handledStreams_flatMap_turnEvents (taken : List (AcceptTurn Stream)) :
    handledStreams (taken.flatMap turnEvents) = acceptedStreams taken := by
  induction taken with
  | nil => rfl
  | cons turn taken ih =>
      rw [List.flatMap_cons, handledStreams, List.filterMap_append]
      change _ ++ handledStreams (taken.flatMap turnEvents) = _
      rw [ih]
      obtain ⟨stop, outcome⟩ := turn
      cases outcome <;> rfl

theorem polled_notMem_flatMap_turnEvents (taken : List (AcceptTurn Stream)) :
    .polled true ∉ taken.flatMap turnEvents := by
  intro told
  obtain ⟨turn, -, told⟩ := List.mem_flatMap.mp told
  obtain ⟨stop, outcome⟩ := turn
  cases outcome <;> simp [turnEvents] at told

/-- Between two streams there are fewer failures than the budget. -/
theorem failedAttempts_le (some_ : 0 < config.maxConsecutiveFailures) {count : Nat}
    (before : ∀ earlier < count, Tolerates config turns earlier) :
    failedAttempts (turnsBefore turns count) ≤
      (acceptedStreams (turnsBefore turns count)).length * config.maxConsecutiveFailures +
        consecutiveFailures (turnsBefore turns count) := by
  induction count with
  | zero => exact Nat.zero_le _
  | succ count ih =>
      have earlier : ∀ earlier < count, Tolerates config turns earlier := fun earlier low =>
        before earlier (Nat.lt_succ_of_lt low)
      have sooner := ih earlier
      have sofar := Tolerates.tolerated_before some_ earlier
      rw [turnsBefore_succ, acceptedStreams_append, failedAttempts_append,
        consecutiveFailures_concat, List.length_append]
      obtain ⟨stop, outcome⟩ := turns count
      cases outcome with
      | stream stream =>
          change _ + 0 ≤ (_ + 1) * _ + 0
          rw [Nat.succ_mul]
          omega
      | nothing => exact sooner
      | failure error => exact Nat.succ_le_succ sooner

theorem length_acceptedStreams_le {count : Nat}
    (before : ∀ earlier < count, Tolerates config turns earlier) :
    (acceptedStreams (turnsBefore turns count)).length ≤ config.maxConnections := by
  cases count with
  | zero => exact Nat.zero_le _
  | succ count =>
      have room := (before count (Nat.lt_succ_self count)).capacity
      rw [turnsBefore_succ, acceptedStreams_append, List.length_append]
      have one : (acceptedStreams [turns count]).length ≤ 1 := List.length_filterMap_le _ _
      omega

theorem failedAttempts_word (valid : config.validate = .ok ()) {count : Nat}
    (before : ∀ earlier < count, Tolerates config turns earlier) :
    failedAttempts (turnsBefore turns count) < U64_MAX := by
  obtain ⟨connections, some_, few⟩ := config.limits_of_valid valid
  have streams := Nat.le_trans (length_acceptedStreams_le before) connections
  have sofar := Tolerates.tolerated_before some_ before
  calc failedAttempts (turnsBefore turns count)
      ≤ _ := failedAttempts_le some_ before
    _ ≤ 1_000_000 * 1_000 + 1_000 := by
        apply Nat.add_le_add (Nat.mul_le_mul streams few)
        omega
    _ < U64_MAX := by decide

/-- A run that took turns, and at most asked for another, accounts for them. -/
theorem AcceptRun.after_accounts (valid : config.validate = .ok ()) {count : Nat}
    (wanted : ∀ earlier < count, (turns earlier).stopRequested = false)
    (streams : (acceptedStreams (turnsBefore turns count)).length ≤ config.maxConnections)
    (few : failedAttempts (turnsBefore turns count) ≤ U64_MAX) :
    (AcceptRun.after (turnsBefore turns count)).Accounts config turns where
  wanted := fun earlier low => wanted earlier (Nat.lt_of_lt_of_eq low (length_turnsBefore count))
  attempts := by
    change FaceAuth.attempts ((turnsBefore turns count).flatMap turnEvents) = _
    rw [attempts_flatMap_turnEvents]
    exact congrArg (List.map _ <| turnsBefore turns ·) (length_turnsBefore count).symm
  handled := by
    change handledStreams ((turnsBefore turns count).flatMap turnEvents) = _
    rw [handledStreams_flatMap_turnEvents]
    exact congrArg (acceptedStreams <| turnsBefore turns ·) (length_turnsBefore count).symm
  accepted := congrArg List.length (handledStreams_flatMap_turnEvents _).symm
  failures := congrArg (failedAttempts <| turnsBefore turns ·) (length_turnsBefore count).symm
  capacity := by
    change (handledStreams ((turnsBefore turns count).flatMap turnEvents)).length ≤ _
    rwa [handledStreams_flatMap_turnEvents]
  words := by
    refine ⟨Nat.le_trans streams ?_, few⟩
    exact Nat.le_trans (config.limits_of_valid valid).1 (by decide)
  stopped := fun told =>
    polled_notMem_flatMap_turnEvents _ ((List.dropLast_subset _) told)

/-- Asking whether to stop changes nothing in the account. -/
theorem AcceptRun.Accounts.poll {run : AcceptRun Stream} (accounts : run.Accounts config turns)
    (unstopped : AcceptEvent.polled true ∉ run.history) :
    AcceptRun.Accounts config turns
      { run with history := run.history ++ [.polled true] } where
  wanted := accounts.wanted
  attempts := by
    rw [← accounts.attempts, FaceAuth.attempts, List.filterMap_append]
    exact List.append_nil _
  handled := by
    rw [← accounts.handled, handledStreams, List.filterMap_append]
    exact List.append_nil _
  accepted := by
    rw [accounts.accepted, handledStreams, handledStreams, List.filterMap_append]
    exact congrArg List.length (List.append_nil _).symm
  failures := accounts.failures
  capacity := by
    rw [handledStreams, List.filterMap_append]
    exact Nat.le_trans (Nat.le_of_eq (congrArg List.length (List.append_nil _))) accounts.capacity
  words := accounts.words
  stopped := by rwa [List.dropLast_concat]

section Account

variable (valid : config.validate = .ok ())

include valid

/-- The loop returns at the first turn that it does not tolerate. -/
theorem iterate_acceptTurn_iff {result : Except TransportError AcceptLoopReport}
    {final : AcceptRun Stream} :
    (∃ fuel, iterate (acceptTurn config turns) fuel .initial = some (result, final)) ↔
      ∃ count, (∀ earlier < count, Tolerates config turns earlier) ∧
        ¬Tolerates config turns count ∧
        acceptTurn config turns (.after (turnsBefore turns count)) = .done result final :=
  @iterate_course_iff _ _ _ (fun count => AcceptRun.after (turnsBefore turns count)) _
    (acceptTurn_again valid) (acceptTurn_leaves valid) _ _

theorem AcceptRun.accounts_of_visited {run : AcceptRun Stream}
    (visited : Visited (acceptTurn config turns) .initial run) : run.Accounts config turns := by
  have course : Visited (acceptTurn config turns) (.after (turnsBefore turns 0)) run := visited
  obtain ⟨count, before, rfl⟩ :=
    course.on_course (acceptTurn_again valid) (acceptTurn_leaves valid)
  exact after_accounts valid (fun earlier low => (before earlier low).wanted)
    (length_acceptedStreams_le before) (Nat.le_of_lt (failedAttempts_word valid before))

/-- A loop that returns does so with a sound account, and reports it. -/
theorem AcceptRun.accounts_of_returns {fuel : Nat}
    {result : Except TransportError AcceptLoopReport} {final : AcceptRun Stream}
    (returns : iterate (acceptTurn config turns) fuel .initial = some (result, final)) :
    final.Accounts config turns ∧ ∀ report, result = .ok report → report = final.report := by
  obtain ⟨count, before, leaves, ends⟩ := (iterate_acceptTurn_iff valid).mp ⟨fuel, returns⟩
  have few := failedAttempts_word valid before
  have sound := after_accounts valid (fun earlier low => (before earlier low).wanted)
    (length_acceptedStreams_le before) (Nat.le_of_lt few)
  rcases acceptTurn_ends valid before leaves with
    ⟨last, stops, shape⟩ | ⟨capacity, wanted, -, stops⟩
  · rw [stops, Flow.done.injEq] at ends
    obtain ⟨rfl, rfl⟩ := ends
    rcases shape with rfl | rfl
    · exact ⟨sound, fun report same => (Except.ok.inj same).symm⟩
    · refine ⟨sound.poll (polled_notMem_flatMap_turnEvents _), fun report same => ?_⟩
      exact (Except.ok.inj same).symm
  · rw [stops, Flow.done.injEq] at ends
    obtain ⟨rfl, rfl⟩ := ends
    refine ⟨after_accounts valid (fun earlier low => ?_) ?_ ?_,
      fun report impossible => by cases impossible⟩
    · rcases Nat.lt_succ_iff_lt_or_eq.mp low with low | rfl
      · exact (before earlier low).wanted
      · exact wanted
    · rw [turnsBefore_succ, acceptedStreams_append, List.length_append]
      have one : (acceptedStreams [turns count]).length ≤ 1 := List.length_filterMap_le _ _
      omega
    · rw [turnsBefore_succ, failedAttempts_append]
      have one : failedAttempts [turns count] ≤ 1 := List.countP_le_length
      omega

/-- The loop fails at the first turn that exhausts its budget. -/
theorem acceptTurn_fails_iff {error : TransportError} :
    (∃ fuel final, iterate (acceptTurn config turns) fuel .initial = some (.error error, final)) ↔
      error = .acceptFailureBudgetExceeded ∧ ∃ last, ExhaustsBudget config turns last := by
  obtain ⟨-, some_, -⟩ := config.limits_of_valid valid
  constructor
  · rintro ⟨fuel, final, returns⟩
    obtain ⟨count, before, leaves, ends⟩ := (iterate_acceptTurn_iff valid).mp ⟨fuel, returns⟩
    rcases acceptTurn_ends valid before leaves with
      ⟨last, stops, -⟩ | ⟨capacity, wanted, most, stops⟩
    · rw [stops] at ends
      cases ends
    · rw [stops, Flow.done.injEq] at ends
      refine ⟨(Except.error.inj ends.1).symm, count, capacity, fun earlier low => ?_, ?_⟩
      · rcases Nat.lt_or_eq_of_le low with low | rfl
        · exact (before earlier low).wanted
        · exact wanted
      · obtain ⟨earlier, window, split, none_, failures⟩ :=
          exists_window (turnsBefore turns (count + 1))
        exact ⟨earlier, window, split, none_, failures ▸ most⟩
  · rintro ⟨rfl, last, capacity, wanted, earlier, window, split, none_, failures⟩
    have reached : config.maxConsecutiveFailures ≤
        consecutiveFailures (turnsBefore turns (last + 1)) :=
      Nat.le_trans failures (split ▸ failedAttempts_le_consecutiveFailures none_ earlier)
    have some_turn : ∃ count, config.maxConsecutiveFailures ≤
        consecutiveFailures (turnsBefore turns (count + 1)) := ⟨last, reached⟩
    obtain ⟨first, soon, most, least⟩ : ∃ first ≤ last, config.maxConsecutiveFailures ≤
        consecutiveFailures (turnsBefore turns (first + 1)) ∧ ∀ earlier < first,
          ¬config.maxConsecutiveFailures ≤ consecutiveFailures (turnsBefore turns (earlier + 1)) :=
      ⟨Nat.find some_turn, Nat.find_min' some_turn reached, Nat.find_spec some_turn,
        fun earlier low => Nat.find_min some_turn low⟩
    have room : ∀ earlier ≤ last,
        (acceptedStreams (turnsBefore turns earlier)).length < config.maxConnections :=
      fun earlier low => Nat.lt_of_le_of_lt (length_acceptedStreams_mono turns low) capacity
    have before : ∀ earlier < first, Tolerates config turns earlier := by
      intro earlier low
      have sooner := Nat.le_trans (Nat.le_of_lt low) soon
      exact ⟨room earlier sooner, wanted earlier sooner, Nat.lt_of_not_le (least earlier low)⟩
    have stops := acceptTurn_course valid before (room first soon) (wanted first soon)
    rw [if_pos most] at stops
    obtain ⟨fuel, returns⟩ := (iterate_acceptTurn_iff valid).mpr
      ⟨first, before, fun on => absurd on.tolerated (Nat.not_lt.mpr most), stops⟩
    exact ⟨fuel, _, returns⟩

end Account

/-- A loop within its bounds accounts for what it did at every turn and when it returns, and
fails exactly when enough attempts fail in a row before it stops. -/
theorem acceptLoop_accounts {transport : TransportConfig} (bounded : transport.validate = .ok ())
    (valid : config.validate = .ok ()) (turns : Nat → AcceptTurn Stream) :
    (∀ run, Visited (acceptTurn config turns) .initial run → run.Accounts config turns) ∧
      (∀ fuel result final,
        runAcceptLoopTurns config turns transport (.ok ()) fuel = some (result, final) →
          final.Accounts config turns ∧ ∀ report, result = .ok report → report = final.report) ∧
      ∀ error,
        (∃ fuel final, runAcceptLoopTurns config turns transport (.ok ()) fuel =
          some (.error error, final)) ↔
        error = .acceptFailureBudgetExceeded ∧ ∃ last, ExhaustsBudget config turns last := by
  have runs : ∀ fuel, runAcceptLoopTurns config turns transport (.ok ()) fuel =
      iterate (acceptTurn config turns) fuel .initial := by
    intro fuel
    simp only [runAcceptLoopTurns, bounded, valid]
  simp only [runs]
  exact ⟨fun run => AcceptRun.accounts_of_visited valid,
    fun fuel result final => AcceptRun.accounts_of_returns valid,
    fun error => acceptTurn_fails_iff valid⟩

/-- A failure, a stream, nothing, and failures from then on. -/
def failingTurns : Nat → AcceptTurn Nat
  | 0 => ⟨false, .failure .invalidPeer⟩
  | 1 => ⟨false, .stream 7⟩
  | 2 => ⟨false, .nothing⟩
  | _ => ⟨false, .failure (.poll 4)⟩

theorem acceptLoop_accounts_failing :
    (∃ last, ExhaustsBudget ⟨25_000_000, 8, 2⟩ failingTurns last) ∧
      ∀ fuel result final, runAcceptLoopTurns ⟨25_000_000, 8, 2⟩ failingTurns .default (.ok ())
        fuel = some (result, final) → handledStreams final.history =
          acceptedStreams (turnsBefore failingTurns final.turn) := by
  obtain ⟨-, returned, fails⟩ := @acceptLoop_accounts Nat ⟨25_000_000, 8, 2⟩ _
    TransportConfig.default_valid rfl failingTurns
  refine ⟨((fails .acceptFailureBudgetExceeded).mp ⟨5, _, rfl⟩).2, fun fuel result final ends => ?_⟩
  exact (returned fuel result final ends).1.handled

/-! ## The loop with a handler -/

theorem AcceptRun.handledStreams_take (run : AcceptRun Stream) (turn : AcceptTurn Stream) :
    handledStreams (run.take turn).history =
      handledStreams run.history ++ acceptedStreams [turn] := by
  obtain ⟨stop, outcome⟩ := turn
  cases outcome <;> exact List.filterMap_append

/-- A handler that returns has been called, one after the other, with the streams that were
handed to it. -/
theorem acceptLoop_eq_returned_iff {State : Type} (handle : State → Stream → State)
    (start state : State) (limit : config.maxConsecutiveFailures ≤ U16_MAX) (count : Nat)
    (run : AcceptRun Stream) (sofar : run.consecutiveFailures < config.maxConsecutiveFailures)
    (result : Except TransportError AcceptLoopReport) :
    acceptLoop config (fun _ => false) (fun state stream => some (handle state stream))
        ⟨run.report, run.consecutiveFailures, (handledStreams run.history).foldl handle start⟩
        ((List.range' run.turn count).map turns) = .returned result state ↔
      ∃ final, iterate (acceptTurn config turns) count run = some (result, final) ∧
        (handledStreams final.history).foldl handle start = state := by
  induction count generalizing run with
  | zero => simp [acceptLoop, iterate]
  | succ count ih =>
      rw [List.range'_succ, List.map_cons]
      by_cases capacity : run.report.acceptedConnections < config.maxConnections
      · obtain ⟨⟨stop, outcome⟩, shape⟩ : ∃ turn, turns run.turn = turn := ⟨_, rfl⟩
        rw [shape]
        cases stop with
        | true =>
            have ends := acceptTurn_stop capacity (congrArg AcceptTurn.stopRequested shape)
            rw [acceptLoop, if_neg (by simp), iterate_of_done ends]
            simp [handledStreams, AcceptEvent.handled?, List.filterMap_cons]
        | false =>
            have taken := acceptTurn_taken limit capacity
              (congrArg AcceptTurn.stopRequested shape) sofar
            rw [shape] at taken
            rw [acceptLoop_cons capacity rfl rfl]
            by_cases most : config.maxConsecutiveFailures ≤
                consecutiveAfter run.consecutiveFailures ⟨false, outcome⟩
            · rw [if_pos most] at taken
              rw [iterate_of_done taken]
              cases outcome with
              | stream stream => exact absurd most (Nat.not_le.mpr (Nat.zero_lt_of_lt sofar))
              | nothing => exact absurd most (Nat.not_le.mpr sofar)
              | failure error =>
                  have same : handledStreams (run.take ⟨false, .failure error⟩).history =
                      handledStreams run.history :=
                    (run.handledStreams_take _).trans (List.append_nil _)
                  simp only [consecutiveAfter] at most
                  simp [most, same]
            · rw [if_neg most] at taken
              rw [iterate_of_again taken,
                ← ih (run.take ⟨false, outcome⟩) (Nat.lt_of_not_le most),
                run.handledStreams_take, List.foldl_append]
              cases outcome with
              | stream stream => exact Iff.rfl
              | nothing => exact Iff.rfl
              | failure error =>
                  simp only [consecutiveAfter] at most
                  simp only [if_neg most]
                  rfl
      · rw [acceptLoop, if_neg fun room => capacity room.1,
          iterate_of_done (acceptTurn_full (Nat.not_lt.mp capacity))]
        simp

/-- What the loop returns to a handler's owner after some turns is what its own run returns,
and the handler has by then been called with the streams of the run. -/
theorem runAcceptLoop_eq_returned_iff {State : Type} (handle : State → Stream → State)
    (start state : State) (valid : config.validate = .ok ()) {transport : TransportConfig}
    (bounded : transport.validate = .ok ()) (turns : Nat → AcceptTurn Stream) (count : Nat)
    (result : Except TransportError AcceptLoopReport) :
    runAcceptLoop config (fun _ => false) (fun state stream => some (handle state stream)) start
        (turnsBefore turns count) = .returned result state ↔
      ∃ final, runAcceptLoopTurns config turns transport (.ok ()) count = some (result, final) ∧
        (handledStreams final.history).foldl handle start = state := by
  obtain ⟨-, some_, few⟩ := config.limits_of_valid valid
  simp only [runAcceptLoop, runAcceptLoopTurns, bounded, valid]
  rw [turnsBefore, List.range_eq_range']
  exact acceptLoop_eq_returned_iff handle start state (Nat.le_trans few (by decide)) count .initial
    some_ result

end Loop

end FaceAuth
