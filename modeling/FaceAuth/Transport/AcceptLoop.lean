import Mathlib.Data.List.Basic
import FaceAuth.Core.Io
import FaceAuth.Protocol.Message

/-!
# The sequential accept loop

Failures of the local transport, and the bounded loop that hands accepted
connections to a handler, one after the other.
-/

namespace FaceAuth

/-- Local transport failure. -/
inductive TransportError where
  | poll (errno : Nat)
  | invalidConfig
  | invalidAcceptLoopConfig
  | acceptFailureBudgetExceeded
  | invalidPeer
  | emptyMessage
  | messageTooLarge (declared maximum : Nat)
  | io (error : IoError)
  | peerCredentials (errno : Nat)
  | peerPidfdUnavailable (errno : Nat)
  | json (detail : String)
  | protocol (error : ProtocolError)
deriving DecidableEq, Repr

/-- Bounds for a sequential non-blocking listener loop. -/
structure AcceptLoopConfig where
  pollIntervalNanos : Nat
  maxConnections : Nat
  maxConsecutiveFailures : Nat
deriving DecidableEq, Repr

/-- The bounds of a configuration. -/
def AcceptLoopConfig.validate (config : AcceptLoopConfig) : Except TransportError Unit :=
  if 1_000_000 ≤ config.pollIntervalNanos ∧ config.pollIntervalNanos ≤ 100_000_000 ∧
      1 ≤ config.maxConnections ∧ config.maxConnections ≤ 1_000_000 ∧
      1 ≤ config.maxConsecutiveFailures ∧ config.maxConsecutiveFailures ≤ 1_000 then
    .ok ()
  else .error .invalidAcceptLoopConfig

/-- The configuration of the service. -/
def AcceptLoopConfig.default : AcceptLoopConfig := ⟨25_000_000, 1_000_000, 32⟩

theorem AcceptLoopConfig.default_valid : AcceptLoopConfig.default.validate = .ok () := rfl

/-- Summary returned when a bounded listener loop stops normally. -/
structure AcceptLoopReport where
  acceptedConnections : Nat
  initializationFailures : Nat
deriving DecidableEq, Repr

/-- What one non-blocking accept attempt finds. -/
inductive AcceptOutcome (Stream : Type) where
  | stream (stream : Stream)
  | nothing
  | failure (error : TransportError)

/-- One turn of the loop: whether a stop was asked for from outside before it, and what
the accept attempt then finds. -/
structure AcceptTurn (Stream : Type) where
  stopRequested : Bool
  outcome : AcceptOutcome Stream

/-- The streams that the turns accept, in order. -/
def acceptedStreams {Stream : Type} (turns : List (AcceptTurn Stream)) : List Stream :=
  turns.filterMap fun turn =>
    match turn.outcome with
    | .stream stream => some stream
    | .nothing => none
    | .failure _ => none

/-- The loop between two turns, with the state that its handler keeps. -/
structure AcceptLoop (State : Type) where
  report : AcceptLoopReport
  consecutiveFailures : Nat
  state : State

/-- What has become of the loop after the turns so far. -/
inductive AcceptStatus (State : Type) where
  | running (loop : AcceptLoop State)
  | handling
  | returned (result : Except TransportError AcceptLoopReport) (state : State)

section Loop

variable {State Stream : Type} (config : AcceptLoopConfig) (shouldStop : State → Bool)
  (handle : State → Stream → Option State)

/-- Run the accept loop over a list of turns. A handler that does not return keeps the
loop inside its call. -/
def acceptLoop : AcceptLoop State → List (AcceptTurn Stream) → AcceptStatus State
  | loop, [] => .running loop
  | loop, turn :: turns =>
      if loop.report.acceptedConnections < config.maxConnections ∧
          (turn.stopRequested || shouldStop loop.state) = false then
        match turn.outcome with
        | .stream stream =>
            match handle loop.state stream with
            | none => .handling
            | some state =>
                acceptLoop {
                  report := { loop.report with
                    acceptedConnections := loop.report.acceptedConnections + 1 }
                  consecutiveFailures := 0
                  state } turns
        | .nothing => acceptLoop loop turns
        | .failure _ =>
            if config.maxConsecutiveFailures ≤ loop.consecutiveFailures + 1 then
              .returned (.error .acceptFailureBudgetExceeded) loop.state
            else
              acceptLoop {
                report := { loop.report with
                  initializationFailures := loop.report.initializationFailures + 1 }
                consecutiveFailures := loop.consecutiveFailures + 1
                state := loop.state } turns
      else .returned (.ok loop.report) loop.state

/-- Validate the bounds, then run the loop from its start. -/
def runAcceptLoop (state : State) (turns : List (AcceptTurn Stream)) : AcceptStatus State :=
  match config.validate with
  | .error error => .returned (.error error) state
  | .ok () => acceptLoop config shouldStop handle ⟨⟨0, 0⟩, 0, state⟩ turns

variable {config shouldStop handle}

/-- A turn of a loop that goes on. -/
theorem acceptLoop_cons {loop : AcceptLoop State} {turn : AcceptTurn Stream}
    (capacity : loop.report.acceptedConnections < config.maxConnections)
    (wanted : turn.stopRequested = false) (goes : shouldStop loop.state = false)
    (turns : List (AcceptTurn Stream)) :
    acceptLoop config shouldStop handle loop (turn :: turns) =
      match turn.outcome with
      | .stream stream =>
          match handle loop.state stream with
          | none => .handling
          | some state =>
              acceptLoop config shouldStop handle {
                report := { loop.report with
                  acceptedConnections := loop.report.acceptedConnections + 1 }
                consecutiveFailures := 0
                state } turns
      | .nothing => acceptLoop config shouldStop handle loop turns
      | .failure _ =>
          if config.maxConsecutiveFailures ≤ loop.consecutiveFailures + 1 then
            .returned (.error .acceptFailureBudgetExceeded) loop.state
          else
            acceptLoop config shouldStop handle {
              report := { loop.report with
                initializationFailures := loop.report.initializationFailures + 1 }
              consecutiveFailures := loop.consecutiveFailures + 1
              state := loop.state } turns := by
  rw [acceptLoop, if_pos ⟨capacity, by rw [wanted, goes]; rfl⟩]

variable (config handle) in
/-- A loop that was asked to stop takes no further turn. -/
theorem acceptLoop_stopped (loop : AcceptLoop State) (stop : shouldStop loop.state = true)
    (turns : List (AcceptTurn Stream)) :
    acceptLoop config shouldStop handle loop turns = .running loop ∧ turns = [] ∨
      acceptLoop config shouldStop handle loop turns = .returned (.ok loop.report) loop.state := by
  cases turns with
  | nil => exact .inl ⟨rfl, rfl⟩
  | cons turn turns =>
      rw [acceptLoop, if_neg]
      · exact .inr rfl
      · rintro ⟨-, goes⟩
        rw [stop, Bool.or_true] at goes
        cases goes

end Loop

end FaceAuth
