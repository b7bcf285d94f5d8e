import FaceAuth.Foundation.Threads

/-!
# The shutdown token

Every clone of the token shares one flag and one list of wakers. A request sets
the flag and then wakes the list under its lock. A poll of a shutdown future
checks the flag, registers its waker under the lock unless the flag is set by
then, and checks the flag once more. Any number of futures are polled while
any number of requests are made, and every operation on the flag, on the lock
and on the list may come between those of the others.
-/

namespace FaceAuth

open Foundation

/-- How the wakers of the polling tasks behave: a clone wakes the same task, and so does a
waker that claims to wake what another one wakes. Equal tasks may have different wakers. -/
structure WakerContract (Waker Task : Type) where
  task : Waker → Task
  clone : Waker → Waker
  willWake : Waker → Waker → Bool
  task_clone : ∀ waker, task (clone waker) = task waker
  task_of_willWake : ∀ kept waker, willWake kept waker = true → task kept = task waker

/-- What one poll returns. -/
inductive ShutdownPoll where
  | ready
  | pending
deriving DecidableEq, Repr

/-- How far the request that set the flag has come. Nothing reads it. -/
inductive FirstRequest where
  | none
  | waking (caller : Nat)
  | woken (caller : Nat)
  | answered
deriving DecidableEq, Repr

/-- The wakers of the list have been woken. -/
def FirstRequest.done : FirstRequest → Bool
  | .none => false
  | .waking _ => false
  | .woken _ => true
  | .answered => true

/-- The state that all clones of a token share, with the tasks woken and the answers of the
requests so far, in order. -/
structure ShutdownState (Waker Task : Type) where
  requested : Bool
  waiters : List Waker
  holder : Option Nat
  poisoned : Bool
  woken : List Task
  answered : List Bool
  first : FirstRequest

/-- One poll of a future: the waker of its context, and how many tasks had been woken when it
began. -/
structure PollCall (Waker : Type) where
  waker : Waker
  begun : Nat
deriving DecidableEq, Repr

/-- Where a poll stands. From `recheck` on it holds the lock until it has left `unlock`. -/
inductive PollPhase where
  | check
  | lock
  | recheck
  | push
  | unlock (registered : Bool)
  | confirm
  | finish (result : ShutdownPoll)
deriving DecidableEq, Repr

/-- Where a request stands. It holds the lock while it wakes. -/
inductive RequestPhase where
  | swap
  | lock
  | wake
  | finish (first : Bool)
deriving DecidableEq, Repr

/-- What a holder of the token is doing. -/
inductive TokenActivity (Waker : Type) where
  | idle
  | poll (call : PollCall Waker) (phase : PollPhase)
  | request (phase : RequestPhase)
deriving DecidableEq, Repr

/-- What an idle holder of the token does next. -/
inductive TokenCall (Waker : Type) where
  | poll (waker : Waker)
  | request

/-- A holder of a clone of the token with its future: the waker that the future keeps, and
the results of its polls so far, in order. -/
structure TokenHolder (Waker : Type) where
  waker : Option Waker
  activity : TokenActivity Waker
  polls : List (PollCall Waker × ShutdownPoll)

section Token

variable {Waker Task : Type} (wakers : WakerContract Waker Task)

/-- The next operation of a poll. -/
def ShutdownFuture.poll (index : Nat) (call : PollCall Waker)
    (state : ShutdownState Waker Task) (holder : TokenHolder Waker) :
    PollPhase → Option (ShutdownState Waker Task × TokenHolder Waker)
  | .check =>
      if state.requested then some (state, { holder with activity := .poll call (.finish .ready) })
      else if holder.waker.all fun waker => !wakers.willWake waker call.waker then
        some (state, { holder with activity := .poll call .lock })
      else some (state, { holder with activity := .poll call .confirm })
  | .lock =>
      match state.holder with
      | some _ => none
      | none =>
          if state.poisoned then
            some (state, { holder with activity := .poll call (.finish .ready) })
          else
            some ({ state with holder := some index },
              { holder with activity := .poll call .recheck })
  | .recheck =>
      if state.requested then
        some (state, { holder with activity := .poll call (.unlock false) })
      else some (state, { holder with activity := .poll call .push })
  | .push =>
      some ({ state with
          waiters := state.waiters ++ [wakers.clone (wakers.clone call.waker)] },
        { holder with activity := .poll call (.unlock true) })
  | .unlock false =>
      some ({ state with holder := none },
        { holder with activity := .poll call (.finish .ready) })
  | .unlock true =>
      some ({ state with holder := none },
        { holder with
          waker := some (wakers.clone call.waker)
          activity := .poll call .confirm })
  | .confirm =>
      some (state, { holder with
        activity := .poll call (.finish (if state.requested then .ready else .pending)) })
  | .finish result =>
      some (state, { holder with activity := .idle, polls := holder.polls ++ [(call, result)] })

/-- The next operation of a request. -/
def ShutdownToken.request (index : Nat) (state : ShutdownState Waker Task)
    (holder : TokenHolder Waker) :
    RequestPhase → Option (ShutdownState Waker Task × TokenHolder Waker)
  | .swap =>
      if state.requested then
        some (state, { holder with activity := .request (.finish false) })
      else
        some ({ state with requested := true, first := .waking index },
          { holder with activity := .request .lock })
  | .lock =>
      match state.holder with
      | some _ => none
      | none =>
          if state.poisoned then
            some ({ state with first := .woken index },
              { holder with activity := .request (.finish true) })
          else
            some ({ state with holder := some index }, { holder with activity := .request .wake })
  | .wake =>
      match state.waiters with
      | waiter :: waiters =>
          some ({ state with waiters, woken := state.woken ++ [wakers.task waiter] }, holder)
      | [] =>
          some ({ state with holder := none, first := .woken index },
            { holder with activity := .request (.finish true) })
  | .finish first =>
      some ({ state with
          answered := state.answered ++ [first]
          first := if first then .answered else state.first },
        { holder with activity := .idle })

/-- The operations of all holders of the token. -/
def shutdownToken : Program (ShutdownState Waker Task) (TokenHolder Waker) (TokenCall Waker)
    Empty where
  advance := fun index call state holder =>
    match holder.activity with
    | .idle =>
        match call with
        | .poll waker =>
            some (state, { holder with activity := .poll ⟨waker, state.woken.length⟩ .check })
        | .request => some (state, { holder with activity := .request .swap })
    | .poll call phase => ShutdownFuture.poll wakers index call state holder phase
    | .request phase => ShutdownToken.request wakers index state holder phase
  occur := fun event _ => event.elim

/-- A token that nobody has asked to shut down. -/
def ShutdownState.initial : ShutdownState Waker Task := ⟨false, [], none, false, [], [], .none⟩

/-- A new token, with futures that nobody has polled. -/
def newToken : Threads (ShutdownState Waker Task) (TokenHolder Waker) :=
  ⟨.initial, fun _ => ⟨none, .idle, []⟩⟩

/-! ## What every operation keeps -/

/-- The task has been woken, or one of its wakers is in the list. -/
def Notified (state : ShutdownState Waker Task) (task : Task) : Prop :=
  task ∈ state.waiters.map wakers.task ∨ task ∈ state.woken

/-- Whether the poll holds the lock. -/
def PollPhase.holds : PollPhase → Bool
  | .check => false
  | .lock => false
  | .recheck => true
  | .push => true
  | .unlock _ => true
  | .confirm => false
  | .finish _ => false

namespace TokenActivity

/-- The activity holds the lock. -/
def holds : TokenActivity Waker → Bool
  | .idle => false
  | .poll _ phase => phase.holds
  | .request phase => phase == .wake

/-- It is a request that set the flag, and has not woken the list yet. -/
def wins : TokenActivity Waker → Bool
  | .idle => false
  | .poll _ _ => false
  | .request phase => phase == .lock || phase == .wake

/-- It is a request that set the flag and has woken the list. -/
def won : TokenActivity Waker → Bool
  | .idle => false
  | .poll _ _ => false
  | .request phase => phase == .finish true

end TokenActivity

/-- The poll began before any task was woken, and its task will be. -/
def PollRegistered (state : ShutdownState Waker Task) (call : PollCall Waker) : Prop :=
  call.begun = 0 ∧ Notified wakers state (wakers.task call.waker)

/-- What a poll knows where it stands. -/
def PollSound (state : ShutdownState Waker Task) (call : PollCall Waker) : PollPhase → Prop
  | .check => call.begun ≤ state.woken.length
  | .lock => call.begun = 0
  | .recheck => call.begun = 0
  | .push => call.begun = 0 ∧ state.first.done = false
  | .unlock false => True
  | .unlock true => PollRegistered wakers state call
  | .confirm => PollRegistered wakers state call
  | .finish .ready => True
  | .finish .pending => PollRegistered wakers state call

/-- What is true of the state at each phase of a request. -/
def RequestSound (state : ShutdownState Waker Task) : RequestPhase → Prop
  | .swap => True
  | .lock => True
  | .wake => True
  | .finish first => first = false → state.requested = true

/-- What the activity of a holder knows. -/
def ActivityKnows (state : ShutdownState Waker Task) : TokenActivity Waker → Prop
  | .idle => True
  | .poll call phase => PollSound wakers state call phase
  | .request phase => RequestSound state phase

/-- The lock and the record of the first request tell what the activity of a holder is. -/
structure ActivitySound (index : Nat) (state : ShutdownState Waker Task)
    (activity : TokenActivity Waker) : Prop where
  holds : activity.holds = true ↔ state.holder = some index
  wins : activity.wins = true ↔ state.first = .waking index
  won : activity.won = true ↔ state.first = .woken index
  knows : ActivityKnows wakers state activity

/-- The waker that a future keeps, and those of its pending polls, are registered. -/
structure HolderSound (index : Nat) (state : ShutdownState Waker Task)
    (holder : TokenHolder Waker) : Prop where
  activity : ActivitySound wakers index state holder.activity
  kept : ∀ waker ∈ holder.waker, Notified wakers state (wakers.task waker)
  polls : ∀ call, (call, .pending) ∈ holder.polls → PollRegistered wakers state call

/-- The flag is set by the first request, nothing is woken or answered before, and the list
stays empty when it has been woken. -/
structure ShutdownSound (state : ShutdownState Waker Task) : Prop where
  healthy : state.poisoned = false
  flag : state.requested = false ↔ state.first = .none
  quiet : state.requested = false → state.woken = [] ∧ state.answered = []
  drained : state.first.done = true → state.waiters = []
  answers : state.answered.count true = if state.first = .answered then 1 else 0

/-- What the operation of another holder does to the shared state. -/
structure OthersKeep (index : Nat) (before after : ShutdownState Waker Task) : Prop where
  holder : after.holder = some index ↔ before.holder = some index
  waking : after.first = .waking index ↔ before.first = .waking index
  woken : after.first = .woken index ↔ before.first = .woken index
  requested : before.requested = true → after.requested = true
  told : ∀ task, Notified wakers before task → Notified wakers after task
  longer : before.woken.length ≤ after.woken.length
  done : before.holder = some index → after.first.done = before.first.done

variable {wakers} {index : Nat} {before after state : ShutdownState Waker Task}

/-- Doing nothing keeps everything. -/
theorem OthersKeep.refl : OthersKeep wakers index state state :=
  ⟨.rfl, .rfl, .rfl, id, fun _ => id, Nat.le_refl _, fun _ => rfl⟩

/-- A poll that is registered stays so when more tasks are told. -/
theorem PollRegistered.mono {call : PollCall Waker}
    (told : ∀ task, Notified wakers before task → Notified wakers after task)
    (registered : PollRegistered wakers before call) : PollRegistered wakers after call :=
  ⟨registered.1, told _ registered.2⟩

/-- An activity stays sound whatever the others do. -/
theorem ActivitySound.keep {activity : TokenActivity Waker}
    (keep : OthersKeep wakers index before after)
    (sound : ActivitySound wakers index before activity) :
    ActivitySound wakers index after activity where
  holds := sound.holds.trans keep.holder.symm
  wins := sound.wins.trans keep.waking.symm
  won := sound.won.trans keep.woken.symm
  knows := by
    have knows := sound.knows
    cases activity with
    | idle => trivial
    | request phase =>
        cases phase with
        | swap => trivial
        | lock => trivial
        | wake => trivial
        | finish first => exact fun lost => keep.requested (knows lost)
    | poll call phase =>
        cases phase with
        | check => exact Nat.le_trans knows keep.longer
        | lock => exact knows
        | recheck => exact knows
        | push => exact ⟨knows.1, (keep.done (sound.holds.mp rfl)).trans knows.2⟩
        | unlock registered =>
            cases registered with
            | false => trivial
            | true => exact PollRegistered.mono keep.told knows
        | confirm => exact PollRegistered.mono keep.told knows
        | finish result =>
            cases result with
            | ready => trivial
            | pending => exact PollRegistered.mono keep.told knows

/-- A holder stays sound whatever the others do. -/
theorem HolderSound.keep {holder : TokenHolder Waker} (keep : OthersKeep wakers index before after)
    (sound : HolderSound wakers index before holder) : HolderSound wakers index after holder where
  activity := sound.activity.keep keep
  kept := fun waker held => keep.told _ (sound.kept waker held)
  polls := fun call pending => (sound.polls call pending).mono keep.told

/-- An activity that goes on without touching the lock or the record. -/
theorem ActivitySound.move {activity next : TokenActivity Waker}
    (sound : ActivitySound wakers index state activity) (holds : next.holds = activity.holds)
    (wins : next.wins = activity.wins) (won : next.won = activity.won)
    (knows : ActivityKnows wakers state next) : ActivitySound wakers index state next where
  holds := by rw [holds, sound.holds]
  wins := by rw [wins, sound.wins]
  won := by rw [won, sound.won]
  knows := knows

/-- What the operation of a holder keeps. -/
structure TokenAdvanced (wakers : WakerContract Waker Task) (index : Nat)
    (before after : ShutdownState Waker Task) (next : TokenHolder Waker) : Prop where
  shared : ShutdownSound after
  mine : HolderSound wakers index after next
  others : ∀ other, other ≠ index → OthersKeep wakers other before after

/-- A holder that does nothing changes nothing. -/
theorem TokenAdvanced.still {holder : TokenHolder Waker} (shared : ShutdownSound state)
    (mine : HolderSound wakers index state holder) :
    TokenAdvanced wakers index state state holder :=
  ⟨shared, mine, fun _ _ => .refl⟩

/-- Without a request nobody was the first. -/
theorem ShutdownSound.unrequested (sound : ShutdownSound state)
    (unset : ¬state.requested = true) : state.requested = false ∧ state.first = .none :=
  have off := Bool.eq_false_iff.mpr unset
  ⟨off, sound.flag.mp off⟩

/-- The lock passes from nobody to this holder. -/
theorem TokenAdvanced.acquire {holder : TokenHolder Waker} {next : TokenActivity Waker}
    (shared : ShutdownSound state) (mine : HolderSound wakers index state holder)
    (free : state.holder = none) (holds : next.holds = true)
    (wins : next.wins = holder.activity.wins) (won : next.won = holder.activity.won)
    (knows : ActivityKnows wakers { state with holder := some index } next) :
    TokenAdvanced wakers index state { state with holder := some index }
      { holder with activity := next } where
  shared := ⟨shared.healthy, shared.flag, shared.quiet, shared.drained, shared.answers⟩
  mine := by
    refine ⟨⟨⟨fun _ => rfl, fun _ => holds⟩, ?_, ?_, knows⟩, mine.kept, mine.polls⟩
    · rw [wins]
      exact mine.activity.wins
    · rw [won]
      exact mine.activity.won
  others := fun other apart => {
    holder := by
      rw [free]
      exact ⟨fun same => absurd (Option.some.inj same).symm apart, nofun⟩
    waking := .rfl
    woken := .rfl
    requested := id
    told := fun _ => id
    longer := Nat.le_refl _
    done := fun _ => rfl }

/-- The lock passes from this holder to nobody. -/
theorem TokenAdvanced.release {holder next : TokenHolder Waker}
    (shared : ShutdownSound state) (mine : HolderSound wakers index state holder)
    (held : holder.activity.holds = true) (holds : next.activity.holds = false)
    (wins : next.activity.wins = holder.activity.wins)
    (won : next.activity.won = holder.activity.won)
    (knows : ActivityKnows wakers { state with holder := none } next.activity)
    (kept : ∀ waker ∈ next.waker, Notified wakers state (wakers.task waker))
    (polls : next.polls = holder.polls) :
    TokenAdvanced wakers index state { state with holder := none } next where
  shared := ⟨shared.healthy, shared.flag, shared.quiet, shared.drained, shared.answers⟩
  mine := by
    refine ⟨⟨?_, ?_, ?_, knows⟩, kept, ?_⟩
    · rw [holds]
      exact ⟨nofun, nofun⟩
    · rw [wins]
      exact mine.activity.wins
    · rw [won]
      exact mine.activity.won
    · rw [polls]
      exact mine.polls
  others := fun other apart => {
    holder := by
      rw [mine.activity.holds.mp held]
      exact ⟨nofun, fun same => absurd (Option.some.inj same).symm apart⟩
    waking := .rfl
    woken := .rfl
    requested := id
    told := fun _ => id
    longer := Nat.le_refl _
    done := fun _ => rfl }

/-- What one step of a poll does. -/
theorem poll_advanced {call : PollCall Waker} {holder next : TokenHolder Waker}
    {phase : PollPhase} (shared : ShutdownSound before)
    (mine : HolderSound wakers index before holder) (at_ : holder.activity = .poll call phase)
    (advanced : ShutdownFuture.poll wakers index call before holder phase = some (after, next)) :
    TokenAdvanced wakers index before after next := by
  have activity := mine.activity
  rw [at_] at activity
  have knows := activity.knows
  cases phase with
  | check =>
      simp only [ShutdownFuture.poll] at advanced
      split at advanced
      · obtain ⟨rfl, rfl⟩ := advanced
        exact .still shared ⟨activity.move rfl rfl rfl trivial, mine.kept, mine.polls⟩
      · rename_i unset
        have none_ := (shared.quiet (shared.unrequested unset).1).1
        have first : call.begun = 0 := by
          have early : call.begun ≤ before.woken.length := knows
          rw [none_] at early
          exact Nat.le_zero.mp early
        split at advanced
        · obtain ⟨rfl, rfl⟩ := advanced
          exact .still shared ⟨activity.move rfl rfl rfl first, mine.kept, mine.polls⟩
        · rename_i known
          obtain ⟨rfl, rfl⟩ := advanced
          refine .still shared ⟨activity.move rfl rfl rfl ⟨first, ?_⟩, mine.kept, mine.polls⟩
          cases held : holder.waker with
          | none =>
              rw [held] at known
              exact absurd rfl known
          | some waker =>
              rw [held, Option.all_some, Bool.not_eq_true, Bool.not_eq_false'] at known
              rw [← wakers.task_of_willWake waker call.waker known]
              exact mine.kept waker held
  | lock =>
      simp only [ShutdownFuture.poll] at advanced
      split at advanced
      · cases advanced
      · rename_i free
        rw [if_neg (by rw [shared.healthy]; exact Bool.false_ne_true)] at advanced
        obtain ⟨rfl, rfl⟩ := advanced
        exact .acquire shared mine free rfl (by rw [at_]; rfl) (by rw [at_]; rfl) knows
  | recheck =>
      simp only [ShutdownFuture.poll] at advanced
      split at advanced
      · obtain ⟨rfl, rfl⟩ := advanced
        exact .still shared ⟨activity.move rfl rfl rfl trivial, mine.kept, mine.polls⟩
      · rename_i unset
        obtain ⟨rfl, rfl⟩ := advanced
        have early : before.first.done = false := by
          rw [(shared.unrequested unset).2]
          rfl
        exact .still shared ⟨activity.move rfl rfl rfl ⟨knows, early⟩, mine.kept, mine.polls⟩
  | push =>
      obtain ⟨rfl, rfl⟩ := advanced
      have told : ∀ task, Notified wakers before task → Notified wakers
          { before with
            waiters := before.waiters ++ [wakers.clone (wakers.clone call.waker)] } task := by
        intro task
        rw [Notified, Notified, List.map_append, List.mem_append]
        exact Or.imp_left .inl
      refine ⟨⟨shared.healthy, shared.flag, shared.quiet, ?_, shared.answers⟩, ?_, ?_⟩
      · intro drained
        rw [knows.2] at drained
        cases drained
      · refine ⟨⟨activity.holds, activity.wins, activity.won, knows.1, ?_⟩,
          fun waker held => told _ (mine.kept waker held),
          fun earlier pending => (mine.polls earlier pending).mono told⟩
        rw [Notified, List.map_append, List.map_singleton, wakers.task_clone, wakers.task_clone]
        exact .inl (List.mem_append_right _ (List.mem_singleton_self _))
      · exact fun other _ => ⟨.rfl, .rfl, .rfl, id, told, Nat.le_refl _, fun _ => rfl⟩
  | unlock registered =>
      cases registered with
      | false =>
          obtain ⟨rfl, rfl⟩ := advanced
          exact .release shared mine (by rw [at_]; rfl) rfl (by rw [at_]; rfl) (by rw [at_]; rfl)
            trivial mine.kept rfl
      | true =>
          obtain ⟨rfl, rfl⟩ := advanced
          refine .release shared mine (by rw [at_]; rfl) rfl (by rw [at_]; rfl) (by rw [at_]; rfl)
            knows ?_ rfl
          rintro _ ⟨⟩
          rw [wakers.task_clone]
          exact knows.2
  | confirm =>
      obtain ⟨rfl, rfl⟩ := advanced
      refine .still shared ⟨activity.move rfl rfl rfl ?_, mine.kept, mine.polls⟩
      by_cases set : before.requested = true
      · rw [if_pos set]
        trivial
      · rw [if_neg set]
        exact knows
  | finish result =>
      obtain ⟨rfl, rfl⟩ := advanced
      refine .still shared ⟨activity.move rfl rfl rfl trivial, mine.kept, ?_⟩
      intro earlier pending
      rcases List.mem_append.mp pending with pending | same
      · exact mine.polls earlier pending
      · obtain ⟨rfl, rfl⟩ := Prod.mk.inj (List.mem_singleton.mp same)
        exact knows

/-- What one step of a request does. -/
theorem request_advanced {holder next : TokenHolder Waker} {phase : RequestPhase}
    (shared : ShutdownSound before) (mine : HolderSound wakers index before holder)
    (at_ : holder.activity = .request phase)
    (advanced : ShutdownToken.request wakers index before holder phase = some (after, next)) :
    TokenAdvanced wakers index before after next := by
  have activity := mine.activity
  rw [at_] at activity
  have knows := activity.knows
  cases phase with
  | swap =>
      simp only [ShutdownToken.request] at advanced
      split at advanced
      · rename_i set
        obtain ⟨rfl, rfl⟩ := advanced
        exact .still shared ⟨activity.move rfl rfl rfl fun _ => set, mine.kept, mine.polls⟩
      · rename_i unset
        obtain ⟨rfl, rfl⟩ := advanced
        obtain ⟨off, none_⟩ := shared.unrequested unset
        refine ⟨⟨shared.healthy, by simp, nofun, nofun, ?_⟩, ?_, fun other apart => ?_⟩
        · rw [(shared.quiet off).2]
          rfl
        · exact ⟨⟨activity.holds, by simp [TokenActivity.wins], by simp [TokenActivity.won],
            trivial⟩, mine.kept, mine.polls⟩
        · refine ⟨.rfl, ?_, ?_, fun _ => rfl, fun _ => id, Nat.le_refl _, fun _ => ?_⟩
          · simp [none_, Ne.symm apart]
          · simp [none_]
          · rw [none_]
            rfl
  | lock =>
      simp only [ShutdownToken.request] at advanced
      split at advanced
      · cases advanced
      · rename_i free
        rw [if_neg (by rw [shared.healthy]; exact Bool.false_ne_true)] at advanced
        obtain ⟨rfl, rfl⟩ := advanced
        exact .acquire shared mine free rfl (by rw [at_]; rfl) (by rw [at_]; rfl) trivial
  | wake =>
      have own : before.holder = some index := activity.holds.mp rfl
      have stage : before.first = .waking index := activity.wins.mp rfl
      have undone : before.first.done = false := by
        rw [stage]
        rfl
      have on : before.requested ≠ false := fun off => by
        rw [shared.flag.mp off] at stage
        cases stage
      simp only [ShutdownToken.request] at advanced
      split at advanced
      · rename_i waiter waiters listed
        obtain ⟨rfl, rfl⟩ := advanced
        have told : ∀ task, Notified wakers before task → Notified wakers
            { before with
              waiters, woken := before.woken ++ [wakers.task waiter] } task := by
          intro task
          rw [Notified, Notified, listed, List.map_cons, List.mem_cons, List.mem_append,
            List.mem_singleton]
          rintro ((same | later) | done)
          · exact .inr (.inr same)
          · exact .inl later
          · exact .inr (.inl done)
        refine ⟨⟨shared.healthy, shared.flag, fun off => absurd off on, ?_, shared.answers⟩,
          ⟨⟨?_, ?_, ?_, ?_⟩, fun waker held => told _ (mine.kept waker held),
            fun earlier pending => (mine.polls earlier pending).mono told⟩, fun other _ => ?_⟩
        · intro drained
          rw [undone] at drained
          cases drained
        · rw [at_]
          exact activity.holds
        · rw [at_]
          exact activity.wins
        · rw [at_]
          exact activity.won
        · rw [at_]
          trivial
        · refine ⟨.rfl, .rfl, .rfl, id, told, ?_, fun _ => rfl⟩
          rw [List.length_append]
          exact Nat.le_add_right _ _
      · rename_i empty
        obtain ⟨rfl, rfl⟩ := advanced
        refine ⟨⟨shared.healthy, ?_, fun off => absurd off on, fun _ => empty, ?_⟩,
          ⟨⟨?_, ?_, ?_, nofun⟩, mine.kept, mine.polls⟩, fun other apart => ?_⟩
        · exact ⟨fun off => absurd off on, nofun⟩
        · rw [shared.answers, stage]
          rfl
        · exact ⟨nofun, nofun⟩
        · exact ⟨nofun, nofun⟩
        · exact ⟨fun _ => rfl, fun _ => rfl⟩
        · refine ⟨?_, ?_, ?_, id, fun _ => id, Nat.le_refl _, fun theirs => ?_⟩
          · simp [own, Ne.symm apart]
          · simp [stage, Ne.symm apart]
          · simp [stage, Ne.symm apart]
          · rw [own] at theirs
            exact absurd (Option.some.inj theirs).symm apart
  | finish first =>
      obtain ⟨rfl, rfl⟩ := advanced
      cases first with
      | false =>
          have set : before.requested = true := knows rfl
          refine ⟨⟨shared.healthy, shared.flag, fun off => ?_, shared.drained, ?_⟩,
            ⟨⟨activity.holds, activity.wins, activity.won, trivial⟩, mine.kept, mine.polls⟩,
            fun other _ => ⟨.rfl, .rfl, .rfl, id, fun _ => id, Nat.le_refl _, fun _ => rfl⟩⟩
          · rw [set] at off
            cases off
          · rw [List.count_append]
            exact shared.answers
      | true =>
          have stage : before.first = .woken index := activity.won.mp rfl
          have done : before.first.done = true := by
            rw [stage]
            rfl
          have on : before.requested ≠ false := fun off => by
            rw [shared.flag.mp off] at stage
            cases stage
          refine ⟨⟨shared.healthy, ⟨fun off => absurd off on, nofun⟩, fun off => absurd off on,
            fun _ => shared.drained done, ?_⟩,
            ⟨⟨activity.holds, ⟨nofun, nofun⟩, ⟨nofun, nofun⟩, trivial⟩, mine.kept, mine.polls⟩,
            fun other apart => ?_⟩
          · rw [List.count_append, shared.answers, stage]
            rfl
          · refine ⟨.rfl, ?_, ?_, id, fun _ => id, Nat.le_refl _, fun _ => ?_⟩
            · simp [stage]
            · simp [stage, Ne.symm apart]
            · rw [done]
              rfl

/-- What one step of a holder does. -/
theorem shutdownToken_advanced {holder next : TokenHolder Waker} {call : TokenCall Waker}
    (shared : ShutdownSound before) (mine : HolderSound wakers index before holder)
    (advanced : (shutdownToken wakers).advance index call before holder = some (after, next)) :
    TokenAdvanced wakers index before after next := by
  simp only [shutdownToken] at advanced
  have activity := mine.activity
  split at advanced
  · rename_i at_
    rw [at_] at activity
    split at advanced
    · obtain ⟨rfl, rfl⟩ := advanced
      exact .still shared
        ⟨activity.move rfl rfl rfl (Nat.le_refl _), mine.kept, mine.polls⟩
    · obtain ⟨rfl, rfl⟩ := advanced
      exact .still shared ⟨activity.move rfl rfl rfl trivial, mine.kept, mine.polls⟩
  · rename_i at_
    exact poll_advanced shared mine at_ advanced
  · rename_i at_
    exact request_advanced shared mine at_ advanced

/-- Every step keeps the state and all holders sound. -/
theorem shutdownToken_stable : (shutdownToken wakers).Stable (fun _ _ => True)
    (@ShutdownSound Waker Task) (HolderSound wakers) where
  advances := fun state index call shared after sound threads _ advanced => by
    obtain ⟨kept, mine, others⟩ := shutdownToken_advanced sound (threads index) advanced
    exact ⟨kept, mine, fun other apart => (threads other).keep (others other apart)⟩
  occurs := fun _ event => event.elim

/-- The states that some interleaving of polls and requests reaches. -/
abbrev TokenReaches (wakers : WakerContract Waker Task) :=
  (shutdownToken wakers).Reaches fun _ _ => True

/-- The state and all holders are sound wherever the token gets. -/
theorem sound_of_reaches {token : Threads (ShutdownState Waker Task) (TokenHolder Waker)}
    (reached : TokenReaches wakers newToken token) :
    ShutdownSound token.shared ∧ ∀ index, HolderSound wakers index token.shared
      (token.thread index) := by
  refine shutdownToken_stable.reaches ?_ (fun index => ?_) reached
  · exact ⟨rfl, ⟨fun _ => rfl, fun _ => rfl⟩, fun _ => ⟨rfl, rfl⟩, fun _ => rfl, rfl⟩
  · exact ⟨⟨⟨nofun, nofun⟩, ⟨nofun, nofun⟩, ⟨nofun, nofun⟩, trivial⟩, nofun, nofun⟩

/-! ## Polls after a request -/

/-- Only a token that was asked answers. -/
theorem requested_of_answered (shared : ShutdownSound state) (some_ : state.answered ≠ []) :
    state.requested = true := by
  by_contra unset
  exact some_ (shared.quiet (shared.unrequested unset).1).2

/-- Beyond these polls the future returned only `Ready`, and a poll of it that is under way
will find the flag set or has found it set. -/
structure OnlyReady (polls : List (PollCall Waker × ShutdownPoll))
    (holder : TokenHolder Waker) : Prop where
  results : ∃ added, holder.polls = polls ++ added ∧ ∀ entry ∈ added, entry.2 = .ready
  phase : ∀ call phase, holder.activity = .poll call phase →
    phase = .check ∨ phase = .finish .ready

/-- Once shutdown was asked for, a poll returns nothing but ready. -/
theorem onlyReady_poll {polls : List (PollCall Waker × ShutdownPoll)} {call : PollCall Waker}
    {holder next : TokenHolder Waker} {phase : PollPhase} (set : before.requested = true)
    (late : OnlyReady polls holder) (at_ : holder.activity = .poll call phase)
    (advanced : ShutdownFuture.poll wakers index call before holder phase = some (after, next)) :
    OnlyReady polls next := by
  rcases late.phase call phase at_ with rfl | rfl
  · simp only [ShutdownFuture.poll, set, if_true] at advanced
    obtain ⟨rfl, rfl⟩ := advanced
    refine ⟨late.results, fun other phase same => ?_⟩
    cases same
    exact .inr rfl
  · obtain ⟨rfl, rfl⟩ := advanced
    obtain ⟨added, same, ready⟩ := late.results
    refine ⟨⟨added ++ [(call, .ready)], ?_, ?_⟩, nofun⟩
    · simp only [same, List.append_assoc]
    · intro entry listed
      rcases List.mem_append.mp listed with listed | one
      · exact ready entry listed
      · rw [List.mem_singleton.mp one]

/-- A request returns no poll. -/
theorem onlyReady_request {polls : List (PollCall Waker × ShutdownPoll)}
    {holder next : TokenHolder Waker} {phase : RequestPhase} (late : OnlyReady polls holder)
    (at_ : holder.activity = .request phase)
    (advanced : ShutdownToken.request wakers index before holder phase = some (after, next)) :
    OnlyReady polls next := by
  have kept : next.polls = holder.polls ∧ ∀ call phase, next.activity ≠ .poll call phase := by
    unfold ShutdownToken.request at advanced
    split at advanced
    · split at advanced <;> obtain ⟨rfl, rfl⟩ := advanced <;> exact ⟨rfl, nofun⟩
    · split at advanced
      · cases advanced
      · split at advanced <;> obtain ⟨rfl, rfl⟩ := advanced <;> exact ⟨rfl, nofun⟩
    · split at advanced
      · obtain ⟨rfl, rfl⟩ := advanced
        exact ⟨rfl, fun call phase same => by rw [at_] at same; cases same⟩
      · obtain ⟨rfl, rfl⟩ := advanced
        exact ⟨rfl, nofun⟩
    · obtain ⟨rfl, rfl⟩ := advanced
      exact ⟨rfl, nofun⟩
  exact ⟨kept.1 ▸ late.results, fun call phase same => absurd same (kept.2 call phase)⟩

/-- Once shutdown was asked for, no step returns a poll that waits on. -/
theorem onlyReady_advanced {polls : List (PollCall Waker × ShutdownPoll)}
    {holder next : TokenHolder Waker} {call : TokenCall Waker} (set : before.requested = true)
    (late : OnlyReady polls holder)
    (advanced : (shutdownToken wakers).advance index call before holder = some (after, next)) :
    OnlyReady polls next := by
  simp only [shutdownToken] at advanced
  split at advanced
  · split at advanced
    · obtain ⟨rfl, rfl⟩ := advanced
      refine ⟨late.results, fun call phase same => ?_⟩
      cases same
      exact .inl rfl
    · obtain ⟨rfl, rfl⟩ := advanced
      exact ⟨late.results, nofun⟩
  · rename_i at_
    exact onlyReady_poll set late at_ advanced
  · rename_i at_
    exact onlyReady_request late at_ advanced

/-- Once the flag is set, a future that nobody is polling is polled only to `Ready`. -/
theorem onlyReady_of_reaches {token later : Threads (ShutdownState Waker Task) (TokenHolder Waker)}
    (reached : TokenReaches wakers newToken token) (set : token.shared.requested = true)
    (idle : (token.thread index).activity = .idle) (went : TokenReaches wakers token later) :
    later.shared.requested = true ∧
      OnlyReady (token.thread index).polls (later.thread index) := by
  induction went with
  | start =>
      refine ⟨set, ⟨[], (List.append_nil _).symm, nofun⟩, fun call phase same => ?_⟩
      rw [idle] at same
      cases same
  | @next middle _ turn earlier fits taken ih =>
      cases turn with
      | event event => exact event.elim
      | thread mover call =>
          obtain ⟨shared, own, advanced, rfl⟩ := Program.step_thread_eq_some_iff.mp taken
          obtain ⟨sound, threads⟩ := sound_of_reaches (reached.trans earlier)
          have kept := shutdownToken_advanced sound (threads mover) advanced
          refine ⟨(kept.others (mover + 1) (Nat.succ_ne_self mover)).requested ih.1, ?_⟩
          dsimp only
          by_cases same : index = mover
          · subst same
            rw [Function.update_self]
            exact onlyReady_advanced ih.1 ih.2 advanced
          · rw [Function.update_of_ne same]
            exact ih.2

/-! ## No lost wake-up -/

/-- In every interleaving of polls and requests, at most one request answers that it was the
first, and one does when no request is under way any more. When it has answered, the task of
every poll that returned `Pending` has been woken since that poll began. Polls that begin after
any answer return `Ready`, and never wait for anything before they do. -/
theorem shutdown_wakes (wakers : WakerContract Waker Task)
    {token : Threads (ShutdownState Waker Task) (TokenHolder Waker)}
    (reached : TokenReaches wakers newToken token) :
    token.shared.answered.count true ≤ 1 ∧
      ((∀ index phase, (token.thread index).activity ≠ .request phase) →
        token.shared.answered ≠ [] → token.shared.answered.count true = 1) ∧
      (true ∈ token.shared.answered → ∀ index call,
        (call, .pending) ∈ (token.thread index).polls →
          wakers.task call.waker ∈ token.shared.woken.drop call.begun) ∧
      (token.shared.answered ≠ [] → ∀ index later, (token.thread index).activity = .idle →
        TokenReaches wakers token later →
          (∃ added, (later.thread index).polls = (token.thread index).polls ++ added ∧
            ∀ entry ∈ added, entry.2 = .ready) ∧
          ∀ call phase, (later.thread index).activity = .poll call phase → ∀ any,
            ((shutdownToken wakers).advance index any later.shared
              (later.thread index)).isSome = true) := by
  obtain ⟨shared, threads⟩ := sound_of_reaches reached
  refine ⟨?_, fun still some_ => ?_, fun answered index call pending => ?_,
    fun some_ index later idle went => ?_⟩
  · rw [shared.answers]
    split <;> decide
  · have set := requested_of_answered shared some_
    rw [shared.answers, if_pos]
    cases stage : token.shared.first with
    | none =>
        rw [shared.flag.mpr stage] at set
        cases set
    | waking caller =>
        have wins := (threads caller).activity.wins.mpr stage
        cases activity : (token.thread caller).activity with
        | idle => rw [activity] at wins; cases wins
        | poll call phase => rw [activity] at wins; cases wins
        | request phase => exact absurd activity (still caller phase)
    | woken caller =>
        have won := (threads caller).activity.won.mpr stage
        cases activity : (token.thread caller).activity with
        | idle => rw [activity] at won; cases won
        | poll call phase => rw [activity] at won; cases won
        | request phase => exact absurd activity (still caller phase)
    | answered => rfl
  · have stage : token.shared.first = .answered := by
      by_contra other
      have count := shared.answers
      rw [if_neg other] at count
      exact List.count_eq_zero.mp count answered
    have empty : token.shared.waiters = [] := shared.drained (by rw [stage]; rfl)
    obtain ⟨begun, told⟩ := (threads index).polls call pending
    rw [Notified, empty] at told
    rw [begun, List.drop_zero]
    exact told.resolve_left List.not_mem_nil
  · have set := requested_of_answered shared some_
    obtain ⟨still, late⟩ := onlyReady_of_reaches reached set idle went
    refine ⟨late.results, fun call phase at_ any => ?_⟩
    simp only [shutdownToken, at_]
    rcases late.phase call phase at_ with rfl | rfl
    · simp only [ShutdownFuture.poll, still, if_true, Option.isSome_some]
    · rfl

end Token

/-- Wakers of a task at some address, which are compared as they are. -/
def pairWakers : WakerContract (Nat × Nat) Nat where
  task := Prod.fst
  clone := id
  willWake := fun kept waker => kept == waker
  task_clone := fun _ => rfl
  task_of_willWake := fun _ _ same => congrArg Prod.fst (eq_of_beq same)

/-- A future registers its waker. Another one has checked the flag under the lock when a
request sets it, and registers its waker before the request can wake the list. The first one
is polled again in between. -/
def lateTurns : List (Turn (TokenCall (Nat × Nat)) Empty) :=
  List.replicate 8 (.thread 0 (.poll (5, 1))) ++ List.replicate 4 (.thread 2 (.poll (6, 1))) ++
    List.replicate 2 (.thread 1 .request) ++ List.replicate 4 (.thread 2 .request) ++
    List.replicate 3 (.thread 0 (.poll (5, 2))) ++ List.replicate 5 (.thread 1 .request)

/-- A poll waits, and a request comes after it. -/
def lateToken : Threads (ShutdownState (Nat × Nat) Nat) (TokenHolder (Nat × Nat)) :=
  (shutdownToken pairWakers).after newToken lateTurns

/-- The task that waits is woken, and its next poll is ready. -/
theorem shutdown_wakes_late :
    lateToken.shared.answered = [true] ∧
      (lateToken.thread 0).polls = [(⟨(5, 1), 0⟩, .pending), (⟨(5, 2), 0⟩, .ready)] ∧
      5 ∈ lateToken.shared.woken.drop 0 := by
  have executed : (shutdownToken pairWakers).execute newToken lateTurns = some lateToken := rfl
  have reached : TokenReaches pairWakers newToken lateToken :=
    Program.reaches_of_execute (fun _ _ => trivial) executed
  refine ⟨rfl, rfl, ?_⟩
  exact (shutdown_wakes pairWakers reached).2.2.1 (List.mem_singleton_self true) 0 ⟨(5, 1), 0⟩
    List.mem_cons_self

end FaceAuth
