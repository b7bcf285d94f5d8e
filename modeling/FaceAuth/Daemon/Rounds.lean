import FaceAuth.Daemon.Observation

/-!
# Rounds of an observation session

What one pair of frames can do to a session: the events that it adds, and what
the session remembers afterwards. Everything about whole sessions follows from
the list of these cases.
-/

namespace FaceAuth

open Foundation

/-- The failure ends the session. -/
def AttemptFailure.IsFatal : AttemptFailure → Prop
  | .fatal _ => True
  | .retryPosition => False

/-- Quiet work goes on in the background. -/
theorem ObservationEvent.IsQuiet.background {event : ObservationEvent} (quiet : event.IsQuiet) :
    event.IsBackground := by
  cases event <;> trivial

/-- The answer to the first count of faces after a history. -/
def detection {Value : Type} (environment : ObservationEnvironment Value) :
    ObservationHistory → ObservationHistory → Option (Except InferenceError Nat)
  | _, [] => none
  | history, .worked .detections :: _ => some (environment.faces history)
  | history, event :: events => detection environment (history ++ [event]) events

/-- The answer to this event says that the pair does not show one whole face. -/
def ObservationEnvironment.Misses {Value : Type} (environment : ObservationEnvironment Value)
    (history : ObservationHistory) : ObservationEvent → Prop
  | .worked .detections => ∃ faces, faces ≠ 1 ∧ environment.faces history = .ok faces
  | .worked .faceRegion => environment.work .faceRegion history = .error .faceRegionOutsideImage
  | .worked (.preprocess .faceLandmarks) =>
      environment.work (.preprocess .faceLandmarks) history = .error .faceRegionOutsideImage
  | _ => False

/-- Some answer after a history says that the pair does not show one whole face. -/
def SentBack {Value : Type} (environment : ObservationEnvironment Value) :
    ObservationHistory → ObservationHistory → Prop
  | _, [] => False
  | history, event :: events =>
      environment.Misses history event ∨ SentBack environment (history ++ [event]) events

/-- The frame that a camera gave when it was read. -/
def ObservationEnvironment.frameRead {Value : Type} (environment : ObservationEnvironment Value)
    (camera : CaptureModality) (history : ObservationHistory) :
    ObservationEvent → Option CapturedFrame
  | .read other => if other = camera then (environment.frame camera history).toOption else none
  | _ => none

/-- The frames that a camera gave along some events, in order. -/
def framesRead {Value : Type} (environment : ObservationEnvironment Value)
    (camera : CaptureModality) : ObservationHistory → ObservationHistory → List CapturedFrame :=
  gather (environment.frameRead camera)

/-- Both frames of a pair were read along these events. -/
structure Came {Value : Type} (environment : ObservationEnvironment Value)
    (history events : ObservationHistory) (pair : PairedFrames) : Prop where
  infrared : pair.infrared ∈ framesRead environment .infrared history events
  visible : pair.visible ∈ framesRead environment .visible history events

/-- The frames that came along some work came along more of it. -/
theorem Came.append {Value : Type} {environment : ObservationEnvironment Value}
    {history first second : ObservationHistory} {pair : PairedFrames}
    (came : Came environment (history ++ first) second pair) :
    Came environment history (first ++ second) pair := by
  constructor
  · rw [framesRead, gather_append]
    exact List.mem_append_right _ came.infrared
  · rw [framesRead, gather_append]
    exact List.mem_append_right _ came.visible

/-- What a session is told from outside that its prompts depend on. -/
inductive SessionInput where
  /-- The cameras gave this pair. -/
  | pair (pair : PairedFrames)
  /-- The pair does not show one whole face. -/
  | missed
  | located (landmarks : FacialLandmarks)
  | drew (action : ChallengeAction)
  | signal (cancelled : Bool)
  /-- The callback asks for one more observation. -/
  | more

/-- An input that matters to a challenge only. -/
def SessionInput.IsIdle : SessionInput → Prop
  | .drew _ | .signal _ => True
  | _ => False

/-- A face at the edge of the image is missed. -/
def InferenceError.tells : InferenceError → Option SessionInput
  | .faceRegionOutsideImage => some .missed
  | _ => none

/-- What the search for the one face was told, if it failed like this. -/
def AttemptFailure.tells : AttemptFailure → Option SessionInput
  | .retryPosition => some .missed
  | .fatal _ => none

/-- What a result tells, by its error or by its answer. -/
def tidings {Error Answer : Type} (back : Error → Option SessionInput)
    (found : Answer → Option SessionInput) : Except Error Answer → Option SessionInput
  | .error error => back error
  | .ok answer => found answer

/-- The answer to an event, where the prompts depend on it. -/
def ObservationEnvironment.input {Value : Type} (environment : ObservationEnvironment Value)
    (history : ObservationHistory) : ObservationEvent → Option SessionInput
  | .captured pair => some (.pair pair)
  | .polled cancelled => some (.signal cancelled)
  | .drawn => tidings (fun _ => none) (some ∘ .drew) (environment.random history)
  | .worked .detections =>
      tidings (fun _ => none) (fun faces => if faces = 1 then none else some .missed)
        (environment.faces history)
  | .worked .faceRegion =>
      tidings InferenceError.tells (fun _ => none) (environment.work .faceRegion history)
  | .worked (.preprocess .faceLandmarks) =>
      tidings InferenceError.tells (fun _ => none)
        (environment.work (.preprocess .faceLandmarks) history)
  | .worked .landmarks =>
      tidings (fun _ => none) (some ∘ .located) (environment.landmarks history)
  | .observed _ observation =>
      tidings (fun _ => none) (fun enough => if enough.isNone then some .more else none)
        (environment.observe observation history)
  | _ => none

/-- What a session is told along some events, in order. -/
def inputs {Value : Type} (environment : ObservationEnvironment Value) :
    ObservationHistory → ObservationHistory → List SessionInput :=
  gather environment.input

/-- The inputs end with this one, if any, and those before it matter to a challenge only. -/
def Tells (told : List SessionInput) (last : Option SessionInput) : Prop :=
  ∃ early, told = early ++ last.toList ∧ ∀ input ∈ early, input.IsIdle

/-- Idle inputs tell nothing. -/
theorem Tells.of_idle {told : List SessionInput} (idle : ∀ input ∈ told, input.IsIdle) :
    Tells told none := ⟨told, (List.append_nil told).symm, idle⟩

/-- What comes after nothing was told is told. -/
theorem Tells.append {first second : List SessionInput} {last : Option SessionInput}
    (early : Tells first none) (late : Tells second last) : Tells (first ++ second) last := by
  obtain ⟨before, rfl, idle⟩ := early
  obtain ⟨after, rfl, also⟩ := late
  refine ⟨before ++ after, ?_, List.forall_mem_append.mpr ⟨idle, also⟩⟩
  simp only [Option.toList_none, List.append_nil, List.append_assoc]

/-- Only the last input can say that the face was missed. -/
theorem Tells.missed_iff {told : List SessionInput} {last : Option SessionInput}
    (tells : Tells told last) : .missed ∈ told ↔ last = some .missed := by
  obtain ⟨early, rfl, idle⟩ := tells
  rw [List.mem_append, or_iff_right fun missed => (idle _ missed : SessionInput.missed.IsIdle),
    Option.mem_toList]

/-- What a pair with one face looks like to the challenge. -/
def PairedFrames.challengeObservation (pair : PairedFrames) (landmarks : FacialLandmarks) :
    ChallengeObservation where
  timing := pair.timing
  infraredSequence := pair.infrared.summary.sequence
  visibleSequence := pair.visible.summary.sequence
  faceCount := 1
  eyeOpenness := landmarks.eyeOpenness
  yawDegrees := landmarks.yawDegrees

/-- What goes on after a report is what the report said. -/
theorem next_of_told {Failure Next : Type} {result : Except Failure Next} {said next : Next}
    (told : (∃ failure, result = .error failure) ∨ result = .ok said)
    (given : result = .ok next) : next = said := by
  rcases told with ⟨failure, failed⟩ | told
  · rw [given] at failed
    cases failed
  · rw [given] at told
    exact Except.ok.inj told

namespace ObservationEnvironment

variable {Value : Type} (environment : ObservationEnvironment Value)

/-- The events are quiet. -/
def AllQuiet (events : ObservationHistory) : Prop := ∀ event ∈ events, event.IsQuiet

/-- What becomes of a pair whose observation is derived for the callback. -/
inductive Observed (locals : Locals) (pair : PairedFrames) (history : ObservationHistory) :
    Except ObservationFailure (Locals ⊕ Value) → ObservationHistory → Prop where
  | underived {work : ObservationHistory} (quiet : AllQuiet work) (failure : ObservationFailure) :
      Observed locals pair history (.error failure) (.reported .processing :: work)
  | handed {work : ObservationHistory} {observation : DerivedBiometricObservation}
      {result : Except ObservationFailure (Locals ⊕ Value)} (quiet : AllQuiet work)
      (timing : observation.timing = pair.timing)
      (last : match environment.observe observation (history ++ .reported .processing :: work) with
        | .error failure => result = .error failure
        | .ok (some value) => result = .ok (.inr value)
        | .ok none => MAX_DERIVED_OBSERVATION_ATTEMPTS ≤ locals.derivedAttempts + 1 ∧
            result = .error .attemptLimit) :
      Observed locals pair history result
        (.reported .processing :: work ++ [.observed pair observation])
  | continues {work : ObservationHistory} {observation : DerivedBiometricObservation}
      {result : Except ObservationFailure (Locals ⊕ Value)} (quiet : AllQuiet work)
      (timing : observation.timing = pair.timing)
      (left : locals.derivedAttempts + 1 < MAX_DERIVED_OBSERVATION_ATTEMPTS)
      (told : (∃ failure, result = .error failure) ∨
        result = .ok (.inl { locals with derivedAttempts := locals.derivedAttempts + 1 }))
      (more : environment.observe observation (history ++ .reported .processing :: work) =
        .ok none) :
      Observed locals pair history result
        (.reported .processing :: work ++ [.observed pair observation, .reported .holdStill])

/-- The challenge of the session, or a new one for an action that was drawn. -/
inductive Active (config : ChallengeConfig) (locals : Locals) (pair : PairedFrames)
    (history : ObservationHistory) : ObservationHistory → ChallengeSession → Prop where
  | ongoing {active : ChallengeSession} (begun : locals.challenge = some active) :
      Active config locals pair history [] active
  | begins {action : ChallengeAction} {active : ChallengeSession}
      (none : locals.challenge = none) (drawn : environment.random history = .ok action)
      (began : ChallengeSession.withAction config
        (FreshPairIdentity.fromPair pair).timestampMicros action = .ok active) :
      Active config locals pair history [.drawn] active

/-- The challenge answers to a pair, after some work. -/
def Offered (config : ChallengeConfig) (locals : Locals) (pair : PairedFrames)
    (landmarks : FacialLandmarks) (history work : ObservationHistory)
    (answer : Except ChallengeError ChallengeProgress × ChallengeSession) : Prop :=
  ∃ begins active shouldCancel, work = begins ++ [.polled shouldCancel] ∧
    environment.Active config locals pair history begins active ∧
    active.observeCancellable (pair.challengeObservation landmarks) shouldCancel = answer

/-- What becomes of a pair with one face. -/
inductive Judged (config : ChallengeConfig) (locals : Locals) (pair : PairedFrames)
    (landmarks : FacialLandmarks) (history : ObservationHistory) :
    Except ObservationFailure (Locals ⊕ Value) → ObservationHistory → Prop where
  | observes {result : Except ObservationFailure (Locals ⊕ Value)} {added : ObservationHistory}
      (passed : locals.challengePassed = true)
      (observed : environment.Observed locals pair history result added) :
      Judged config locals pair landmarks history result added
  | unbegun {work : ObservationHistory} (waits : locals.challengePassed = false)
      (quiet : AllQuiet work) (failure : ObservationFailure) (drawn : work = [.drawn]) :
      Judged config locals pair landmarks history (.error failure) work
  | rejected {work rest : ObservationHistory} {error : ChallengeError}
      (waits : locals.challengePassed = false) (quiet : AllQuiet work) (quietly : AllQuiet rest)
      (failure : ObservationFailure)
      (offered : ∃ challenge, environment.Offered config locals pair landmarks history work
        (.error error, challenge)) :
      Judged config locals pair landmarks history (.error failure)
        (work ++ .challenged pair (.error error) :: rest)
  | unchanged {work : ObservationHistory} {state : ChallengeProgress}
      {challenge : ChallengeSession} (waits : locals.challengePassed = false)
      (quiet : AllQuiet work)
      (offered : environment.Offered config locals pair landmarks history work
        (.ok state, challenge))
      (goesOn : state ≠ .passed) (same : locals.lastProgress = some (observationProgress state)) :
      Judged config locals pair landmarks history
        (.ok (.inl { locals with challenge := some challenge }))
        (work ++ [.challenged pair (.ok state)])
  | prompted {work : ObservationHistory} {state : ChallengeProgress}
      {challenge : ChallengeSession} {result : Except ObservationFailure (Locals ⊕ Value)}
      (waits : locals.challengePassed = false) (quiet : AllQuiet work)
      (offered : environment.Offered config locals pair landmarks history work
        (.ok state, challenge))
      (goesOn : state ≠ .passed)
      (changed : locals.lastProgress ≠ some (observationProgress state))
      (told : (∃ failure, result = .error failure) ∨ result = .ok (.inl { locals with
        challenge := some challenge, lastProgress := some (observationProgress state) })) :
      Judged config locals pair landmarks history result
        (work ++ [.challenged pair (.ok state), .reported (observationProgress state)])
  | passes {work added : ObservationHistory} {challenge : ChallengeSession}
      {result : Except ObservationFailure (Locals ⊕ Value)}
      (waits : locals.challengePassed = false) (quiet : AllQuiet work)
      (offered : environment.Offered config locals pair landmarks history work
        (.ok .passed, challenge))
      (observed : environment.Observed
        { locals with challenge := some challenge, challengePassed := true } pair
        (history ++ work ++ [.challenged pair (.ok .passed)]) result added) :
      Judged config locals pair landmarks history result
        (work ++ .challenged pair (.ok .passed) :: added)

/-- What the next pair does to a session. -/
inductive Round (config : ChallengeConfig) (locals : Locals) (history : ObservationHistory) :
    Except ObservationFailure (Locals ⊕ Value) → ObservationHistory → Prop where
  | unpaired {work : ObservationHistory} (quiet : AllQuiet work) (failure : ObservationFailure) :
      Round config locals history (.error failure) work
  | stale {work : ObservationHistory} {pair : PairedFrames} {previous : FreshPairIdentity}
      (quiet : AllQuiet work) (remembered : locals.previousPair = some previous)
      (old : ¬ (FreshPairIdentity.fromPair pair).IsFreshAfter previous)
      (came : Came environment history work pair) :
      Round config locals history (.error .invalidEvidence) (work ++ [.captured pair])
  | unprocessed {work rest : ObservationHistory} {pair : PairedFrames}
      {failure : ObservationFailure} (quiet : AllQuiet work)
      (fresh : ∀ previous ∈ locals.previousPair,
        (FreshPairIdentity.fromPair pair).IsFreshAfter previous)
      (background : ∀ event ∈ rest, event.IsBackground)
      (came : Came environment history work pair)
      (answers : Tells (inputs environment
        (history ++ work ++ [.captured pair, .admitted pair]) rest) none) :
      Round config locals history (.error failure)
        (work ++ .captured pair :: .admitted pair :: rest ++
          [.processed pair (.error (.fatal failure))])
  | repositioned {work rest : ObservationHistory} {pair : PairedFrames} {faces : Nat}
      {result : Except ObservationFailure (Locals ⊕ Value)} (quiet : AllQuiet work)
      (fresh : ∀ previous ∈ locals.previousPair,
        (FreshPairIdentity.fromPair pair).IsFreshAfter previous)
      (background : ∀ event ∈ rest, event.IsBackground)
      (detected : detection environment (history ++ work ++ [.captured pair, .admitted pair]) rest =
        some (.ok faces))
      (sent : Tells (inputs environment
        (history ++ work ++ [.captured pair, .admitted pair]) rest) (some .missed))
      (told : (∃ failure, result = .error failure) ∨
        result = .ok (.inl { locals with previousPair := some (.fromPair pair) }))
      (came : Came environment history work pair) :
      Round config locals history result
        (work ++ .captured pair :: .admitted pair :: rest ++
          [.processed pair (.error .retryPosition), .reported .positionFace])
  | positioned {work rest added : ObservationHistory} {pair : PairedFrames}
      {landmarks : FacialLandmarks} {result : Except ObservationFailure (Locals ⊕ Value)}
      (quiet : AllQuiet work)
      (fresh : ∀ previous ∈ locals.previousPair,
        (FreshPairIdentity.fromPair pair).IsFreshAfter previous)
      (background : ∀ event ∈ rest, event.IsBackground)
      (detected : detection environment (history ++ work ++ [.captured pair, .admitted pair]) rest =
        some (.ok 1))
      (kept : Tells (inputs environment
        (history ++ work ++ [.captured pair, .admitted pair]) rest) (some (.located landmarks)))
      (judged : environment.Judged config
        { locals with previousPair := some (.fromPair pair) } pair landmarks
        (history ++ (work ++ .captured pair :: .admitted pair :: rest ++
          [.processed pair (.ok landmarks)])) result added)
      (came : Came environment history work pair) :
      Round config locals history result
        (work ++ .captured pair :: .admitted pair :: rest ++
          .processed pair (.ok landmarks) :: added)

/-! ## Every round is one of these -/

/-- A part of a session ends with a result and with events that it has added. -/
abbrev Adds {Error Answer : Type} (part : Observing Error Answer) (history : ObservationHistory)
    (ends : Except Error Answer → ObservationHistory → Prop) : Prop :=
  part.Ensures history (fun _ => True) fun result state =>
    ∃ added, state = history ++ added ∧ ends result added

/-- Less may be said of what a part adds. -/
theorem Adds.mono {Error Answer : Type} {part : Observing Error Answer}
    {history : ObservationHistory} {ends weaker : Except Error Answer → ObservationHistory → Prop}
    (adds : Adds part history ends)
    (weaken : ∀ result added, ends result added → weaker result added) :
    Adds part history weaker :=
  Stepwise.Ensures.mono adds (fun _ _ => trivial) fun result _ ⟨added, appended, holds⟩ =>
    ⟨added, appended, weaken result added holds⟩

/-- What a part adds comes after what was added before it. -/
theorem Adds.after {Error Answer : Type} {part : Observing Error Answer}
    {history earlier : ObservationHistory} {ends : Except Error Answer → ObservationHistory → Prop}
    (adds : Adds part (history ++ earlier) fun result added => ends result (earlier ++ added)) :
    part.Ensures (history ++ earlier) (fun _ => True) fun result state =>
      ∃ added, state = history ++ added ∧ ends result added := by
  refine Stepwise.Ensures.mono adds (fun _ _ => trivial) ?_
  rintro result _ ⟨added, rfl, holds⟩
  exact ⟨earlier ++ added, List.append_assoc .., holds⟩

/-- A part that returns at once adds nothing. -/
theorem Adds.done {Error Answer : Type} {part : Observing Error Answer}
    {history : ObservationHistory} {result : Except Error Answer}
    {ends : Except Error Answer → ObservationHistory → Prop}
    (returns : ∀ start, part start = ⟨result, start, []⟩) (holds : ends result []) :
    Adds part history ends := by
  constructor <;> rw [returns]
  · simp
  · exact ⟨[], (List.append_nil _).symm, holds⟩

/-- Every failure of a part is of one kind. -/
def Fails {Error Answer : Type} (kind : Error → Prop) (part : Observing Error Answer) : Prop :=
  ∀ start error, (part start).result = .error error → kind error

/-- What comes after quiet work. -/
theorem Quiet.adds {Error Answer Next : Type} {kind : Error → Prop} {part : Observing Error Answer}
    {next : Answer → Observing Error Next} {history : ObservationHistory}
    {ends : Except Error Next → ObservationHistory → Prop} (quiet : Quiet part)
    (fails : Fails kind part)
    (stops : ∀ error work, kind error → AllQuiet work → ends (.error error) work)
    (second : ∀ value work, AllQuiet work →
      Adds (next value) (history ++ work) fun result added => ends result (work ++ added)) :
    Adds (part >>= next) history ends := by
  have first : Stepwise.Ensures part history (fun _ => True) fun result state =>
      (∀ error, result = .error error → kind error) ∧
        ∃ work, state = history ++ work ∧ AllQuiet work :=
    ⟨fun _ _ => trivial, fails history, quiet history⟩
  refine Stepwise.Ensures.bind first ?_ ?_
  · rintro error _ ⟨only, work, rfl, all⟩
    exact ⟨work, rfl, stops error work (only error rfl) all⟩
  · rintro value _ ⟨-, work, rfl, all⟩
    exact Adds.after (second value work all)

/-- Every part fails somehow. -/
theorem fails_always {Error Answer : Type} (part : Observing Error Answer) :
    Fails (fun _ => True) part := fun _ _ _ => trivial

/-- Where every failure is handled by one of a kind, only these are left. -/
theorem fails_rescue {Error Failure Answer : Type} {kind : Failure → Prop}
    {part : Observing Error Answer} {handle : Error → Observing Failure Answer}
    (handled : ∀ error, Fails kind (handle error)) : Fails kind (part.rescue handle) := by
  intro start error failed
  change ((Stepwise.attempt part >>= _ : Observing Failure Answer) start).result = _ at failed
  rw [@Stepwise.bind_of_ok _ _ _ _ (Stepwise.attempt part) _ start (part start).result rfl]
    at failed
  cases result : (part start).result with
  | ok value =>
      simp only [result] at failed
      cases failed
  | error first =>
      simp only [result] at failed
      exact handled first _ error failed

/-- Failing with an error fails with this error. -/
theorem fails_fail {Error Answer : Type} {kind : Error → Prop} {error : Error}
    (fits : kind error) : Fails kind (fail error : Observing Error Answer) := by
  rintro start _ ⟨⟩
  exact fits

/-- Failing after the failure was named fails with what was named. -/
theorem fails_fail_failure {Error Answer : Type} {kind : Error → Prop}
    (failure : ObservationFailure) {wrap : ObservationFailure → Error}
    (fits : ∀ failure, kind (wrap failure)) :
    Fails kind (do fail (wrap (← environment.failure failure)) : Observing Error Answer) := by
  rintro start _ ⟨⟩
  exact fits _

/-- What comes after an event that is noted or answered outside. -/
theorem adds_answer {Error Answer Next : Type} {event : ObservationEvent}
    {look : ObservationHistory → Except Error Answer} {next : Answer → Observing Error Next}
    {history : ObservationHistory} {ends : Except Error Next → ObservationHistory → Prop}
    (stops : ∀ error, look history = .error error → ends (.error error) [event])
    (second : ∀ value, look history = .ok value →
      Adds (next value) (history ++ [event]) fun result added => ends result (event :: added)) :
    Adds (answer event look >>= next) history ends := by
  have asked : Stepwise.Ensures (answer event look) history (fun _ => True) fun result state =>
      result = look history ∧ state = history ++ [event] := .act trivial ⟨rfl, rfl⟩
  refine Stepwise.Ensures.bind asked ?_ ?_
  · rintro error _ ⟨failed, rfl⟩
    exact ⟨[event], rfl, stops error failed.symm⟩
  · rintro value _ ⟨found, rfl⟩
    exact Adds.after (second value found.symm)

/-- Recording an event adds it ahead of the rest. -/
theorem adds_note {Error Next : Type} {event : ObservationEvent}
    {next : Unit → Observing Error Next} {history : ObservationHistory}
    {ends : Except Error Next → ObservationHistory → Prop}
    (rest : Adds (next ()) (history ++ [event]) fun result added => ends result (event :: added)) :
    Adds (note event >>= next) history ends :=
  Stepwise.Ensures.change_bind trivial (Adds.after rest)

/-- Quiet work goes on with quiet work. -/
theorem AllQuiet.append {first second : ObservationHistory} (early : AllQuiet first)
    (late : AllQuiet second) : AllQuiet (first ++ second) :=
  fun event member => (List.mem_append.mp member).elim (early event) (late event)

/-- An event that is not a count of faces is passed over. -/
theorem detection_cons {history events : ObservationHistory} {event : ObservationEvent}
    (uncounted : event ≠ .worked .detections) :
    detection environment history (event :: events) =
      detection environment (history ++ [event]) events := by
  rw [detection.eq_def]
  split
  · rename_i same
    cases same
  · rename_i same
    cases same
    exact (uncounted rfl).elim
  · rename_i same
    cases same
    rfl

/-- Quiet work counts no faces. -/
theorem detection_of_quiet {history work rest : ObservationHistory} (quiet : AllQuiet work) :
    detection environment history (work ++ rest) =
      detection environment (history ++ work) rest := by
  induction work generalizing history with
  | nil => rw [List.nil_append, List.append_nil]
  | cons event work ih =>
      have uncounted : event ≠ .worked .detections := by
        rintro rfl
        exact quiet _ (List.mem_cons_self ..) trivial
      rw [List.cons_append, environment.detection_cons uncounted,
        ih fun other member => quiet other (.tail _ member), List.append_assoc,
        List.singleton_append]

/-- A pair is sent back in the first part or in the second. -/
theorem sentBack_append {history first second : ObservationHistory} :
    SentBack environment history (first ++ second) ↔ SentBack environment history first ∨
      SentBack environment (history ++ first) second := by
  induction first generalizing history with
  | nil => simp [SentBack]
  | cons event first ih =>
      rw [List.cons_append, SentBack, SentBack, ih, List.append_assoc, List.singleton_append,
        or_assoc]

/-- Where no step locates a face, no answer sends a pair back. -/
theorem not_sentBack {history work : ObservationHistory}
    (silent : ∀ event ∈ work, ∀ step, event = .worked step → ¬ step.Locates) :
    ¬ SentBack environment history work := by
  induction work generalizing history with
  | nil => exact id
  | cons event work ih =>
      have unasked := silent event (List.mem_cons_self ..)
      have silence : ¬ environment.Misses history event := by
        intro misses
        unfold Misses at misses
        split at misses
        · exact unasked _ rfl trivial
        · exact unasked _ rfl trivial
        · exact unasked _ rfl trivial
        · exact misses
      rintro (misses | later)
      · exact silence misses
      · exact ih (fun other member => silent other (.tail _ member)) later

/-- Quiet work locates no face. -/
theorem AllQuiet.unlocating {work : ObservationHistory} (quiet : AllQuiet work) :
    ∀ event ∈ work, ∀ step, event = .worked step → ¬ step.Locates := by
  rintro _ member step rfl
  exact quiet _ member

/-- Quiet work tells nothing of the faces. -/
theorem not_sentBack_of_quiet {history work : ObservationHistory} (quiet : AllQuiet work) :
    ¬ SentBack environment history work := environment.not_sentBack quiet.unlocating

/-! ## What the work on a pair is told -/

/-- The inputs of one history come before those of the next. -/
theorem inputs_append {history first second : ObservationHistory} :
    inputs environment history (first ++ second) =
      inputs environment history first ++ inputs environment (history ++ first) second :=
  gather_append

/-- A face is missed when the input says so. -/
theorem misses_iff {history : ObservationHistory} {event : ObservationEvent} :
    environment.Misses history event ↔ environment.input history event = some .missed := by
  have edge : ∀ result : Except InferenceError Unit,
      tidings InferenceError.tells (fun _ => none) result = some .missed ↔
        result = .error .faceRegionOutsideImage := by
    intro result
    cases result with
    | ok value => simp [tidings]
    | error error => cases error <;> simp [tidings, InferenceError.tells]
  unfold Misses input
  split
  · cases environment.faces history with
    | ok faces => by_cases one : faces = 1 <;> simp [tidings, one]
    | error error => simp [tidings]
  · exact (edge _).symm
  · exact (edge _).symm
  · rename_i counts regions marks
    refine iff_of_false id fun missed => ?_
    split at missed
    · cases missed
    · cases missed
    · cases random : environment.random history <;> simp [random, tidings] at missed
    · exact counts rfl
    · exact regions rfl
    · exact marks rfl
    · cases located : environment.landmarks history <;> simp [located, tidings] at missed
    · rename_i observation
      cases enough : environment.observe observation history with
      | ok value => cases value <;> simp [enough, tidings] at missed
      | error failure => simp [enough, tidings] at missed
    · cases missed

/-- A pair is sent back when its work is told that the face was missed. -/
theorem sentBack_iff {history events : ObservationHistory} :
    SentBack environment history events ↔ .missed ∈ inputs environment history events := by
  induction events generalizing history with
  | nil => simp [SentBack, inputs]
  | cons event events ih =>
      have head : .missed ∈ (environment.input history event).toList ↔
          environment.Misses history event := by
        rw [environment.misses_iff, Option.mem_toList]
      rw [SentBack, inputs, gather_cons, List.mem_append, head, ih, inputs]

/-- A pair is sent back when the last thing told is that its face was missed. -/
theorem Tells.sentBack_iff {history events : ObservationHistory} {last : Option SessionInput}
    (tells : Tells (inputs environment history events) last) :
    SentBack environment history events ↔ last = some .missed := by
  rw [environment.sentBack_iff, tells.missed_iff]

/-- Quiet work is told nothing that matters before the challenge. -/
theorem inputs_idle {history work : ObservationHistory} (quiet : AllQuiet work) :
    ∀ told ∈ inputs environment history work, told.IsIdle := by
  refine forall_mem_gather fun before event member told given => ?_
  have known := quiet event member
  cases event with
  | polled cancelled =>
      cases given
      trivial
  | drawn =>
      unfold input at given
      cases drawn : environment.random before with
      | ok action =>
          rw [drawn] at given
          cases given
          trivial
      | error error =>
          rw [drawn] at given
          cases given
  | worked step =>
      cases step with
      | preprocess role => cases role <;> first | exact (known trivial).elim | cases given
      | detections | faceRegion | landmarks => exact (known trivial).elim
      | _ => cases given
  | opened camera => cases given
  | read camera => cases given
  | captured pair | admitted pair | processed pair outcome | challenged pair answer
    | reported progress | observed pair observation => exact known.elim

/-- How the search for the one face ends, and what it found. -/
def Processed (history : ObservationHistory) (outcome : Except AttemptFailure FacialLandmarks)
    (added : ObservationHistory) : Prop :=
  (∀ event ∈ added, event.IsBackground) ∧
    Tells (inputs environment history added)
      (tidings AttemptFailure.tells (some ∘ .located) outcome) ∧
    match outcome with
    | .ok _ => detection environment history added = some (.ok 1)
    | .error .retryPosition => ∃ faces, detection environment history added = some (.ok faces)
    | .error (.fatal _) => True

/-- A step that fails for good is fatal. -/
theorem fails_orFatal {Answer : Type} (step : Observing InferenceError Answer) :
    Fails AttemptFailure.IsFatal (environment.orFatal step) :=
  fails_rescue fun _ => fails_fail_failure environment _ fun _ => trivial

/-- A cancellation is fatal. -/
theorem fails_stillActive : Fails AttemptFailure.IsFatal environment.stillActive :=
  fails_rescue fun _ => fails_fail trivial

/-- Exactly one face passes. -/
theorem requireSingleFace_eq_ok_iff {faces : Nat} :
    requireSingleFace faces = .ok () ↔ faces = 1 := by
  unfold requireSingleFace
  split <;> simp_all

/-- None or several faces do not pass. -/
theorem requireSingleFace_eq_error {faces : Nat} {error : InferenceError}
    (refused : requireSingleFace faces = .error error) :
    error = .noFaceDetected ∨ ∃ count, error = .multipleFacesDetected count := by
  unfold requireSingleFace at refused
  split at refused <;> cases refused
  · exact .inl rfl
  · exact .inr ⟨_, rfl⟩

/-- What a part of the search added, and what it was told, which its result gives away. -/
structure Searched {Error Answer : Type} (back : Error → Option SessionInput)
    (found : Answer → Option SessionInput) (history : ObservationHistory)
    (result : Except Error Answer) (added : ObservationHistory) : Prop where
  background : ∀ event ∈ added, event.IsBackground
  tells : Tells (inputs environment history added) (tidings back found result)

/-- What a part that looks for the face tells: what it found, or that it was not there. -/
def Searches {Error Answer : Type} (back : Error → Option SessionInput)
    (found : Answer → Option SessionInput) (part : Observing Error Answer) : Prop :=
  ∀ history, Adds part history (environment.Searched back found history)

section Search

variable {Error Answer Next : Type} {back : Error → Option SessionInput}
  {found : Next → Option SessionInput} {environment}

/-- Quiet work finds nothing. -/
theorem Searches.of_quiet {part : Observing Error Answer} (quiet : Quiet part)
    (fails : Fails (fun error => back error = none) part) :
    environment.Searches back (fun _ => none) part := by
  intro history
  obtain ⟨added, appended, silent⟩ := quiet history
  refine ⟨fun _ _ => trivial, added, appended, ?_, ?_⟩
  · exact fun event member => (silent event member).background
  · have nothing : tidings back (fun _ => none) (part history).result = none := by
      cases result : (part history).result with
      | ok value => rfl
      | error error => exact fails history error result
    rw [nothing]
    exact .of_idle (environment.inputs_idle silent)

/-- A part that finds nothing may come first. -/
theorem Searches.bind {part : Observing Error Answer} {next : Answer → Observing Error Next}
    (first : environment.Searches back (fun _ => none) part)
    (second : ∀ value, environment.Searches back found (next value)) :
    environment.Searches back found (part >>= next) := by
  intro history
  refine Stepwise.Ensures.bind (first history) ?_ ?_
  · rintro error _ ⟨added, rfl, searched⟩
    exact ⟨added, rfl, searched.background, searched.tells⟩
  · rintro value _ ⟨early, rfl, searched⟩
    refine Adds.after ((second value _).mono fun result late goes => ?_)
    refine ⟨List.forall_mem_append.mpr ⟨searched.background, goes.background⟩, ?_⟩
    rw [environment.inputs_append]
    exact searched.tells.append goes.tells

/-- The region of the face is inside the image or not. -/
theorem searches_perform {step : VisionStep}
    (told : ∀ history, environment.input history (.worked step) =
      tidings InferenceError.tells (fun _ => none) (environment.work step history)) :
    environment.Searches InferenceError.tells (fun _ => none) (environment.perform step) := by
  intro history
  refine ⟨fun _ _ => trivial, [.worked step], rfl, by simp [ObservationEvent.IsBackground],
    [], ?_, List.forall_mem_nil _⟩
  rw [inputs, gather_cons, told]
  exact List.append_nil _

/-- Checking between the rows fails with a cancellation only. -/
theorem fails_checkRows {cancelled : Error} (rows : Nat) :
    Fails (· = cancelled) (environment.checkRows cancelled rows) := by
  induction rows with
  | zero => rintro start error ⟨⟩
  | succ rows ih =>
      intro start error failed
      change ((environment.poll >>= _ : Observing Error Unit) start).result = _ at failed
      rw [@Stepwise.bind_of_ok _ _ _ _ environment.poll _ start _ rfl] at failed
      split at failed
      · cases failed
        rfl
      · exact ih _ error failed

/-- Making a tensor of the landmarks' frame tells whether the face was misplaced. -/
theorem searches_preprocess :
    environment.Searches InferenceError.tells (fun _ => none)
      (environment.preprocess (.preprocess .faceLandmarks)) := by
  unfold preprocess
  refine Searches.bind (.of_quiet (.ask _) ?_) fun rows => ?_
  · rintro start error ⟨⟩
  refine Searches.bind (.of_quiet (quiet_checkRows _ rows) ?_) fun _ => ?_
  · intro start error failed
    rw [fails_checkRows rows start error failed]
    rfl
  · exact searches_perform fun history => rfl

/-- What a step is told comes out of it, whether the pair is sent back or not. -/
theorem searches_orReposition {step : Observing InferenceError Unit}
    (searches : environment.Searches InferenceError.tells (fun _ => none) step) :
    environment.Searches AttemptFailure.tells (fun _ => none) (environment.orReposition step) := by
  intro history
  have asked : Stepwise.Ensures (Stepwise.attempt step :
      Observing AttemptFailure (Except InferenceError Unit)) history (fun _ => True)
      fun outcome state => ∃ result, outcome = .ok result ∧ ∃ added, state = history ++ added ∧
        environment.Searched InferenceError.tells (fun _ => none) history result added := by
    refine Stepwise.Ensures.attempt (searches history) ?_
    rintro result _ ⟨added, rfl, searched⟩
    exact ⟨result, rfl, added, rfl, searched⟩
  refine Stepwise.Ensures.bind asked ?_ ?_
  · rintro error state ⟨result, failed, -⟩
    cases failed
  rintro result _ ⟨_, ⟨⟩, added, rfl, searched⟩
  cases result with
  | ok value => exact .pure ⟨added, rfl, searched.background, searched.tells⟩
  | error error =>
      dsimp only
      split
      · exact .ask ⟨added, rfl, searched.background, searched.tells⟩
      · rename_i inside
        have polled : AllQuiet [.polled (environment.cancelled (history ++ added))] := by
          simp [AllQuiet, ObservationEvent.IsQuiet, ObservationEvent.IsBackground]
        have nothing : InferenceError.tells error = none := by
          unfold InferenceError.tells
          split
          · exact (inside rfl).elim
          · rfl
        have tells := searched.tells
        rw [tidings, nothing] at tells
        refine ⟨fun _ _ => trivial, _, List.append_assoc .., ?_, ?_⟩
        · refine List.forall_mem_append.mpr ⟨searched.background, ?_⟩
          exact fun event member => (polled event member).background
        · rw [environment.inputs_append]
          exact tells.append (.of_idle (environment.inputs_idle polled))

/-- What a model answers is fatal if it is an error. -/
theorem orFatal_answer_adds {event : ObservationEvent}
    {look : ObservationHistory → Except InferenceError Answer} (history : ObservationHistory) :
    Adds (environment.orFatal (answer event look)) history fun result added =>
      match result with
      | .ok value => look history = .ok value ∧ added = [event]
      | .error failure => failure.IsFatal ∧ (∃ error, look history = .error error) ∧
          ∃ cancelled, added = [event, .polled cancelled] := by
  have asked : Stepwise.Ensures (Stepwise.attempt (answer event look) :
      Observing AttemptFailure (Except InferenceError Answer)) history (fun _ => True)
      fun result state => result = .ok (look history) ∧ state = history ++ [event] :=
    ⟨fun _ _ => trivial, rfl, rfl⟩
  refine Stepwise.Ensures.bind asked ?_ ?_
  · rintro error state ⟨failed, -⟩
    cases failed
  · rintro given _ ⟨found, rfl⟩
    cases found
    cases given : look history with
    | ok value => exact .pure ⟨_, rfl, rfl, rfl⟩
    | error error =>
        exact ⟨fun _ _ => trivial, _, List.append_assoc .., trivial, ⟨error, rfl⟩, _, rfl⟩

/-- The landmarks of a face are located last. -/
theorem searches_extractFaceLandmarks :
    environment.Searches AttemptFailure.tells (some ∘ .located)
      (environment.orFatal environment.extractFaceLandmarks) := by
  intro history
  refine (orFatal_answer_adds history).mono fun result added => ?_
  cases result with
  | ok landmarks =>
      rintro ⟨located, rfl⟩
      refine ⟨by simp [ObservationEvent.IsBackground], [], ?_, List.forall_mem_nil _⟩
      simp [inputs, gather, input, located, tidings]
  | error failure =>
      rintro ⟨fatal, ⟨error, failed⟩, cancelled, rfl⟩
      cases failure with
      | retryPosition => exact fatal.elim
      | fatal failure =>
          refine ⟨by simp [ObservationEvent.IsBackground], [.signal cancelled], ?_, ?_⟩
          · simp [inputs, gather, input, failed, tidings, AttemptFailure.tells]
          · simp [SessionInput.IsIdle]

end Search

/-- Once one face was found, only its place in the image can send the pair back. -/
theorem searches_locate (pair : PairedFrames) :
    environment.Searches AttemptFailure.tells (some ∘ .located) (do
      environment.orReposition (environment.perform .faceRegion)
      let _ ← environment.orFatal (.ofExcept (inferenceFrameView pair.visible))
      environment.orReposition (environment.preprocess (.preprocess .faceLandmarks))
      environment.stillActive
      environment.orFatal (environment.perform (.run .faceLandmarks))
      environment.stillActive
      environment.orFatal environment.extractFaceLandmarks) := by
  have mild : ∀ {Answer : Type} {part : Observing AttemptFailure Answer},
      Fails AttemptFailure.IsFatal part →
        Fails (fun error => AttemptFailure.tells error = none) part := by
    intro Answer part fatal start error failed
    cases error with
    | retryPosition => exact (fatal start _ failed).elim
    | fatal failure => rfl
  have region := searches_orReposition (@searches_perform _ environment .faceRegion
    fun history => rfl)
  have view : environment.Searches AttemptFailure.tells (fun _ => none)
      (environment.orFatal (.ofExcept (inferenceFrameView pair.visible))) :=
    .of_quiet (quiet_orFatal (.ofExcept _)) (mild (environment.fails_orFatal _))
  have prepared := searches_orReposition (@searches_preprocess _ environment)
  have active : environment.Searches AttemptFailure.tells (fun _ => none)
      environment.stillActive :=
    .of_quiet quiet_stillActive (mild environment.fails_stillActive)
  have ran : environment.Searches AttemptFailure.tells (fun _ => none)
      (environment.orFatal (environment.perform (.run .faceLandmarks))) :=
    .of_quiet (quiet_orFatal (quiet_worked id _)) (mild (environment.fails_orFatal _))
  have located : environment.Searches AttemptFailure.tells (some ∘ .located)
      (environment.orFatal environment.extractFaceLandmarks) :=
    searches_extractFaceLandmarks
  apply Searches.bind region
  intro _
  apply Searches.bind view
  intro _
  apply Searches.bind prepared
  intro _
  apply Searches.bind active
  intro _
  apply Searches.bind ran
  intro _
  apply Searches.bind active
  intro _
  exact located

/-- A fatal failure leaves quiet work behind. -/
theorem processed_fatal {history work : ObservationHistory} {error : AttemptFailure}
    (fatal : error.IsFatal) (quiet : AllQuiet work) :
    environment.Processed history (.error error) work := by
  cases error with
  | retryPosition => exact fatal.elim
  | fatal failure =>
      exact ⟨fun event member => (quiet event member).background,
        .of_idle (environment.inputs_idle quiet), trivial⟩

/-- After the count of the faces every outcome is possible that fits it. -/
theorem processed_counted {history work rest : ObservationHistory} {faces : Nat}
    {outcome : Except AttemptFailure FacialLandmarks} (quiet : AllQuiet work)
    (counted : environment.faces (history ++ work) = .ok faces)
    (background : ∀ event ∈ rest, event.IsBackground)
    (kept : ∀ landmarks, outcome = .ok landmarks → faces = 1)
    (tells : Tells ((if faces = 1 then [] else [.missed]) ++
        inputs environment (history ++ work ++ [.worked .detections]) rest)
      (tidings AttemptFailure.tells (some ∘ .located) outcome)) :
    environment.Processed history outcome (work ++ .worked .detections :: rest) := by
  have found : detection environment history (work ++ .worked .detections :: rest) =
      some (.ok faces) := by
    rw [detection_of_quiet environment quiet, detection, counted]
  have heard : inputs environment history (work ++ .worked .detections :: rest) =
      inputs environment history work ++ ((if faces = 1 then [] else [.missed]) ++
        inputs environment (history ++ work ++ [.worked .detections]) rest) := by
    have first : (environment.input (history ++ work) (.worked .detections)).toList =
        if faces = 1 then [] else [.missed] := by
      rw [input, counted, tidings]
      split_ifs <;> rfl
    rw [environment.inputs_append, ← first]
    rfl
  refine ⟨fun event member => ?_, ?_, ?_⟩
  · rcases List.mem_append.mp member with early | late
    · exact (quiet event early).background
    · rcases List.mem_cons.mp late with rfl | later
      · trivial
      · exact background event later
  · rw [heard]
    exact Tells.append (.of_idle (environment.inputs_idle quiet)) tells
  · split
    · rename_i landmarks
      rw [found, kept landmarks rfl]
    · exact ⟨faces, found⟩
    · trivial

/-- The search for the one face in a pair. -/
theorem processPair_adds (pair : PairedFrames) (history : ObservationHistory) :
    Adds (environment.processPair pair) history (environment.Processed history) := by
  have ran : Quiet (environment.orFatal (environment.perform (.run .faceDetector))) :=
    quiet_orFatal (quiet_worked id _)
  have prepared : Quiet (environment.orFatal
      (environment.preprocessFrame (.preprocess .faceDetector) pair.visible)) :=
    quiet_orFatal (quiet_preprocessFrame id _)
  unfold processPair
  refine Quiet.adds prepared (environment.fails_orFatal _) ?_ fun _ first quietFirst => ?_
  · exact fun error work fatal quiet => environment.processed_fatal fatal quiet
  refine Quiet.adds quiet_stillActive environment.fails_stillActive ?_
    fun _ second quietSecond => ?_
  · exact fun error work fatal quiet => environment.processed_fatal fatal (quietFirst.append quiet)
  refine Quiet.adds ran (environment.fails_orFatal _) ?_ fun _ third quietThird => ?_
  · exact fun error work fatal quiet =>
      environment.processed_fatal fatal (quietFirst.append (quietSecond.append quiet))
  refine Quiet.adds quiet_stillActive environment.fails_stillActive ?_
    fun _ fourth quietFourth => ?_
  · exact fun error work fatal quiet => environment.processed_fatal fatal
      (quietFirst.append (quietSecond.append (quietThird.append quiet)))
  have quiet : AllQuiet (first ++ (second ++ (third ++ fourth))) :=
    quietFirst.append (quietSecond.append (quietThird.append quietFourth))
  have before : history ++ first ++ second ++ third ++ fourth =
      history ++ (first ++ (second ++ (third ++ fourth))) := by
    simp only [List.append_assoc]
  have regroup : ∀ added, first ++ (second ++ (third ++ (fourth ++ added))) =
      first ++ (second ++ (third ++ fourth)) ++ added := by
    simp only [List.append_assoc, implies_true]
  refine Stepwise.Ensures.bind (orFatal_answer_adds _) ?_ ?_
  · rintro error _ ⟨added, rfl, fatal, ⟨failure, failed⟩, cancelled, rfl⟩
    cases error with
    | retryPosition => exact fatal.elim
    | fatal failure =>
        rw [before] at failed
        refine ⟨_, rfl, ?_⟩
        dsimp only
        rw [regroup]
        refine ⟨List.forall_mem_append.mpr ⟨fun event early => (quiet event early).background, ?_⟩,
          ?_, trivial⟩
        · simp [ObservationEvent.IsBackground]
        · rw [environment.inputs_append]
          refine Tells.append (.of_idle (environment.inputs_idle quiet))
            ⟨[.signal cancelled], ?_, ?_⟩
          · simp [inputs, gather, input, failed, tidings, AttemptFailure.tells]
          · simp [SessionInput.IsIdle]
  · rintro faces _ ⟨added, rfl, counted, rfl⟩
    rw [before] at counted
    have several : ∀ {error}, requireSingleFace faces = .error error → environment.Processed history
        (.error .retryPosition)
          (first ++ (second ++ (third ++ (fourth ++ [.worked .detections])))) := by
      intro error failed
      have many : faces ≠ 1 := by
        rintro rfl
        cases failed
      rw [regroup]
      refine environment.processed_counted quiet counted (List.forall_mem_nil _) (by simp) ?_
      rw [if_neg many]
      exact ⟨[], rfl, List.forall_mem_nil _⟩
    dsimp only
    split
    · rename_i failed
      exact .ask ⟨_, rfl, several failed⟩
    · rename_i failed
      exact .ask ⟨_, rfl, several failed⟩
    · rename_i other none many failed
      exact ((requireSingleFace_eq_error failed).elim none fun ⟨count, same⟩ =>
        many count same).elim
    · rename_i single
      have one : faces = 1 := requireSingleFace_eq_ok_iff.mp single
      refine Stepwise.Ensures.mono (environment.searches_locate pair _) (fun _ _ => trivial) ?_
      rintro outcome _ ⟨rest, rfl, searched⟩
      have tells := searched.tells
      rw [before] at tells
      refine ⟨.worked .detections :: rest, by simp, ?_⟩
      rw [regroup]
      refine environment.processed_counted quiet counted searched.background (fun _ _ => one) ?_
      rw [if_pos one]
      exact tells

/-- What a part returns, if it returns. -/
def Returns {Error Answer : Type} (good : Answer → Prop) (part : Observing Error Answer) : Prop :=
  ∀ start answer, (part start).result = .ok answer → good answer

/-- What every end of a computation returns, the whole returns. -/
theorem Returns.bind {Error Answer Next : Type} {good : Next → Prop} {part : Observing Error Answer}
    {next : Answer → Observing Error Next} (returns : ∀ answer, Returns good (next answer)) :
    Returns good (part >>= next) := by
  intro start answer returned
  cases result : (part start).result with
  | error error =>
      rw [Stepwise.bind_of_error result] at returned
      cases returned
  | ok value =>
      rw [Stepwise.bind_of_ok result] at returned
      exact returns value _ answer returned

/-- A derived observation carries the timing of its pair. -/
theorem deriveObservation_timing (pair : PairedFrames) (landmarks : FacialLandmarks) :
    Returns (fun observation => observation.timing = pair.timing)
      (environment.deriveObservation pair landmarks) := by
  unfold deriveObservation
  iterate 22
    apply Returns.bind
    intro _
  rintro start observation ⟨⟩
  rfl

/-- What becomes of a pair whose observation is derived. -/
theorem observePair_adds (locals : Locals) (pair : PairedFrames) (landmarks : FacialLandmarks)
    (history : ObservationHistory) :
    Adds (environment.observePair locals pair landmarks) history
      (environment.Observed locals pair history) := by
  unfold observePair
  refine adds_answer (fun failure _ => ?_) fun _ _ => ?_
  · exact .underived (List.forall_mem_nil _) failure
  have derived : Stepwise.Ensures (environment.deriveObservation pair landmarks)
      (history ++ [.reported .processing]) (fun _ => True) fun result state =>
        (∀ observation, result = .ok observation → observation.timing = pair.timing) ∧
          ∃ work, state = history ++ [.reported .processing] ++ work ∧ AllQuiet work :=
    ⟨fun _ _ => trivial, environment.deriveObservation_timing pair landmarks _,
      quiet_deriveObservation pair landmarks _⟩
  refine Stepwise.Ensures.bind derived ?_ ?_
  · rintro failure _ ⟨-, work, rfl, quiet⟩
    exact ⟨work, rfl, .underived quiet failure⟩
  rintro observation _ ⟨timed, work, rfl, quiet⟩
  have timing : observation.timing = pair.timing := timed observation rfl
  have asked : history ++ [.reported .processing] ++ work =
      history ++ .reported .processing :: work := List.append_assoc ..
  refine Adds.after (adds_answer (fun failure failed => ?_) fun enough found => ?_)
  · rw [asked] at failed
    refine .handed quiet timing ?_
    rw [failed]
  rw [asked] at found
  cases enough with
  | some value =>
      refine .done (fun _ => rfl) (.handed quiet timing ?_)
      rw [found]
  | none =>
      dsimp only
      split
      · rename_i left
        refine adds_answer (fun failure _ => ?_) fun _ _ => .done (fun _ => rfl) ?_
        · exact .continues quiet timing left (.inl ⟨failure, rfl⟩) found
        · exact .continues quiet timing left (.inr rfl) found
      · rename_i spent
        refine .done (fun _ => rfl) (.handed quiet timing ?_)
        rw [found]
        exact ⟨Nat.not_lt.mp spent, rfl⟩

/-- A poll comes before what depends on it. -/
theorem adds_poll {Error Next : Type} {next : Bool → Observing Error Next}
    {history : ObservationHistory} {ends : Except Error Next → ObservationHistory → Prop}
    (second : ∀ cancelled, Adds (next cancelled) (history ++ [.polled cancelled])
      fun result added => ends result (.polled cancelled :: added)) :
    Adds (environment.poll >>= next) history ends := by
  have asked : Stepwise.Ensures (environment.poll : Observing Error Bool) history (fun _ => True)
      fun result state => ∃ cancelled, result = .ok cancelled ∧
        state = history ++ [.polled cancelled] := .act trivial ⟨_, rfl, rfl⟩
  refine Stepwise.Ensures.bind asked ?_ ?_
  · rintro error state ⟨cancelled, failed, -⟩
    cases failed
  · rintro value _ ⟨cancelled, ⟨⟩, rfl⟩
    exact Adds.after (second value)

/-- Beginning the challenge is quiet. -/
theorem Active.quiet {config : ChallengeConfig} {locals : Locals} {pair : PairedFrames}
    {history begins : ObservationHistory} {active : ChallengeSession}
    (known : environment.Active config locals pair history begins active) : AllQuiet begins := by
  cases known <;> simp [AllQuiet, ObservationEvent.IsQuiet, ObservationEvent.IsBackground]

/-- The first pair with one face begins the challenge, if it can. -/
theorem activeChallenge_adds (config : ChallengeConfig) (locals : Locals) (pair : PairedFrames)
    (history : ObservationHistory) :
    Adds (environment.activeChallenge locals.challenge config
      (FreshPairIdentity.fromPair pair).timestampMicros) history fun result added =>
        match result with
        | .ok active => environment.Active config locals pair history added active
        | .error _ => added = [.drawn] := by
  cases begun : locals.challenge with
  | some active => exact .done (fun _ => rfl) (.ongoing begun)
  | none =>
      have began : Stepwise.Ensures (environment.begin config
          (FreshPairIdentity.fromPair pair).timestampMicros) history (fun _ => True)
          fun result state => state = history ++ [.drawn] ∧ ∀ active, result = .ok active →
            environment.Active config locals pair history [.drawn] active := by
        have asked : Stepwise.Ensures (answer .drawn environment.random) history
            (fun _ => True) fun result state =>
              result = environment.random history ∧ state = history ++ [.drawn] :=
          .act trivial ⟨rfl, rfl⟩
        refine Stepwise.Ensures.bind asked ?_ ?_
        · rintro error _ ⟨-, rfl⟩
          exact ⟨rfl, nofun⟩
        · rintro action _ ⟨drawn, rfl⟩
          exact .ask ⟨rfl, fun active started => .begins begun drawn.symm started⟩
      have tried : Stepwise.Ensures (Stepwise.attempt (environment.begin config
          (FreshPairIdentity.fromPair pair).timestampMicros) :
            Observing ObservationFailure (Except ChallengeError ChallengeSession)) history
          (fun _ => True) fun result state => ∃ outcome, result = .ok outcome ∧
            state = history ++ [.drawn] ∧ ∀ active, outcome = .ok active →
              environment.Active config locals pair history [.drawn] active :=
        .attempt began fun outcome state known => ⟨outcome, rfl, known⟩
      refine Stepwise.Ensures.bind tried ?_ ?_
      · rintro error state ⟨outcome, failed, -⟩
        cases failed
      · rintro given _ ⟨outcome, ⟨⟩, rfl, known⟩
        cases given with
        | ok active => exact .pure ⟨[.drawn], rfl, known active rfl⟩
        | error error => exact .ask ⟨[.drawn], rfl, rfl⟩

/-- What offering a pair to the challenge adds. -/
def Advanced (config : ChallengeConfig) (locals : Locals) (pair : PairedFrames)
    (landmarks : FacialLandmarks) (history : ObservationHistory)
    (result : Except ObservationFailure (ChallengeProgress × ChallengeSession))
    (added : ObservationHistory) : Prop :=
  match result with
  | .ok (state, challenge) => ∃ work, AllQuiet work ∧
      added = work ++ [.challenged pair (.ok state)] ∧
      environment.Offered config locals pair landmarks history work (.ok state, challenge)
  | .error _ => added = [.drawn] ∨ ∃ work error rest challenge, AllQuiet work ∧ AllQuiet rest ∧
      added = work ++ .challenged pair (.error error) :: rest ∧
      environment.Offered config locals pair landmarks history work (.error error, challenge)

/-- What advancing the challenge adds. -/
theorem advanceChallenge_adds (config : ChallengeConfig) (locals : Locals) (pair : PairedFrames)
    (landmarks : FacialLandmarks) (history : ObservationHistory) :
    Adds (environment.advanceChallenge locals.challenge config pair landmarks) history
      (environment.Advanced config locals pair landmarks history) := by
  have polled : ∀ cancelled, AllQuiet [.polled cancelled] := by
    simp [AllQuiet, ObservationEvent.IsQuiet, ObservationEvent.IsBackground]
  unfold advanceChallenge
  refine Stepwise.Ensures.bind (environment.activeChallenge_adds config locals pair history) ?_ ?_
  · rintro failure _ ⟨added, rfl, drawn⟩
    exact ⟨added, rfl, .inl drawn⟩
  rintro active _ ⟨begins, rfl, known⟩
  refine Adds.after (adds_poll environment fun shouldCancel => adds_note ?_)
  have offered : environment.Offered config locals pair landmarks history
      (begins ++ [.polled shouldCancel])
      (active.observeCancellable (pair.challengeObservation landmarks) shouldCancel) :=
    ⟨begins, active, shouldCancel, rfl, known, rfl⟩
  have quiet : AllQuiet (begins ++ [.polled shouldCancel]) :=
    (Active.quiet environment known).append (polled shouldCancel)
  unfold PairedFrames.challengeObservation at offered
  generalize active.observeCancellable _ shouldCancel = observed at offered ⊢
  obtain ⟨answered, challenge⟩ := observed
  cases answered with
  | ok state =>
      refine .done (fun _ => rfl) ⟨_, quiet, ?_, offered⟩
      rw [List.append_assoc]
      rfl
  | error error =>
      exact ⟨fun _ _ => trivial, _, rfl, .inr ⟨begins ++ [.polled shouldCancel], error, _,
        challenge, quiet, polled _, (List.append_assoc begins [_] _).symm, offered⟩⟩

/-- What becomes of a pair with one face. -/
theorem judgePair_adds (config : ChallengeConfig) (locals : Locals) (pair : PairedFrames)
    (landmarks : FacialLandmarks) (history : ObservationHistory) :
    Adds (environment.judgePair config locals pair landmarks) history
      (environment.Judged config locals pair landmarks history) := by
  unfold judgePair
  split
  · rename_i passed
    exact (environment.observePair_adds locals pair landmarks history).mono
      fun _ _ observed => .observes passed observed
  rename_i waits
  have waits : locals.challengePassed = false := by simpa using waits
  refine Stepwise.Ensures.bind
    (environment.advanceChallenge_adds config locals pair landmarks history) ?_ ?_
  · rintro failure _ ⟨added, rfl, advanced⟩
    refine ⟨added, rfl, ?_⟩
    rcases advanced with rfl | ⟨work, error, rest, challenge, quiet, quietly, rfl, offered⟩
    · refine .unbegun waits ?_ failure rfl
      simp [AllQuiet, ObservationEvent.IsQuiet, ObservationEvent.IsBackground]
    · exact .rejected waits quiet quietly failure ⟨challenge, offered⟩
  rintro ⟨state, challenge⟩ _ ⟨added, rfl, work, quiet, rfl, offered⟩
  dsimp only
  split
  · rename_i passes
    subst passes
    refine Adds.after ((environment.observePair_adds _ pair landmarks _).mono ?_)
    intro result added observed
    rw [List.append_assoc, List.singleton_append]
    refine .passes waits quiet offered ?_
    rw [List.append_assoc]
    exact observed
  · rename_i goesOn
    split
    · rename_i same
      exact .pure ⟨_, rfl, .unchanged waits quiet offered goesOn same⟩
    · rename_i changed
      have regroup : work ++ [.challenged pair (.ok state)] ++
          [.reported (observationProgress state)] =
            work ++ [.challenged pair (.ok state), .reported (observationProgress state)] := by
        rw [List.append_assoc, List.singleton_append]
      refine Adds.after (adds_answer (fun failure _ => ?_) fun _ _ => .done (fun _ => rfl) ?_)
      · rw [regroup]
        exact .prompted waits quiet offered goesOn changed (.inl ⟨failure, rfl⟩)
      · rw [regroup]
        exact .prompted waits quiet offered goesOn changed (.inr rfl)

/-- A frame of a camera was read since a capture began. -/
def ReadSince (start : ObservationHistory) (camera : CaptureModality) (frame : CapturedFrame)
    (state : ObservationHistory) : Prop :=
  ∃ added, state = start ++ added ∧ frame ∈ framesRead environment camera start added

/-- A frame was read after the start. -/
theorem ReadSince.since {start state : ObservationHistory} {camera : CaptureModality}
    {frame : CapturedFrame} (read : environment.ReadSince start camera frame state) :
    start <+: state := by
  obtain ⟨added, rfl, -⟩ := read
  exact List.prefix_append ..

/-- A frame that was read stays so. -/
theorem ReadSince.later {start state : ObservationHistory} {camera : CaptureModality}
    {frame : CapturedFrame} (read : environment.ReadSince start camera frame state)
    (event : ObservationEvent) : environment.ReadSince start camera frame (state ++ [event]) := by
  obtain ⟨added, rfl, member⟩ := read
  refine ⟨added ++ [event], List.append_assoc .., ?_⟩
  rw [framesRead, gather_append]
  exact List.mem_append_left _ member

/-- The frame that a camera gives is read. -/
theorem nextFrame_ensures {start state : ObservationHistory} (since : start <+: state)
    (camera : CaptureModality) :
    Stepwise.Ensures (.act (environment.sources.nextFrame camera) :
      Observing CaptureError CapturedFrame) state (fun _ => True)
      fun result later => later = state ++ [.read camera] ∧
        ∀ frame, result = .ok frame → environment.ReadSince start camera frame later := by
  obtain ⟨added, rfl⟩ := since
  refine .act trivial ⟨rfl, fun frame given => ?_⟩
  refine ⟨(added ++ [.read camera] : ObservationHistory), ?_, ?_⟩
  · exact List.append_assoc start added [.read camera]
  have read : environment.frame camera (start ++ added) = .ok frame := given
  rw [framesRead, gather_append]
  refine List.mem_append_right _ ?_
  simp [gather, frameRead, read, Except.toOption]

/-- Checking for a cancellation adds a poll. -/
theorem checkCancelled_ensures (state : ObservationHistory) :
    Stepwise.Ensures environment.sources.checkCancelled state (fun _ => True)
      fun _ later => ∃ cancelled, later = state ++ [.polled cancelled] := .act trivial ⟨_, rfl⟩

/-- Both frames of the pair that a capture returns were read since it began. -/
def BothRead (start : ObservationHistory) (result : Except CaptureError PairedFrames)
    (state : ObservationHistory) : Prop :=
  ∀ pair, result = .ok pair → environment.ReadSince start .infrared pair.infrared state ∧
    environment.ReadSince start .visible pair.visible state

/-- A capture that failed returns no pair. -/
theorem bothRead_error {start state : ObservationHistory} {error : CaptureError} :
    environment.BothRead start (.error error) state := by
  rintro pair ⟨⟩

/-- Replacing the older frame uses frames that were read. -/
theorem alignFrames_reads (pairing : PairingPolicy) {start state : ObservationHistory}
    (replacements : List Nat) {infrared visible : CapturedFrame}
    (one : environment.ReadSince start .infrared infrared state)
    (other : environment.ReadSince start .visible visible state) :
    Stepwise.Ensures (alignFrames environment.sources pairing replacements infrared visible) state
      (fun _ => True) (environment.BothRead start) := by
  induction replacements generalizing infrared visible state with
  | nil => exact .ask environment.bothRead_error
  | cons replacement replacements ih =>
      unfold alignFrames
      refine Stepwise.Ensures.bind (environment.checkCancelled_ensures _)
        (fun _ _ _ => environment.bothRead_error) ?_
      rintro value _ ⟨cancelled, rfl⟩
      have keptOne := ReadSince.later environment one (.polled cancelled)
      have keptOther := ReadSince.later environment other (.polled cancelled)
      dsimp only
      split
      · refine .pure ?_
        rintro pair ⟨⟩
        exact ⟨keptOne, keptOther⟩
      split
      · exact .ask environment.bothRead_error
      refine Stepwise.Ensures.bind (environment.checkCancelled_ensures _)
        (fun _ _ _ => environment.bothRead_error) ?_
      rintro value _ ⟨again, rfl⟩
      have stillOne := ReadSince.later environment keptOne (.polled again)
      have stillOther := ReadSince.later environment keptOther (.polled again)
      split
      · refine Stepwise.Ensures.bind
          (environment.nextFrame_ensures stillOne.since .infrared)
          (fun _ _ _ => environment.bothRead_error) ?_
        rintro frame _ ⟨rfl, read⟩
        refine Stepwise.Ensures.ask_bind (fun _ _ => environment.bothRead_error) fun _ _ => ?_
        exact ih (read frame rfl) (ReadSince.later environment stillOther _)
      · refine Stepwise.Ensures.bind
          (environment.nextFrame_ensures stillOther.since .visible)
          (fun _ _ _ => environment.bothRead_error) ?_
        rintro frame _ ⟨rfl, read⟩
        refine Stepwise.Ensures.ask_bind (fun _ _ => environment.bothRead_error) fun _ _ => ?_
        exact ih (ReadSince.later environment stillOne _) (read frame rfl)

/-- A capture returns frames that it has read. -/
theorem capturePairCancellable_reads (pairing : PairingPolicy) (start : ObservationHistory) :
    Stepwise.Ensures (capturePairCancellable environment.sources pairing) start
      (fun _ => True) (environment.BothRead start) := by
  unfold capturePairCancellable
  refine Stepwise.Ensures.ask_bind (fun _ _ => environment.bothRead_error) fun _ _ => ?_
  refine Stepwise.Ensures.bind (environment.checkCancelled_ensures _)
    (fun _ _ _ => environment.bothRead_error) ?_
  rintro value _ ⟨cancelled, rfl⟩
  refine Stepwise.Ensures.bind (environment.nextFrame_ensures (List.prefix_append ..) .infrared)
    (fun _ _ _ => environment.bothRead_error) ?_
  rintro infrared _ ⟨rfl, one⟩
  refine Stepwise.Ensures.bind (environment.checkCancelled_ensures _)
    (fun _ _ _ => environment.bothRead_error) ?_
  rintro value _ ⟨again, rfl⟩
  have kept := ReadSince.later environment (one infrared rfl) (.polled again)
  refine Stepwise.Ensures.bind (environment.nextFrame_ensures kept.since .visible)
    (fun _ _ _ => environment.bothRead_error) ?_
  rintro visible _ ⟨rfl, other⟩
  refine Stepwise.Ensures.ask_bind (fun _ _ => environment.bothRead_error) fun _ _ => ?_
  refine Stepwise.Ensures.ask_bind (fun _ _ => environment.bothRead_error) fun _ _ => ?_
  exact environment.alignFrames_reads pairing _ (ReadSince.later environment kept _)
    (other visible rfl)

/-- What the capture of the next pair adds. -/
theorem capture_adds (pairing : PairingPolicy) (history : ObservationHistory) :
    Adds ((capturePairCancellable environment.sources pairing).rescue fun _ => do
      fail (← environment.captureFailure)) history fun result added =>
        AllQuiet added ∧ ∀ pair, result = .ok pair → Came environment history added pair := by
  have captures : Quiet ((capturePairCancellable environment.sources pairing).rescue fun _ => do
      fail (← environment.captureFailure) : Observing ObservationFailure PairedFrames) :=
    (quiet_capturePairCancellable pairing).rescue fun _ => quiet_fail_failure _ id
  have tried : Stepwise.Ensures (Stepwise.attempt
      (capturePairCancellable environment.sources pairing) :
        Observing ObservationFailure (Except CaptureError PairedFrames)) history (fun _ => True)
      fun result state => ∃ outcome, result = .ok outcome ∧
        environment.BothRead history outcome state :=
    .attempt (environment.capturePairCancellable_reads pairing history)
      fun outcome state reads => ⟨outcome, rfl, reads⟩
  have reads : Stepwise.Ensures ((capturePairCancellable environment.sources pairing).rescue
      fun _ => do fail (← environment.captureFailure)) history (fun _ => True) fun result state =>
        ∀ pair, result = .ok pair → environment.ReadSince history .infrared pair.infrared state ∧
          environment.ReadSince history .visible pair.visible state := by
    refine Stepwise.Ensures.bind tried ?_ ?_
    · rintro error state ⟨outcome, failed, -⟩
      cases failed
    · rintro given state ⟨outcome, ⟨⟩, reads⟩
      cases given with
      | ok pair =>
          refine .pure fun other same => ?_
          cases same
          exact reads pair rfl
      | error error => exact ⟨fun _ _ => trivial, by rintro pair ⟨⟩⟩
  obtain ⟨added, appended, quiet⟩ := captures history
  refine ⟨fun _ _ => trivial, added, appended, quiet, fun pair returned => ?_⟩
  obtain ⟨⟨early, began, infrared⟩, late, ended, visible⟩ := reads.ended pair returned
  rw [appended] at began ended
  rw [← List.append_cancel_left began] at infrared
  rw [← List.append_cancel_left ended] at visible
  exact ⟨infrared, visible⟩

/-- What the next pair does to a session is one of the rounds. -/
theorem nextPair_adds (pairing : PairingPolicy) (config : ChallengeConfig) (locals : Locals)
    (history : ObservationHistory) :
    Adds (environment.nextPair pairing config locals) history
      (environment.Round config locals history) := by
  unfold nextPair
  refine Quiet.adds quiet_ensureActive (fails_always _) ?_ fun _ first quietFirst => ?_
  · exact fun failure work _ quiet => .unpaired quiet failure
  refine Stepwise.Ensures.bind (environment.capture_adds pairing _) ?_ ?_
  · rintro failure _ ⟨second, rfl, quietSecond, -⟩
    exact ⟨second, rfl, .unpaired (quietFirst.append quietSecond) failure⟩
  rintro pair _ ⟨second, rfl, quietSecond, read⟩
  have quiet : AllQuiet (first ++ second) := quietFirst.append quietSecond
  have came : Came environment history (first ++ second) pair := (read pair rfl).append
  refine Adds.after (adds_note ?_)
  dsimp only
  split
  · rename_i stale
    obtain ⟨previous, remembered, old⟩ := (Option.any_eq_true _ _).mp stale
    refine .done (fun _ => rfl) ?_
    rw [← List.append_assoc]
    exact .stale quiet remembered (of_decide_eq_true old) came
  rename_i checked
  have fresh : ∀ previous ∈ locals.previousPair,
      (FreshPairIdentity.fromPair pair).IsFreshAfter previous := by
    intro previous found
    rw [Option.mem_def] at found
    simpa [found] using checked
  refine adds_note ?_
  have searched : Stepwise.Ensures (Stepwise.attempt (environment.processPair pair) :
      Observing ObservationFailure (Except AttemptFailure FacialLandmarks))
      (history ++ first ++ second ++ [.captured pair] ++ [.admitted pair]) (fun _ => True)
      fun result state => ∃ outcome, result = .ok outcome ∧ ∃ rest,
        state = history ++ first ++ second ++ [.captured pair] ++ [.admitted pair] ++ rest ∧
          environment.Processed (history ++ (first ++ second) ++ [.captured pair, .admitted pair])
            outcome rest := by
    have regroup : history ++ first ++ second ++ [.captured pair] ++ [.admitted pair] =
        history ++ (first ++ second) ++ [.captured pair, .admitted pair] := by
      simp only [List.append_assoc, List.singleton_append]
    rw [regroup]
    refine Stepwise.Ensures.attempt (environment.processPair_adds pair _) ?_
    rintro outcome _ ⟨rest, rfl, processed⟩
    exact ⟨outcome, rfl, rest, rfl, processed⟩
  refine Stepwise.Ensures.bind searched ?_ ?_
  · rintro failure state ⟨outcome, failed, -⟩
    cases failed
  rintro given _ ⟨outcome, same, rest, rfl, background, tells, counted⟩
  cases same
  refine Adds.after (adds_note ?_)
  have regroup : ∀ added, first ++ (second ++ .captured pair :: .admitted pair :: (rest ++ added)) =
      first ++ second ++ .captured pair :: .admitted pair :: rest ++ added := by
    simp only [List.append_assoc, List.cons_append, implies_true]
  cases given with
  | ok landmarks =>
      refine (environment.judgePair_adds config _ pair landmarks _).mono ?_
      intro result added judged
      rw [regroup]
      refine .positioned quiet fresh background counted tells ?_ came
      simpa only [List.append_assoc, List.cons_append, List.nil_append] using judged
  | error error =>
      cases error with
      | retryPosition =>
          obtain ⟨faces, detected⟩ := counted
          refine adds_answer (fun failure _ => ?_) fun _ _ => .done (fun _ => rfl) ?_
          · rw [regroup]
            exact .repositioned quiet fresh background detected tells (.inl ⟨failure, rfl⟩) came
          · rw [regroup]
            exact .repositioned quiet fresh background detected tells (.inr rfl) came
      | fatal failure =>
          refine .done (fun _ => rfl) ?_
          rw [regroup]
          exact .unprocessed quiet fresh background came tells

end ObservationEnvironment

/-! ## Whole sessions -/

open ObservationEnvironment

section Session

variable {Value : Type} (pipeline : ProductionObservationPipeline)
  (environment : ObservationEnvironment Value) (config : ChallengeConfig)

/-- How many pairs a session captures at most. -/
def ChallengeConfig.captureAttempts : Nat :=
  config.maxObservations * 2 + MAX_DERIVED_OBSERVATION_ATTEMPTS

/-- The checks of a session, and the start of its streams. -/
def ProductionObservationPipeline.preparation : Observing ObservationFailure Unit := do
  .ofExcept (pipeline.pairing.validate.mapError fun _ => .capture)
  .ofExcept (pipeline.detection.validate.mapError fun _ => .invalidEvidence)
  .ofExcept (pipeline.quality.validate.mapError fun _ => .invalidEvidence)
  .ofExcept (config.validate.mapError fun _ => .liveness)
  environment.ensureActive
  (environment.openStream .infrared (pipeline.warmupFrames .infrared)).rescue fun _ => do
    fail (← environment.captureFailure)
  (environment.openStream .visible (pipeline.warmupFrames .visible)).rescue fun _ => do
    fail (← environment.captureFailure)

/-- A session prepares, asks for the face and goes through its rounds. -/
theorem runSession_eq : pipeline.runSession environment config =
    pipeline.preparation environment config >>= fun _ =>
      environment.report .positionFace >>= fun _ =>
        environment.runPairs pipeline.pairing config config.captureAttempts .start := by
  unfold ProductionObservationPipeline.runSession ProductionObservationPipeline.preparation
  simp only [Stepwise.bind_bind, ChallengeConfig.captureAttempts]

/-- The preparation is quiet. -/
theorem quiet_preparation : Quiet (pipeline.preparation environment config) := by
  have opens : ∀ camera warmupFrames, Quiet
      ((environment.openStream camera warmupFrames).rescue fun _ => do
        fail (← environment.captureFailure) : Observing ObservationFailure Unit) :=
    fun camera warmupFrames =>
      (quiet_openStream camera warmupFrames).rescue fun _ => quiet_fail_failure _ id
  unfold ProductionObservationPipeline.preparation
  iterate 4
    apply Stepwise.Appends.bind (.ofExcept _)
    intro _
  apply Stepwise.Appends.bind quiet_ensureActive
  intro _
  apply Stepwise.Appends.bind (opens _ _)
  intro _
  exact opens _ _

/-- A session with a number of capture attempts left, what it remembers, and its history. -/
inductive Underway : Nat → Locals → ObservationHistory → Prop where
  | opened (prepared : (pipeline.preparation environment config []).result = .ok ())
      (told : environment.progress .positionFace
        (pipeline.preparation environment config []).state =
        .ok ()) :
      Underway config.captureAttempts .start
        ((pipeline.preparation environment config []).state ++ [.reported .positionFace])
  | next {remaining : Nat} {locals next : Locals} {history : ObservationHistory}
      (before : Underway (remaining + 1) locals history)
      (goesOn : (environment.nextPair pipeline.pairing config locals history).result =
        .ok (.inl next)) :
      Underway remaining next (environment.nextPair pipeline.pairing config locals history).state

/-- How a session ends, and what its history is then. -/
inductive Ends : Except ObservationFailure Value → ObservationHistory → Prop where
  | unprepared {failure : ObservationFailure}
      (failed : (pipeline.preparation environment config []).result = .error failure) :
      Ends (.error failure) (pipeline.preparation environment config []).state
  | unreported {failure : ObservationFailure}
      (refused : environment.progress .positionFace
        (pipeline.preparation environment config []).state = .error failure) :
      Ends (.error failure)
        ((pipeline.preparation environment config []).state ++ [.reported .positionFace])
  | stopped {remaining : Nat} {locals : Locals} {history : ObservationHistory}
      {failure : ObservationFailure}
      (underway : Underway pipeline environment config (remaining + 1) locals history)
      (failed : (environment.nextPair pipeline.pairing config locals history).result =
        .error failure) :
      Ends (.error failure) (environment.nextPair pipeline.pairing config locals history).state
  | finished {remaining : Nat} {locals : Locals} {history : ObservationHistory} {value : Value}
      (underway : Underway pipeline environment config (remaining + 1) locals history)
      (enough : (environment.nextPair pipeline.pairing config locals history).result =
        .ok (.inr value)) :
      Ends (.ok value) (environment.nextPair pipeline.pairing config locals history).state
  | spent {locals : Locals} {history : ObservationHistory}
      (underway : Underway pipeline environment config 0 locals history) :
      Ends (.error (if environment.cancelled history then .cancelled else .attemptLimit))
        (history ++ [.polled (environment.cancelled history)])

/-- Checking for a cancellation records the answer. -/
theorem ensureActive_eq (history : ObservationHistory) : environment.ensureActive history =
    ⟨if environment.cancelled history then .error .cancelled else .ok (),
      history ++ [.polled (environment.cancelled history)],
      [history ++ [.polled (environment.cancelled history)]]⟩ := by
  unfold ensureActive
  rw [@Stepwise.bind_of_ok _ _ _ _ (poll environment) _ history (environment.cancelled history) rfl]
  cases cancelled : environment.cancelled history <;> simp only [poll, Stepwise.act, cancelled] <;>
    rfl

variable {pipeline environment config}

/-- With no attempt left, a session looks once more whether it is still wanted. -/
theorem runPairs_zero_eq (locals : Locals) (history : ObservationHistory) :
    (environment.runPairs pipeline.pairing config 0 locals history).result =
      .error (if environment.cancelled history then .cancelled else .attemptLimit) ∧
    (environment.runPairs pipeline.pairing config 0 locals history).state =
      history ++ [.polled (environment.cancelled history)] := by
  unfold runPairs
  cases cancelled : environment.cancelled history with
  | true =>
      have stops : (environment.ensureActive history).result = .error .cancelled := by
        rw [ensureActive_eq, cancelled]
        rfl
      rw [Stepwise.bind_of_error stops, ensureActive_eq, cancelled]
      exact ⟨rfl, rfl⟩
  | false =>
      have passes : (environment.ensureActive history).result = .ok () := by
        rw [ensureActive_eq, cancelled]
        rfl
      rw [Stepwise.bind_of_ok passes, ensureActive_eq, cancelled]
      exact ⟨rfl, rfl⟩

/-- A run that is under way ends as its loop does. -/
theorem Underway.ends {remaining : Nat} {locals : Locals} {history : ObservationHistory}
    (underway : Underway pipeline environment config remaining locals history) :
    Ends pipeline environment config
      (environment.runPairs pipeline.pairing config remaining locals history).result
      (environment.runPairs pipeline.pairing config remaining locals history).state := by
  induction remaining generalizing locals history with
  | zero =>
      obtain ⟨result, state⟩ :=
        @runPairs_zero_eq _ pipeline environment config locals history
      rw [result, state]
      exact .spent underway
  | succ remaining ih =>
      unfold runPairs
      cases result : (environment.nextPair pipeline.pairing config locals history).result with
      | error failure =>
          rw [Stepwise.bind_of_error result]
          exact .stopped underway result
      | ok flow =>
          rw [Stepwise.bind_of_ok result]
          cases flow with
          | inl next => exact ih (.next underway result)
          | inr value => exact .finished underway result

/-- A session goes on as its loop does from where it stands. -/
theorem Underway.runSession {remaining : Nat} {locals : Locals} {history : ObservationHistory}
    (underway : Underway pipeline environment config remaining locals history) :
    (pipeline.runSession environment config []).result =
      (environment.runPairs pipeline.pairing config remaining locals history).result ∧
    (pipeline.runSession environment config []).state =
      (environment.runPairs pipeline.pairing config remaining locals history).state := by
  induction underway with
  | opened prepared told =>
      rw [runSession_eq, Stepwise.bind_of_ok prepared,
        @Stepwise.bind_of_ok _ _ _ _ (report environment _) _ _ () told]
      exact ⟨rfl, rfl⟩
  | next before goesOn ih =>
      rw [ih.1, ih.2, runPairs, Stepwise.bind_of_ok goesOn]
      exact ⟨rfl, rfl⟩

/-- A session that a pair fails ends there. -/
theorem Underway.stopped {remaining : Nat} {locals : Locals} {history : ObservationHistory}
    {failure : ObservationFailure}
    (underway : Underway pipeline environment config (remaining + 1) locals history)
    (failed : (environment.nextPair pipeline.pairing config locals history).result =
      .error failure) :
    (pipeline.runSession environment config []).result = .error failure ∧
      (pipeline.runSession environment config []).state =
        (environment.nextPair pipeline.pairing config locals history).state := by
  rw [underway.runSession.1, underway.runSession.2, runPairs, Stepwise.bind_of_error failed]
  exact ⟨rfl, rfl⟩

/-- Every session ends in one of these ways. -/
theorem runSession_ends : Ends pipeline environment config
    (pipeline.runSession environment config []).result
    (pipeline.runSession environment config []).state := by
  rw [runSession_eq]
  cases prepared : (pipeline.preparation environment config []).result with
  | error failure =>
      rw [Stepwise.bind_of_error prepared]
      exact .unprepared prepared
  | ok done =>
      rw [Stepwise.bind_of_ok prepared]
      cases told : environment.progress .positionFace
          (pipeline.preparation environment config []).state with
      | error failure =>
          rw [@Stepwise.bind_of_error _ _ _ _ (report environment _) _ _ failure told]
          exact .unreported told
      | ok done =>
          rw [@Stepwise.bind_of_ok _ _ _ _ (report environment _) _ _ done told]
          exact (Underway.opened prepared told).ends

/-- A fact between pairs that every round keeps, and what it says of every end. -/
structure Carries (environment : ObservationEnvironment Value) (config : ChallengeConfig)
    (between : Nat → Locals → ObservationHistory → Prop)
    (final : Except ObservationFailure Value → ObservationHistory → Prop) : Prop where
  unopened : ∀ failure work, AllQuiet work →
    final (.error failure) work ∧ final (.error failure) (work ++ [.reported .positionFace])
  opened : ∀ work, AllQuiet work →
    between config.captureAttempts .start (work ++ [.reported .positionFace])
  goesOn : ∀ {remaining locals history next added}, between (remaining + 1) locals history →
    environment.Round config locals history (.ok (.inl next)) added →
      between remaining next (history ++ added)
  stops : ∀ {remaining locals history failure added}, between (remaining + 1) locals history →
    environment.Round config locals history (.error failure) added →
      final (.error failure) (history ++ added)
  finishes : ∀ {remaining locals history value added}, between (remaining + 1) locals history →
    environment.Round config locals history (.ok (.inr value)) added →
      final (.ok value) (history ++ added)
  spent : ∀ {locals history}, between 0 locals history →
    final (.error (if environment.cancelled history then .cancelled else .attemptLimit))
      (history ++ [.polled (environment.cancelled history)])

variable {between : Nat → Locals → ObservationHistory → Prop}
  {final : Except ObservationFailure Value → ObservationHistory → Prop}

/-- What every round carries holds wherever a run is under way. -/
theorem Underway.carried {remaining : Nat} {locals : Locals} {history : ObservationHistory}
    (underway : Underway pipeline environment config remaining locals history)
    (carries : Carries environment config between final) : between remaining locals history := by
  induction underway with
  | opened prepared told =>
      obtain ⟨work, appended, quiet⟩ := quiet_preparation pipeline environment config []
      rw [appended]
      exact carries.opened work quiet
  | next before goesOn ih =>
      obtain ⟨added, appended, round⟩ :=
        (environment.nextPair_adds pipeline.pairing config _ _).ended
      rw [appended]
      exact carries.goesOn ih (goesOn ▸ round)

/-- What is carried from pair to pair holds at the end. -/
theorem Carries.runSession (carries : Carries environment config between final)
    (pipeline : ProductionObservationPipeline) :
    final (pipeline.runSession environment config []).result
      (pipeline.runSession environment config []).state := by
  have ends : Ends pipeline environment config (pipeline.runSession environment config []).result
    (pipeline.runSession environment config []).state := runSession_ends
  obtain ⟨work, opened, quiet⟩ := quiet_preparation pipeline environment config []
  generalize (pipeline.runSession environment config []).result = result at ends ⊢
  generalize (pipeline.runSession environment config []).state = history at ends ⊢
  cases ends with
  | unprepared failed => exact opened ▸ (carries.unopened _ work quiet).1
  | unreported refused => exact opened ▸ (carries.unopened _ work quiet).2
  | stopped underway failed =>
      obtain ⟨added, appended, round⟩ :=
        (environment.nextPair_adds pipeline.pairing config _ _).ended
      rw [appended]
      exact carries.stops (underway.carried carries) (failed ▸ round)
  | finished underway enough =>
      obtain ⟨added, appended, round⟩ :=
        (environment.nextPair_adds pipeline.pairing config _ _).ended
      rw [appended]
      exact carries.finishes (underway.carried carries) (enough ▸ round)
  | spent underway => exact carries.spent (underway.carried carries)

end Session

end FaceAuth
