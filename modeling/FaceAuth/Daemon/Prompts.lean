import FaceAuth.Daemon.Freshness

/-!
# Prompts of a session

What the user was told last, and what there is to do: a session emits the prompt of
its challenge only when it changes, and the prompt to position the face each time. A
user who comes back to the same prompt therefore is not told it again.
-/

namespace FaceAuth

open Foundation

/-! ## Guidance -/

/-- What the user was told last, and what the pairs have shown so far. -/
structure Guidance where
  shown : Option ObservationProgress
  repositioned : Bool
  returned : Bool
  state : Option ChallengeProgress
deriving DecidableEq

namespace Guidance

/-- Nothing was asked of the user. -/
def start : Guidance := ⟨none, false, false, none⟩

/-- The last processed pair had to be repositioned or not, a pair had to be since the
challenge answered last, and what it answered. -/
def record (guidance : Guidance) : ObservationEvent → Guidance
  | .reported progress => { guidance with shown := some progress }
  | .processed _ (.error .retryPosition) =>
      { guidance with repositioned := true, returned := true }
  | .processed _ (.ok _) => { guidance with repositioned := false }
  | .challenged _ (.ok state) => { guidance with returned := false, state := some state }
  | _ => guidance

/-- The prompt for the situation. -/
def due (guidance : Guidance) : ObservationProgress :=
  match guidance.repositioned, guidance.state with
  | true, _ => .positionFace
  | false, none => .positionFace
  | false, some state => observationProgress state

/-- The prompt of the challenge, which answered before. -/
def asked (guidance : Guidance) : Option ObservationProgress :=
  guidance.state.map observationProgress

end Guidance

/-- What a history asks of the user. -/
def guidance (history : ObservationHistory) : Guidance := history.foldl Guidance.record .start

/-- One more event is taken after those before it. -/
@[simp] theorem guidance_concat (history : ObservationHistory) (event : ObservationEvent) :
    guidance (history ++ [event]) = (guidance history).record event := by
  rw [guidance, List.foldl_append]
  rfl

/-- Work in the background asks nothing. -/
theorem record_of_background {event : ObservationEvent} (background : event.IsBackground)
    (guidance : Guidance) : guidance.record event = guidance := by
  cases event <;> first | rfl | exact background.elim

/-- Work in the background leaves what is asked. -/
theorem guidance_background {history added : ObservationHistory}
    (background : ∀ event ∈ added, event.IsBackground) :
    guidance (history ++ added) = guidance history := by
  induction added using List.reverseRecOn with
  | nil => rw [List.append_nil]
  | append_singleton added event ih =>
      rw [← List.append_assoc, guidance_concat, record_of_background (background event (by simp)),
        ih fun other member => background other (List.mem_append_left _ member)]

/-- The challenge has passed. -/
def HasPassed (history : ObservationHistory) : Prop :=
  Occurs (fun _ event => ∃ pair, event = .challenged pair (.ok .passed)) history

/-- The user was told something else than there is to do. -/
def Misled (history : ObservationHistory) : Prop :=
  ¬ HasPassed history ∧ (guidance history).shown ≠ some (guidance history).due

/-- A pair was repositioned since the challenge answered last, and the prompt is the same. -/
def StaysSilent (history : ObservationHistory) (state : ChallengeProgress) : Prop :=
  state ≠ .passed ∧ (guidance history).returned = true ∧
    (guidance history).asked = some (observationProgress state)

/-- The challenge answered with the prompt of before to the first pair after a repositioned
one. -/
def Silenced (history : ObservationHistory) : Prop :=
  Occurs (fun before event => ∃ pair state, event = .challenged pair (.ok state) ∧
    StaysSilent before state) history

/-- A pair is captured where a fact holds. -/
def AtCapture (holds : ObservationHistory → Prop) (history : ObservationHistory) : Prop :=
  Occurs (fun before event => (∃ pair, event = .captured pair) ∧ holds before) history

/-- Neither a captured pair nor an answer of the challenge. -/
def ObservationEvent.IsAside : ObservationEvent → Prop
  | .captured _ | .challenged _ _ => False
  | _ => True

/-- Work in the background stands aside. -/
theorem ObservationEvent.IsBackground.aside {event : ObservationEvent}
    (background : event.IsBackground) : event.IsAside := by
  cases event <;> trivial

section Aside

variable {history added : ObservationHistory} {event : ObservationEvent}
  {holds : ObservationHistory → Prop}

/-- The challenge has passed by then, or passes with the event. -/
@[simp] theorem hasPassed_concat : HasPassed (history ++ [event]) ↔
    HasPassed history ∨ ∃ pair, event = .challenged pair (.ok .passed) := occurs_concat

/-- A prompt was left out by then, or is left out with the event. -/
@[simp] theorem silenced_concat : Silenced (history ++ [event]) ↔ Silenced history ∨
    ∃ pair state, event = .challenged pair (.ok state) ∧ StaysSilent history state :=
  occurs_concat

/-- It held at an earlier capture, or holds at this one. -/
@[simp] theorem atCapture_concat : AtCapture holds (history ++ [event]) ↔
    AtCapture holds history ∨ (∃ pair, event = .captured pair) ∧ holds history := occurs_concat

/-- What stands aside does not pass the challenge. -/
theorem hasPassed_aside (aside : ∀ event ∈ added, event.IsAside) :
    HasPassed (history ++ added) ↔ HasPassed history := by
  refine occurs_append_silent ?_ aside
  rintro event kind before ⟨pair, rfl⟩
  exact kind

/-- What stands aside leaves out no prompt. -/
theorem silenced_aside (aside : ∀ event ∈ added, event.IsAside) :
    Silenced (history ++ added) ↔ Silenced history := by
  refine occurs_append_silent ?_ aside
  rintro event kind before ⟨pair, state, rfl, -⟩
  exact kind

/-- What stands aside captures nothing. -/
theorem atCapture_aside (aside : ∀ event ∈ added, event.IsAside) :
    AtCapture holds (history ++ added) ↔ AtCapture holds history := by
  refine occurs_append_silent ?_ aside
  rintro event kind before ⟨⟨pair, rfl⟩, -⟩
  exact kind

/-- Work in the background misleads nobody. -/
theorem misled_background (background : ∀ event ∈ added, event.IsBackground) :
    Misled (history ++ added) ↔ Misled history := by
  unfold Misled
  rw [hasPassed_aside fun event member => (background event member).aside,
    guidance_background background]

/-- After the challenge nobody is misled. -/
theorem HasPassed.not_misled (passed : HasPassed history) : ¬ Misled history :=
  fun misled => misled.1 passed

end Aside

/-- What was left out at a capture stays left out. -/
theorem silenced_of_atCapture {history : ObservationHistory}
    (captured : AtCapture Silenced history) : Silenced history := by
  obtain ⟨before, event, after, rfl, -, silenced⟩ := captured
  exact silenced.append _

/-! ## From pair to pair -/

section Rounds

open ObservationEnvironment

variable {locals : Locals} {history added work rest : ObservationHistory} {pair : PairedFrames}

/-- What a session remembers fits what the user was told. -/
structure Remembers (locals : Locals) (history : ObservationHistory) : Prop where
  passed : locals.challengePassed = true ↔ HasPassed history
  asked : locals.challengePassed = false → locals.lastProgress = (guidance history).asked
  returned : locals.challengePassed = false →
    (guidance history).repositioned = (guidance history).returned
  position : locals.challengePassed = false → (guidance history).returned = true →
    (guidance history).shown = some .positionFace
  first : locals.challengePassed = false → (guidance history).state = none →
    (guidance history).shown = some .positionFace

/-- Before the next pair, the user is misled exactly where an answer was not told. -/
structure Guided (locals : Locals) (history : ObservationHistory) : Prop extends
    Remembers locals history where
  captures : AtCapture Misled history ↔ AtCapture Silenced history
  covers : AtCapture Misled history ∨ Misled history ↔ Silenced history

/-- With a pair captured. -/
structure Midway (locals : Locals) (history : ObservationHistory) : Prop extends
    Remembers locals history where
  silenced : AtCapture Silenced history ↔ Silenced history
  covers : AtCapture Misled history ↔ Silenced history
  told : Misled history → Silenced history

/-- A round is midway once its pair was admitted. -/
theorem Guided.midway (guided : Guided locals history) (quiet : AllQuiet work)
    (background : ∀ event ∈ rest, event.IsBackground) :
    Midway locals (history ++ (work ++ .captured pair :: .admitted pair :: rest)) := by
  have calm : ∀ event ∈ work, event.IsBackground := fun event member =>
    (quiet event member).background
  have early : ∀ event ∈ work, event.IsAside := fun event member => (calm event member).aside
  have late : ∀ event ∈ rest, event.IsAside := fun event member =>
    (background event member).aside
  have split : history ++ (work ++ .captured pair :: .admitted pair :: rest) =
      history ++ work ++ [.captured pair] ++ [.admitted pair] ++ rest := by simp
  have same : guidance (history ++ work ++ [.captured pair] ++ [.admitted pair] ++ rest) =
      guidance history := by
    rw [guidance_background background, guidance_concat, guidance_concat,
      guidance_background calm]
    rfl
  have passed : HasPassed (history ++ work ++ [.captured pair] ++ [.admitted pair] ++ rest) ↔
      HasPassed history := by
    simp only [hasPassed_aside late, hasPassed_concat, reduceCtorEq, exists_false, or_false]
    exact hasPassed_aside early
  have silenced : Silenced (history ++ work ++ [.captured pair] ++ [.admitted pair] ++ rest) ↔
      Silenced history := by
    simp only [silenced_aside late, silenced_concat, reduceCtorEq, false_and, exists_false,
      or_false]
    exact silenced_aside early
  have captures : ∀ holds : ObservationHistory → Prop,
      AtCapture holds (history ++ work ++ [.captured pair] ++ [.admitted pair] ++ rest) ↔
        AtCapture holds history ∨ holds (history ++ work) := by
    intro holds
    simp only [atCapture_aside late, atCapture_concat, reduceCtorEq, exists_false, false_and,
      or_false, ObservationEvent.captured.injEq, exists_eq', true_and]
    exact or_congr_left (atCapture_aside early)
  rw [split]
  refine { passed := ?_, asked := ?_, returned := ?_, position := ?_, first := ?_,
           silenced := ?_, covers := ?_, told := ?_ }
  · exact guided.passed.trans passed.symm
  · rw [same]
    exact guided.asked
  · rw [same]
    exact guided.returned
  · rw [same]
    exact guided.position
  · rw [same]
    exact guided.first
  · rw [captures, silenced_aside early, silenced]
    exact or_iff_right_of_imp silenced_of_atCapture
  · rw [captures, misled_background calm, silenced]
    exact guided.covers
  · rw [silenced, Misled, same, passed]
    exact fun misled => guided.covers.mp (.inr misled)

/-- Up to the next captured pair, where the user was misled is settled. -/
theorem Midway.captures (midway : Midway locals history)
    (aside : ∀ holds, AtCapture holds (history ++ added) ↔ AtCapture holds history) :
    AtCapture Misled (history ++ added) ↔ AtCapture Silenced (history ++ added) := by
  rw [aside, aside, midway.covers, midway.silenced]

/-- A pair that has to be repositioned is always told. -/
theorem Midway.repositioned (midway : Midway locals history) (identity : FreshPairIdentity) :
    Guided { locals with previousPair := some identity }
      (history ++ [.processed pair (.error .retryPosition), .reported .positionFace]) := by
  have split : history ++ [.processed pair (.error .retryPosition), .reported .positionFace] =
      history ++ [.processed pair (.error .retryPosition)] ++ [.reported .positionFace] := by simp
  have aside : ∀ event ∈ [ObservationEvent.processed pair (.error .retryPosition),
      .reported .positionFace], event.IsAside := by
    simp [ObservationEvent.IsAside]
  have same : guidance (history ++ [.processed pair (.error .retryPosition),
      .reported .positionFace]) =
      { guidance history with shown := some .positionFace, repositioned := true,
                              returned := true } := by
    rw [split, guidance_concat, guidance_concat]
    rfl
  refine { passed := ?_, asked := ?_, returned := ?_, position := ?_, first := ?_,
           captures := ?_, covers := ?_ }
  · exact midway.passed.trans (hasPassed_aside aside).symm
  · rw [same]
    exact midway.asked
  · rw [same]
    exact fun _ => rfl
  · rw [same]
    exact fun _ _ => rfl
  · rw [same]
    exact fun _ _ => rfl
  · exact midway.captures fun _ => atCapture_aside aside
  · have shown : ¬ Misled (history ++ [.processed pair (.error .retryPosition),
        .reported .positionFace]) := by
      intro misled
      rw [Misled, same] at misled
      exact misled.2 rfl
    rw [or_iff_left shown, atCapture_aside aside, silenced_aside aside]
    exact midway.covers

/-- After the challenge has passed, no prompt is due. -/
theorem Midway.watched (midway : Midway locals history) {next : Locals}
    (passed : next.challengePassed = true) (has : HasPassed (history ++ added))
    (captures : ∀ holds, AtCapture holds (history ++ added) ↔ AtCapture holds history)
    (silenced : Silenced (history ++ added) ↔ Silenced history) :
    Guided next (history ++ added) where
  passed := by simp [passed, has]
  asked waits := by simp [passed] at waits
  returned waits := by simp [passed] at waits
  position waits := by simp [passed] at waits
  first waits := by simp [passed] at waits
  captures := midway.captures captures
  covers := by
    rw [or_iff_left has.not_misled, captures, silenced]
    exact midway.covers

/-- No answer of the challenge is told as a prompt to position the face. -/
theorem observationProgress_ne_positionFace (state : ChallengeProgress) :
    observationProgress state ≠ .positionFace := by
  rcases state with _ | action | _ | _
  · nofun
  · cases action <;> nofun
  · nofun
  · nofun

/-- What the answer of the challenge to a pair with one face changes. -/
structure Answered (state : ChallengeProgress) (history after : ObservationHistory) : Prop where
  passed : HasPassed after ↔ HasPassed history
  becomes : guidance after =
    { guidance history with repositioned := false, returned := false, state := some state }
  silenced : Silenced after ↔ Silenced history ∨ (guidance history).returned = true ∧
    (guidance history).asked = some (observationProgress state)
  captures : ∀ holds, AtCapture holds after ↔ AtCapture holds history

/-- An answer to landmarks asks for what it says, unless it is silent. -/
theorem answered {state : ChallengeProgress} {landmarks : FacialLandmarks}
    (calm : ∀ event ∈ work, event.IsBackground) (goesOn : state ≠ .passed) :
    Answered state history (history ++ [.processed pair (.ok landmarks)] ++ work ++
      [.challenged pair (.ok state)]) := by
  have early : ∀ event ∈ work, event.IsAside := fun event member => (calm event member).aside
  have first : ∀ event ∈ [ObservationEvent.processed pair (.ok landmarks)], event.IsAside := by
    simp [ObservationEvent.IsAside]
  have before : guidance (history ++ [.processed pair (.ok landmarks)] ++ work) =
      { guidance history with repositioned := false } := by
    rw [guidance_background calm, guidance_concat]
    rfl
  constructor
  · rw [hasPassed_concat, hasPassed_aside early, hasPassed_aside first]
    refine or_iff_left ?_
    rintro ⟨other, same⟩
    cases same
    exact goesOn rfl
  · rw [guidance_concat, before]
    rfl
  · rw [silenced_concat, silenced_aside early, silenced_aside first]
    refine or_congr_right ⟨?_, fun ⟨returned, asked⟩ => ⟨pair, state, rfl, goesOn, ?_, ?_⟩⟩
    · rintro ⟨other, found, same, -, stays⟩
      cases same
      rw [before] at stays
      exact stays
    · rw [before]
      exact returned
    · rw [before]
      exact asked
  · intro holds
    simp only [atCapture_concat, atCapture_aside early, reduceCtorEq, exists_false, false_and,
      or_false]

/-- Where the prompt of the challenge is the same, the user is not told it again. -/
theorem Midway.unchanged (midway : Midway locals history) {next : Locals}
    {state : ChallengeProgress} {after : ObservationHistory}
    (answered : Answered state history after) (waits : locals.challengePassed = false)
    (same : locals.lastProgress = some (observationProgress state))
    (goes : next.challengePassed = false)
    (remembers : next.lastProgress = some (observationProgress state)) : Guided next after := by
  have asked : (guidance history).asked = some (observationProgress state) := by
    rw [← midway.asked waits, same]
  have unpassed : ¬ HasPassed history := by
    rw [← midway.passed, waits]
    exact Bool.false_ne_true
  have misled : Misled after ↔
      (guidance history).shown ≠ some (observationProgress state) := by
    rw [Misled, answered.passed, answered.becomes]
    exact and_iff_right unpassed
  have covers : Silenced history ∨
      (guidance history).shown ≠ some (observationProgress state) ↔
        Silenced history ∨ (guidance history).returned = true := by
    cases returned : (guidance history).returned with
    | true =>
        have told : (guidance history).shown ≠ some (observationProgress state) := by
          rw [midway.position waits returned]
          exact fun same => observationProgress_ne_positionFace state (Option.some.inj same).symm
        exact or_congr_right (iff_of_true told rfl)
    | false =>
        have due : (guidance history).due = observationProgress state := by
          have still := (midway.returned waits).trans returned
          obtain ⟨earlier, known, prompt⟩ := Option.map_eq_some_iff.mp asked
          unfold Guidance.due
          rw [still, known]
          exact prompt
        have told : (guidance history).shown ≠ some (observationProgress state) →
            Silenced history := by
          intro other
          rw [← due] at other
          exact midway.told ⟨unpassed, other⟩
        simpa using told
  refine { passed := ?_, asked := ?_, returned := ?_, position := ?_, first := ?_,
           captures := ?_, covers := ?_ }
  · rw [answered.passed]
    exact iff_of_false (by simp [goes]) unpassed
  · rw [answered.becomes, remembers]
    exact fun _ => rfl
  · rw [answered.becomes]
    exact fun _ => rfl
  · rw [answered.becomes]
    exact fun _ returned => (Bool.false_ne_true returned).elim
  · rw [answered.becomes]
    exact fun _ none => (Option.some_ne_none _ none).elim
  · rw [answered.captures, answered.captures, midway.covers, midway.silenced]
  · rw [answered.captures, midway.covers, answered.silenced, misled, covers, asked]
    exact or_congr_right (and_iff_left rfl).symm

/-- Another prompt of the challenge is told. -/
theorem Midway.prompted (midway : Midway locals history) {next : Locals}
    {state : ChallengeProgress} {after : ObservationHistory}
    (answered : Answered state history after) (waits : locals.challengePassed = false)
    (changed : locals.lastProgress ≠ some (observationProgress state))
    (goes : next.challengePassed = false)
    (remembers : next.lastProgress = some (observationProgress state)) :
    Guided next (after ++ [.reported (observationProgress state)]) := by
  have aside : ∀ event ∈ [ObservationEvent.reported (observationProgress state)],
      event.IsAside := by
    simp [ObservationEvent.IsAside]
  have unpassed : ¬ HasPassed history := by
    rw [← midway.passed, waits]
    exact Bool.false_ne_true
  have same : guidance (after ++ [.reported (observationProgress state)]) =
      { guidance history with shown := some (observationProgress state), repositioned := false,
                              returned := false, state := some state } := by
    rw [guidance_concat, answered.becomes]
    rfl
  have shown : ¬ Misled (after ++ [.reported (observationProgress state)]) := by
    intro misled
    rw [Misled, same] at misled
    exact misled.2 rfl
  have silenced : Silenced (after ++ [.reported (observationProgress state)]) ↔
      Silenced history := by
    rw [silenced_aside aside, answered.silenced]
    refine or_iff_left fun ⟨_, asked⟩ => changed ?_
    rw [midway.asked waits, asked]
  refine { passed := ?_, asked := ?_, returned := ?_, position := ?_, first := ?_,
           captures := ?_, covers := ?_ }
  · rw [hasPassed_aside aside, answered.passed]
    exact iff_of_false (by simp [goes]) unpassed
  · rw [same, remembers]
    exact fun _ => rfl
  · rw [same]
    exact fun _ => rfl
  · rw [same]
    exact fun _ returned => (Bool.false_ne_true returned).elim
  · rw [same]
    exact fun _ none => (Option.some_ne_none _ none).elim
  · rw [atCapture_aside aside, atCapture_aside aside, answered.captures, answered.captures,
      midway.covers, midway.silenced]
  · rw [or_iff_left shown, atCapture_aside aside, answered.captures, silenced, midway.covers]

variable {Value : Type} {environment : ObservationEnvironment Value} {config : ChallengeConfig}
  {landmarks : FacialLandmarks}
  {result : Except ObservationFailure (ObservationEnvironment.Locals ⊕ Value)}

/-- Quiet work goes on in the background. -/
theorem ObservationEnvironment.AllQuiet.background (quiet : AllQuiet work) :
    ∀ event ∈ work, event.IsBackground :=
  fun event member => (quiet event member).background

/-- Quiet work stands aside. -/
theorem ObservationEnvironment.AllQuiet.aside (quiet : AllQuiet work) :
    ∀ event ∈ work, event.IsAside :=
  fun event member => (quiet event member).background.aside

/-- Deriving an observation neither captures a pair nor asks the challenge. -/
theorem observed_aside (observed : environment.Observed locals pair history result added) :
    (∀ event ∈ added, event.IsAside) ∧
      ∀ next, result = .ok (.inl next) → next.challengePassed = locals.challengePassed := by
  cases observed with
  | underived quiet failure =>
      refine ⟨?_, by simp⟩
      simpa [ObservationEvent.IsAside] using quiet.aside
  | handed quiet timing last =>
      refine ⟨?_, fun next given => ?_⟩
      · simpa [ObservationEvent.IsAside, or_imp, forall_and] using quiet.aside
      · rw [given] at last
        split at last <;> simp at last
  | continues quiet timing left told =>
      refine ⟨?_, fun next given => ?_⟩
      · simpa [ObservationEvent.IsAside, or_imp, forall_and] using quiet.aside
      · cases next_of_told told given
        rfl

/-- What becomes of a pair with one face captures no further pair, and guides the user. -/
theorem Midway.judged (midway : Midway locals history) {earlier : ObservationHistory}
    (judged : environment.Judged config locals pair landmarks earlier result added) :
    (∀ holds, AtCapture holds (history ++ .processed pair (.ok landmarks) :: added) ↔
      AtCapture holds history) ∧
    ∀ next, result = .ok (.inl next) →
      Guided next (history ++ .processed pair (.ok landmarks) :: added) := by
  have first : ∀ {rest : ObservationHistory}, (∀ event ∈ rest, event.IsAside) →
      ∀ event ∈ ObservationEvent.processed pair (.ok landmarks) :: rest, event.IsAside :=
    fun aside => List.forall_mem_cons.mpr ⟨trivial, aside⟩
  cases judged with
  | observes passed observed =>
      obtain ⟨aside, same⟩ := observed_aside observed
      refine ⟨fun holds => atCapture_aside (first aside), fun next given => ?_⟩
      refine midway.watched ((same next given).trans passed) ?_
        (fun holds => atCapture_aside (first aside)) (silenced_aside (first aside))
      rw [hasPassed_aside (first aside)]
      exact midway.passed.mp passed
  | unbegun waits quiet failure =>
      exact ⟨fun holds => atCapture_aside (first quiet.aside), by simp⟩
  | @rejected work rest error waits quiet quietly failure =>
      refine ⟨fun holds => ?_, by simp⟩
      have split : history ++ .processed pair (.ok landmarks) ::
          (work ++ .challenged pair (.error error) :: rest) =
          history ++ .processed pair (.ok landmarks) :: work ++
            [.challenged pair (.error error)] ++ rest := by simp
      rw [split, atCapture_aside quietly.aside, atCapture_concat,
        atCapture_aside (first quiet.aside)]
      simp
  | @unchanged work state challenge waits quiet offered goesOn same =>
      have reply : Answered state history (history ++ [.processed pair (.ok landmarks)] ++ work ++
          [.challenged pair (.ok state)]) :=
        answered quiet.background goesOn
      have split : history ++ .processed pair (.ok landmarks) ::
          (work ++ [.challenged pair (.ok state)]) =
          history ++ [.processed pair (.ok landmarks)] ++ work ++
            [.challenged pair (.ok state)] := by simp
      rw [split]
      refine ⟨reply.captures, fun next given => ?_⟩
      cases given
      exact midway.unchanged reply waits same waits same
  | @prompted work state challenge _ waits quiet offered goesOn changed told =>
      have reply : Answered state history (history ++ [.processed pair (.ok landmarks)] ++ work ++
          [.challenged pair (.ok state)]) :=
        answered quiet.background goesOn
      have split : history ++ .processed pair (.ok landmarks) ::
          (work ++ [.challenged pair (.ok state), .reported (observationProgress state)]) =
          history ++ [.processed pair (.ok landmarks)] ++ work ++
            [.challenged pair (.ok state)] ++ [.reported (observationProgress state)] := by simp
      rw [split]
      refine ⟨fun holds => ?_, fun next given => ?_⟩
      · rw [atCapture_concat, reply.captures]
        simp
      · cases next_of_told told given
        exact midway.prompted reply waits changed waits rfl
  | @passes work added challenge _ waits quiet offered observed =>
      obtain ⟨aside, same⟩ := observed_aside observed
      have split : history ++ .processed pair (.ok landmarks) ::
          (work ++ .challenged pair (.ok .passed) :: added) =
          history ++ .processed pair (.ok landmarks) :: work ++
            [.challenged pair (.ok .passed)] ++ added := by simp
      have captures : ∀ holds, AtCapture holds (history ++ .processed pair (.ok landmarks) ::
          (work ++ .challenged pair (.ok .passed) :: added)) ↔ AtCapture holds history := by
        intro holds
        rw [split, atCapture_aside aside, atCapture_concat, atCapture_aside (first quiet.aside)]
        simp
      refine ⟨captures, fun next given => midway.watched (same next given) ?_ captures ?_⟩
      · rw [split, hasPassed_aside aside, hasPassed_concat]
        exact .inr ⟨pair, rfl⟩
      · rw [split, silenced_aside aside, silenced_concat, silenced_aside (first quiet.aside)]
        refine or_iff_left ?_
        rintro ⟨other, state, same, goesOn, -⟩
        cases same
        exact goesOn rfl

/-- Each round keeps the user guided, and an end comes before the next captured pair. -/
theorem Guided.round (guided : Guided locals history)
    (round : environment.Round config locals history result added) :
    (AtCapture Misled (history ++ added) ↔ AtCapture Silenced (history ++ added)) ∧
      ∀ next, result = .ok (.inl next) → Guided next (history ++ added) := by
  cases round with
  | unpaired quiet failure =>
      rw [atCapture_aside quiet.aside, atCapture_aside quiet.aside]
      exact ⟨guided.captures, by simp⟩
  | @stale work pair _ quiet remembered old =>
      refine ⟨?_, by simp⟩
      rw [← List.append_assoc, atCapture_concat, atCapture_concat, atCapture_aside quiet.aside,
        atCapture_aside quiet.aside, misled_background quiet.background, silenced_aside quiet.aside]
      simp only [ObservationEvent.captured.injEq, exists_eq', true_and]
      rw [guided.covers]
      exact (or_iff_right_of_imp silenced_of_atCapture).symm
  | @unprocessed work rest pair failure quiet fresh background =>
      have midway : Midway locals (history ++ (work ++ .captured pair :: .admitted pair :: rest)) :=
        guided.midway quiet background
      rw [← List.append_assoc]
      refine ⟨midway.captures fun holds => ?_, by simp⟩
      exact atCapture_aside (by simp [ObservationEvent.IsAside])
  | @repositioned work rest pair faces _ quiet fresh background detected sent told =>
      have midway : Midway locals (history ++ (work ++ .captured pair :: .admitted pair :: rest)) :=
        guided.midway quiet background
      rw [← List.append_assoc]
      refine ⟨(midway.repositioned (.fromPair pair)).captures, fun next given => ?_⟩
      cases next_of_told told given
      exact midway.repositioned (.fromPair pair)
  | @positioned work rest later pair landmarks _ quiet fresh background detected kept judged =>
      have midway : Midway { locals with previousPair := some (.fromPair pair) }
          (history ++ (work ++ .captured pair :: .admitted pair :: rest)) :=
        { guided.midway quiet background with }
      rw [← List.append_assoc]
      obtain ⟨captures, guides⟩ := midway.judged judged
      exact ⟨midway.captures captures, guides⟩

/-- Every round of a run asks as it was guided to. -/
theorem carries_guided (environment : ObservationEnvironment Value) (config : ChallengeConfig) :
    Carries environment config (fun _ locals history => Guided locals history)
      (fun _ history => AtCapture Misled history ↔ AtCapture Silenced history) := by
  have never : ∀ {holds work}, AllQuiet work → ¬ AtCapture holds work := by
    intro holds work quiet captured
    rw [← List.nil_append work, atCapture_aside quiet.aside] at captured
    exact occurs_nil captured
  have started : ∀ {work}, AllQuiet work → Guided .start (work ++ [.reported .positionFace]) := by
    intro work quiet
    have shown : guidance (work ++ [.reported .positionFace]) =
        ⟨some .positionFace, false, false, none⟩ := by
      rw [guidance_concat, ← List.nil_append work, guidance_background quiet.background]
      rfl
    have silenced : ¬ Silenced (work ++ [.reported .positionFace]) := by
      rw [silenced_concat, ← List.nil_append work, silenced_aside quiet.aside]
      simp [Silenced, occurs_nil]
    have unpassed : ¬ HasPassed (work ++ [.reported .positionFace]) := by
      rw [hasPassed_concat, ← List.nil_append work, hasPassed_aside quiet.aside]
      simp [HasPassed, occurs_nil]
    have uncaptured : ∀ holds, ¬ AtCapture holds (work ++ [.reported .positionFace]) := by
      intro holds
      simp [never quiet]
    refine { passed := ?_, asked := ?_, returned := ?_, position := ?_, first := ?_,
             captures := ?_, covers := ?_ }
    · exact iff_of_false Bool.false_ne_true unpassed
    · rw [shown]
      exact fun _ => rfl
    · rw [shown]
      exact fun _ => rfl
    · rw [shown]
      exact fun _ _ => rfl
    · rw [shown]
      exact fun _ _ => rfl
    · exact iff_of_false (uncaptured _) (uncaptured _)
    · refine iff_of_false ?_ silenced
      rintro (captured | ⟨-, other⟩)
      · exact uncaptured _ captured
      · rw [shown] at other
        exact other rfl
  constructor
  · intro failure work quiet
    exact ⟨iff_of_false (never quiet) (never quiet), (started quiet).captures⟩
  · intro work quiet
    exact started quiet
  · intro remaining locals history next added guided round
    exact (guided.round round).2 next rfl
  · intro remaining locals history failure added guided round
    exact (guided.round round).1
  · intro remaining locals history value added guided round
    exact (guided.round round).1
  · intro locals history guided
    rw [atCapture_concat, atCapture_concat]
    simpa using guided.captures

end Rounds

/-! ## What the user is told when -/

/-- Wherever a pair is captured before the challenge has passed, the user was told last what
there is to do. -/
def PromptsFaithful (history : ObservationHistory) : Prop :=
  ∀ before pair after, history = before ++ .captured pair :: after → ¬ HasPassed before →
    (guidance before).shown = some (guidance before).due

/-- Wherever a pair is captured, the challenge has answered to the first pair after each
repositioned one with a new prompt. -/
def PromptsRenewed (history : ObservationHistory) : Prop :=
  ∀ before pair after, history = before ++ .captured pair :: after →
    ∀ early other state late, before = early ++ .challenged other (.ok state) :: late →
      ¬ StaysSilent early state

/-- Prompts are faithful when nobody was misled at a capture. -/
theorem promptsFaithful_iff {history : ObservationHistory} :
    PromptsFaithful history ↔ ¬ AtCapture Misled history := by
  constructor
  · intro faithful captured
    obtain ⟨before, event, after, same, ⟨pair, rfl⟩, unpassed, other⟩ := captured
    exact other (faithful before pair after same unpassed)
  · intro never before pair after same unpassed
    by_contra other
    exact never ⟨before, _, after, same, ⟨pair, rfl⟩, unpassed, other⟩

/-- Prompts are renewed when none was left out at a capture. -/
theorem promptsRenewed_iff {history : ObservationHistory} :
    PromptsRenewed history ↔ ¬ AtCapture Silenced history := by
  constructor
  · intro renewed captured
    obtain ⟨before, event, after, same, ⟨pair, rfl⟩, silenced⟩ := captured
    obtain ⟨early, answer, late, split, other, state, rfl, stays⟩ := silenced
    exact renewed before pair after same early other state late split stays
  · intro never before pair after same early other state late split stays
    exact never ⟨before, _, after, same, ⟨pair, rfl⟩, early, _, late, split, other, state, rfl,
      stays⟩

/-- The passing answer of the challenge. -/
def ObservationEvent.isPass : ObservationEvent → Bool
  | .challenged _ (.ok .passed) => true
  | _ => false

/-- That the challenge has passed can be read off the events. -/
theorem hasPassed_iff {history : ObservationHistory} :
    HasPassed history ↔ ∃ event ∈ history, event.isPass = true := by
  constructor
  · intro passed
    obtain ⟨before, event, after, rfl, pair, rfl⟩ := passed
    exact ⟨.challenged pair (.ok .passed), by simp, rfl⟩
  · intro some
    obtain ⟨event, member, pass⟩ := some
    obtain ⟨before, after, rfl⟩ := List.append_of_mem member
    refine ⟨before, event, after, rfl, ?_⟩
    unfold ObservationEvent.isPass at pass
    split at pass
    · exact ⟨_, rfl⟩
    · cases pass

instance (history : ObservationHistory) : Decidable (HasPassed history) :=
  decidable_of_iff' _ hasPassed_iff

/-- The pair of a captured event. -/
def ObservationEvent.captured? : ObservationEvent → Option PairedFrames
  | .captured pair => some pair
  | _ => none

/-- The pair that an event captures. -/
theorem captured?_eq_some_iff {event : ObservationEvent} {pair : PairedFrames} :
    event.captured? = some pair ↔ event = .captured pair := by
  cases event <;> simp [ObservationEvent.captured?]

/-- The user was told last what there is to do, wherever the next event captures a pair. -/
theorem PromptsFaithful.told {history : ObservationHistory} (faithful : PromptsFaithful history)
    (moment : Nat) (captures : (history[moment]?.bind ObservationEvent.captured?).isSome)
    (unpassed : ¬ HasPassed (history.take moment)) :
    (guidance (history.take moment)).shown = some (guidance (history.take moment)).due := by
  obtain ⟨pair, known⟩ := Option.isSome_iff_exists.mp captures
  obtain ⟨event, found, isCaptured⟩ := Option.bind_eq_some_iff.mp known
  obtain ⟨inside, rfl⟩ := List.getElem?_eq_some_iff.mp found
  refine faithful (history.take moment) pair (history.drop (moment + 1)) ?_ unpassed
  rw [← captured?_eq_some_iff.mp isCaptured, ← List.drop_eq_getElem_cons inside,
    List.take_append_drop]

/-- A user with closed eyes, who leaves the picture for the second pair. -/
def returningEnvironment : ObservationEnvironment Unit where
  cancelled _ := false
  stream _ _ := .ok ()
  frame camera history :=
    let reads := history.countP fun
      | .read other => camera = other
      | _ => false
    if reads < 4 then
      .ok (replayFrame camera (if camera = .infrared then .gray8 else .yuyv)
        (1_000_000 + 30_000 * reads) (.ofNat (reads + 1)))
    else .error (.frameTimeout "/dev/video0")
  rows _ _ := 0
  work _ _ := .ok ()
  faces history :=
    .ok (if history.countP (fun | .captured _ => true | _ => false) = 2 then 0 else 1)
  landmarks _ := .ok ⟨0.1, 0.0⟩
  quality _ := .error .invalidComputation
  embedding _ := .error .embeddingInvalid
  passiveLiveness _ _ := .error .passiveLivenessOutputInvalid
  random _ := .ok .blink
  progress _ _ := .ok ()
  observe _ _ := .ok none

end FaceAuth
