import FaceAuth.Daemon.Rounds
import FaceAuth.Liveness.Soundness

/-!
# Freshness of camera frames

Both freshness checks compare the later of the two timestamps of a pair, and ask
of the sequence numbers only that they differ from the last ones. A frame of one
camera that goes back in time is therefore masked by a frame of the other camera
that is later than both frames of the pair before. Cameras that give their
frames in order never do that.
-/

namespace FaceAuth

open Foundation

/-- One frame as its driver tells it apart. -/
structure DriverFrame where
  camera : CaptureModality
  sequence : UInt32
  timestampMicros : Nat
deriving DecidableEq, Repr

/-- What is known of the two frames of a pair. -/
structure PairReading where
  timing : CapturePair
  infraredSequence : UInt32
  visibleSequence : UInt32
deriving DecidableEq, Repr

/-- The two frames of a reading. -/
def PairReading.frames (reading : PairReading) : List DriverFrame :=
  ⟨.infrared, reading.infraredSequence, reading.timing.infraredTimestampMicros⟩ ::
    (reading.timing.visibleTimestampMicros.map
      (DriverFrame.mk .visible reading.visibleSequence)).toList

/-- What is read of a captured pair. -/
def PairedFrames.reading (pair : PairedFrames) : PairReading where
  timing := pair.timing
  infraredSequence := pair.infrared.summary.sequence
  visibleSequence := pair.visible.summary.sequence

/-- What is read of an observation. -/
def ChallengeObservation.reading (observation : ChallengeObservation) : PairReading where
  timing := observation.timing
  infraredSequence := observation.infraredSequence
  visibleSequence := observation.visibleSequence

namespace PairReading

/-- The infrared frame of the next pair is later. -/
def InfraredLater (earlier next : PairReading) : Prop :=
  earlier.timing.infraredTimestampMicros < next.timing.infraredTimestampMicros

/-- Both pairs have a visible frame, and that of the next pair is later. -/
def VisibleLater (earlier next : PairReading) : Prop :=
  match earlier.timing.visibleTimestampMicros, next.timing.visibleTimestampMicros with
  | some first, some second => first < second
  | _, _ => False

/-- Of each camera, both pairs hold the same driver frame, or the next pair a later one. -/
def InOrder (earlier next : PairReading) : Prop :=
  (earlier.infraredSequence = next.infraredSequence ∨ earlier.InfraredLater next) ∧
    (earlier.visibleSequence = next.visibleSequence ∨
      ∀ first ∈ earlier.timing.visibleTimestampMicros,
        ∀ second ∈ next.timing.visibleTimestampMicros, first < second)

/-- One camera gives the next pair another frame that is not later, and the other camera a
frame that is later than both frames before. -/
def Masked (earlier next : PairReading) : Prop :=
  earlier.infraredSequence ≠ next.infraredSequence ∧
    earlier.visibleSequence ≠ next.visibleSequence ∧
    ∃ first ∈ earlier.timing.visibleTimestampMicros,
      ∃ second ∈ next.timing.visibleTimestampMicros,
        (next.timing.infraredTimestampMicros ≤ earlier.timing.infraredTimestampMicros ∧
          earlier.timing.infraredTimestampMicros < second ∧ first < second) ∨
        (second ≤ first ∧ first < next.timing.infraredTimestampMicros ∧
          earlier.timing.infraredTimestampMicros < next.timing.infraredTimestampMicros)

/-- Each camera gives the next pair a later frame. -/
def BothLater (earlier next : PairReading) : Prop :=
  earlier.InfraredLater next ∧ earlier.VisibleLater next

instance (earlier next : PairReading) : Decidable (earlier.InfraredLater next) :=
  inferInstanceAs (Decidable (_ < _))

instance (earlier next : PairReading) : Decidable (earlier.InOrder next) :=
  inferInstanceAs (Decidable ((_ ∨ _) ∧ (_ ∨ ∀ first ∈ _, ∀ second ∈ _, _)))

instance (earlier next : PairReading) : Decidable (earlier.VisibleLater next) := by
  unfold VisibleLater
  split <;> infer_instance

instance (earlier next : PairReading) : Decidable (earlier.BothLater next) :=
  inferInstanceAs (Decidable (_ ∧ _))

/-- A visible frame is later when both are stamped, in this order. -/
theorem visibleLater_iff {earlier next : PairReading} :
    earlier.VisibleLater next ↔ ∃ first second,
      earlier.timing.visibleTimestampMicros = some first ∧
        next.timing.visibleTimestampMicros = some second ∧ first < second := by
  unfold VisibleLater
  cases earlier.timing.visibleTimestampMicros <;> cases next.timing.visibleTimestampMicros <;> simp

/-- Frames in order are not masked. -/
theorem InOrder.not_masked {earlier next : PairReading} (inOrder : earlier.InOrder next) :
    ¬ earlier.Masked next := by
  rintro ⟨infraredOther, visibleOther, first, began, second, ends, infraredBack | visibleBack⟩
  · exact Nat.not_lt.mpr infraredBack.1 (inOrder.1.resolve_left infraredOther)
  · exact Nat.not_lt.mpr visibleBack.1 (inOrder.2.resolve_left visibleOther first began second ends)

/-- Being later goes on from one to the next. -/
theorem VisibleLater.trans {first second third : PairReading} (left : first.VisibleLater second)
    (right : second.VisibleLater third) : first.VisibleLater third := by
  rw [visibleLater_iff] at *
  obtain ⟨early, middle, began, at_, before⟩ := left
  obtain ⟨same, late, also, ends, after⟩ := right
  rw [at_, Option.some.injEq] at also
  exact ⟨early, late, began, ends, by omega⟩

instance : Trans BothLater BothLater BothLater where
  trans left right := ⟨Nat.lt_trans left.1 right.1, left.2.trans right.2⟩

/-- Later frames are other frames. -/
theorem BothLater.frames {earlier next : PairReading} (later : earlier.BothLater next) :
    ∀ frame ∈ next.frames, frame ∉ earlier.frames := by
  obtain ⟨infrared, visible⟩ := later
  obtain ⟨first, second, began, ends, before⟩ := visibleLater_iff.mp visible
  unfold InfraredLater at infrared
  intro frame inNext inEarlier
  simp only [PairReading.frames, began, ends, Option.map_some, Option.toList_some,
    List.mem_cons, List.not_mem_nil, or_false] at inNext inEarlier
  rcases inNext with rfl | rfl <;> simp at inEarlier <;> omega

end PairReading

/-- The frames of each camera are later from pair to pair, and no frame comes twice. -/
structure CameraFreshness (readings : List PairReading) : Prop where
  infrared : readings.Pairwise PairReading.InfraredLater
  visible : readings.Pairwise PairReading.VisibleLater
  once : readings.Pairwise fun earlier next => ∀ frame ∈ next.frames, frame ∉ earlier.frames

/-- Freshness of both cameras is an order of neighbours. -/
theorem cameraFreshness_iff {readings : List PairReading} :
    CameraFreshness readings ↔ readings.IsChain PairReading.BothLater := by
  rw [List.isChain_iff_pairwise]
  constructor
  · intro fresh
    exact (List.pairwise_and_iff.mpr ⟨fresh.infrared, fresh.visible⟩)
  · intro later
    obtain ⟨infrared, visible⟩ := List.pairwise_and_iff.mp later
    exact ⟨infrared, visible, later.imp fun both => both.frames⟩

/-! ## The pairs of a session -/

/-- The pairs that a session captured, admitted as fresh, offered to its challenge, and
handed on as derived observations. -/
structure PairHistory where
  captured : List PairedFrames
  admitted : List PairedFrames
  challenged : List PairedFrames
  observed : List PairedFrames

/-- Nothing was captured, admitted or used. -/
def PairHistory.empty : PairHistory := ⟨[], [], [], []⟩

/-- What one event adds. -/
def PairHistory.record (pairs : PairHistory) : ObservationEvent → PairHistory
  | .captured pair => { pairs with captured := pairs.captured ++ [pair] }
  | .admitted pair => { pairs with admitted := pairs.admitted ++ [pair] }
  | .challenged pair _ => { pairs with challenged := pairs.challenged ++ [pair] }
  | .observed pair _ => { pairs with observed := pairs.observed ++ [pair] }
  | _ => pairs

/-- What a history says of its pairs. -/
def pairHistory (history : ObservationHistory) : PairHistory :=
  history.foldl PairHistory.record .empty

/-- An event is recorded after those before it. -/
@[simp] theorem pairHistory_append (history : ObservationHistory) (event : ObservationEvent) :
    pairHistory (history ++ [event]) = (pairHistory history).record event := by
  simp [pairHistory]

/-- No frame of either camera is used in two admitted pairs, and only admitted pairs are
used, each once. -/
structure FreshUse (pairs : PairHistory) : Prop where
  admitted : CameraFreshness (pairs.admitted.map PairedFrames.reading)
  challenged : pairs.challenged.Sublist pairs.admitted
  observed : pairs.observed.Sublist pairs.admitted

/-! ## One pair -/

/-- What becomes of one pair after the freshness check: at most the challenge and the
callback see it, each at most once. -/
structure Consumes (pair : PairedFrames) (before after : PairHistory) : Prop where
  captured : after.captured = before.captured
  admitted : after.admitted = before.admitted
  challenged : after.challenged = before.challenged ∨
    after.challenged = before.challenged ++ [pair]
  observed : after.observed = before.observed ∨ after.observed = before.observed ++ [pair]

section Record

variable {Value : Type} {environment : ObservationEnvironment Value} {config : ChallengeConfig}
  {locals : ObservationEnvironment.Locals} {pair : PairedFrames} {landmarks : FacialLandmarks}
  {history added work : ObservationHistory}
  {result : Except ObservationFailure (ObservationEnvironment.Locals ⊕ Value)}

/-- Work in the background records nothing. -/
theorem record_background (background : ∀ event ∈ work, event.IsBackground)
    (pairs : PairHistory) : work.foldl PairHistory.record pairs = pairs := by
  induction work with
  | nil => rfl
  | cons event work ih =>
      have same : pairs.record event = pairs := by
        have known := background event (List.mem_cons_self ..)
        cases event <;> first | rfl | exact known.elim
      rw [List.foldl_cons, same]
      exact ih fun other member => background other (.tail _ member)

/-- Quiet work records nothing. -/
theorem record_quiet (quiet : ObservationEnvironment.AllQuiet work) (pairs : PairHistory) :
    work.foldl PairHistory.record pairs = pairs :=
  record_background (fun event member => (quiet event member).background) pairs

/-- Histories are recorded one after the other. -/
theorem pairHistory_concat (history added : ObservationHistory) :
    pairHistory (history ++ added) = added.foldl PairHistory.record (pairHistory history) :=
  List.foldl_append

/-- Deriving an observation hands at most this pair to the callback. -/
theorem observed_pairs (observed : environment.Observed locals pair history result added)
    (pairs : PairHistory) :
    (added.foldl PairHistory.record pairs = pairs ∨ added.foldl PairHistory.record pairs =
      { pairs with observed := pairs.observed ++ [pair] }) ∧
    ∀ next, result = .ok (.inl next) → next.previousPair = locals.previousPair := by
  cases observed with
  | underived quiet failure => exact ⟨.inl (record_quiet quiet pairs), by simp⟩
  | handed quiet timing last =>
      refine ⟨.inr ?_, fun next given => ?_⟩
      · simp [record_quiet quiet, PairHistory.record]
      · rw [given] at last
        split at last <;> simp at last
  | continues quiet timing left told =>
      refine ⟨.inr ?_, fun next given => ?_⟩
      · simp [record_quiet quiet, PairHistory.record]
      · cases next_of_told told given
        rfl

/-- Judging a pair consumes at most this pair. -/
theorem judged_pairs (judged : environment.Judged config locals pair landmarks history result added)
    (pairs : PairHistory) :
    Consumes pair pairs (added.foldl PairHistory.record pairs) ∧
      ∀ next, result = .ok (.inl next) → next.previousPair = locals.previousPair := by
  cases judged with
  | observes passed observed =>
      obtain ⟨same | same, kept⟩ := observed_pairs observed pairs <;> rw [same]
      · exact ⟨⟨rfl, rfl, .inl rfl, .inl rfl⟩, kept⟩
      · exact ⟨⟨rfl, rfl, .inl rfl, .inr rfl⟩, kept⟩
  | unbegun waits quiet failure =>
      rw [record_quiet quiet]
      exact ⟨⟨rfl, rfl, .inl rfl, .inl rfl⟩, by simp⟩
  | rejected waits quiet quietly failure =>
      rw [List.foldl_append, List.foldl_cons, record_quiet quiet, record_quiet quietly]
      exact ⟨⟨rfl, rfl, .inr rfl, .inl rfl⟩, by simp⟩
  | unchanged waits quiet offered goesOn same =>
      rw [List.foldl_append, record_quiet quiet]
      refine ⟨⟨rfl, rfl, .inr rfl, .inl rfl⟩, fun next given => ?_⟩
      cases given
      rfl
  | prompted waits quiet offered goesOn changed told =>
      rw [List.foldl_append, record_quiet quiet]
      refine ⟨⟨rfl, rfl, .inr rfl, .inl rfl⟩, fun next given => ?_⟩
      cases next_of_told told given
      rfl
  | passes waits quiet offered observed =>
      rw [List.foldl_append, List.foldl_cons, record_quiet quiet]
      obtain ⟨same | same, kept⟩ := observed_pairs observed (pairs.record (.challenged pair _)) <;>
        rw [same]
      · exact ⟨⟨rfl, rfl, .inr rfl, .inl rfl⟩, kept⟩
      · exact ⟨⟨rfl, rfl, .inr rfl, .inr rfl⟩, kept⟩

end Record

/-! ## The whole session -/

/-- The next pair passes the freshness check after this one. -/
def FreshPair (earlier next : PairedFrames) : Prop :=
  (FreshPairIdentity.fromPair next).IsFreshAfter (.fromPair earlier)

/-- Between two pairs, every captured pair was admitted, each fresh after the one before. -/
structure Sound (previous : Option FreshPairIdentity) (pairs : PairHistory) : Prop where
  captured : pairs.captured = pairs.admitted
  previous : previous = pairs.admitted.getLast?.map FreshPairIdentity.fromPair
  fresh : pairs.admitted.IsChain FreshPair
  challenged : pairs.challenged.Sublist pairs.admitted
  observed : pairs.observed.Sublist pairs.admitted

/-- At the end at most the last captured pair was not admitted, and it was not fresh. -/
structure Ended (pairs : PairHistory) : Prop where
  captured : pairs.captured = pairs.admitted ∨ ∃ last stale,
    pairs.admitted.getLast? = some last ∧ ¬ FreshPair last stale ∧
      pairs.captured = pairs.admitted ++ [stale]
  fresh : pairs.admitted.IsChain FreshPair
  challenged : pairs.challenged.Sublist pairs.admitted
  observed : pairs.observed.Sublist pairs.admitted

/-- The pair is the first one, or fresh after the last. -/
def Admits (previous : Option FreshPairIdentity) (pair : PairedFrames) : Prop :=
  ∀ identity ∈ previous, (FreshPairIdentity.fromPair pair).IsFreshAfter identity

namespace Sound

variable {previous : Option FreshPairIdentity} {pairs after : PairHistory} {pair : PairedFrames}

/-- The pairs of a run are sound when it ends. -/
theorem ended (sound : Sound previous pairs) : Ended pairs where
  captured := .inl sound.captured
  fresh := sound.fresh
  challenged := sound.challenged
  observed := sound.observed

/-- A stale pair ends the session. -/
theorem stale (sound : Sound previous pairs) (refused : ¬ Admits previous pair) :
    Ended { pairs with captured := pairs.captured ++ [pair] } where
  captured := by
    rw [Admits, sound.previous] at refused
    push Not at refused
    obtain ⟨identity, last, old⟩ := refused
    obtain ⟨before, found, rfl⟩ := Option.map_eq_some_iff.mp last
    exact .inr ⟨before, pair, found, old, by rw [sound.captured]⟩
  fresh := sound.fresh
  challenged := sound.challenged
  observed := sound.observed

/-- A fresh pair is admitted, and consumed at most once. -/
theorem admitted (sound : Sound previous pairs) (fresh : Admits previous pair)
    (used : Consumes pair
      { pairs with captured := pairs.captured ++ [pair], admitted := pairs.admitted ++ [pair] }
      after) : Sound (some (.fromPair pair)) after := by
  obtain ⟨captured, admitted, challenged, observed⟩ := used
  constructor
  · rw [captured, admitted, sound.captured]
  · rw [admitted, List.getLast?_concat]
    rfl
  · rw [admitted, List.isChain_append]
    refine ⟨sound.fresh, .singleton pair, fun last found next head => ?_⟩
    cases head
    rw [Admits, sound.previous] at fresh
    exact fresh _ (Option.map_eq_some_iff.mpr ⟨last, found, rfl⟩)
  · rw [admitted]
    rcases challenged with same | same <;> rw [same]
    · exact sound.challenged.trans (List.sublist_append_left _ _)
    · exact sound.challenged.append (.refl _)
  · rw [admitted]
    rcases observed with same | same <;> rw [same]
    · exact sound.observed.trans (List.sublist_append_left _ _)
    · exact sound.observed.append (.refl _)

end Sound

/-- Each round keeps the session sound, or ends it. -/
theorem Sound.round {Value : Type} {environment : ObservationEnvironment Value}
    {config : ChallengeConfig} {locals : ObservationEnvironment.Locals} {pairs : PairHistory}
    {history added : ObservationHistory}
    {result : Except ObservationFailure (ObservationEnvironment.Locals ⊕ Value)}
    (sound : Sound locals.previousPair pairs)
    (round : environment.Round config locals history result added) :
    Ended (added.foldl PairHistory.record pairs) ∧
      ∀ next, result = .ok (.inl next) →
        Sound next.previousPair (added.foldl PairHistory.record pairs) := by
  cases round with
  | unpaired quiet failure =>
      rw [record_quiet quiet]
      exact ⟨sound.ended, by simp⟩
  | stale quiet remembered old =>
      rw [List.foldl_append, record_quiet quiet]
      exact ⟨sound.stale fun admits => old (admits _ remembered), by simp⟩
  | unprocessed quiet fresh background =>
      have again := sound.admitted fresh ⟨rfl, rfl, .inl rfl, .inl rfl⟩
      simp only [List.foldl_append, List.foldl_cons, record_quiet quiet,
        record_background background]
      exact ⟨again.ended, by simp⟩
  | repositioned quiet fresh background detected sent told =>
      have again := sound.admitted fresh ⟨rfl, rfl, .inl rfl, .inl rfl⟩
      simp only [List.foldl_append, List.foldl_cons, record_quiet quiet,
        record_background background]
      refine ⟨again.ended, fun next given => ?_⟩
      cases next_of_told told given
      exact again
  | positioned quiet fresh background detected kept judged =>
      simp only [List.foldl_append, List.foldl_cons, record_quiet quiet,
        record_background background]
      obtain ⟨consumes, kept⟩ := judged_pairs judged _
      have again := sound.admitted fresh consumes
      refine ⟨again.ended, fun next given => ?_⟩
      rw [kept next given]
      exact again

/-- Every round of a run keeps its pairs sound. -/
theorem carries_sound {Value : Type} (environment : ObservationEnvironment Value)
    (config : ChallengeConfig) : Carries environment config
      (fun _ locals history => Sound locals.previousPair (pairHistory history))
      (fun _ history => Ended (pairHistory history)) := by
  have empty : Sound none .empty := ⟨rfl, rfl, .nil, .refl _, .refl _⟩
  have quiets : ∀ {work}, ObservationEnvironment.AllQuiet work → pairHistory work = .empty :=
    fun quiet => record_quiet quiet .empty
  constructor
  · intro failure work quiet
    rw [pairHistory_append, quiets quiet]
    exact ⟨empty.ended, empty.ended⟩
  · intro work quiet
    rw [pairHistory_append, quiets quiet]
    exact empty
  · intro remaining locals history next added sound round
    rw [pairHistory_concat]
    exact (sound.round round).2 next rfl
  · intro remaining locals history failure added sound round
    rw [pairHistory_concat]
    exact (sound.round round).1
  · intro remaining locals history value added sound round
    rw [pairHistory_concat]
    exact (sound.round round).1
  · intro locals history sound
    rw [pairHistory_append]
    exact sound.ended

/-- Whatever a session meets, it ends with at most one captured pair that was not admitted. -/
theorem runSession_ended {Value : Type} (pipeline : ProductionObservationPipeline)
    (environment : ObservationEnvironment Value) (config : ChallengeConfig) :
    Ended (pairHistory (pipeline.runSession environment config []).state) :=
  (carries_sound environment config).runSession pipeline

/-! ## When frames are fresh -/

/-- The later of the two timestamps of a pair. -/
def PairReading.laterMicros (reading : PairReading) : Nat :=
  match reading.timing.visibleTimestampMicros with
  | none => reading.timing.infraredTimestampMicros
  | some visible => max reading.timing.infraredTimestampMicros visible

/-- The combined check: other sequence numbers, and a newer later timestamp. -/
structure PairReading.Passes (earlier next : PairReading) : Prop where
  infrared : earlier.infraredSequence ≠ next.infraredSequence
  visible : earlier.visibleSequence ≠ next.visibleSequence
  newer : earlier.laterMicros < next.laterMicros

/-- A pair with both frames that passes the combined check brings later frames, unless one of
them is masked by the other. -/
theorem PairReading.Passes.bothLater_iff {earlier next : PairReading}
    (passes : earlier.Passes next) (began : earlier.timing.visibleTimestampMicros.isSome)
    (ends : next.timing.visibleTimestampMicros.isSome) :
    earlier.BothLater next ↔ ¬ earlier.Masked next := by
  obtain ⟨infrared, visible, newer⟩ := passes
  obtain ⟨first, began⟩ := Option.isSome_iff_exists.mp began
  obtain ⟨second, ends⟩ := Option.isSome_iff_exists.mp ends
  unfold PairReading.laterMicros at newer
  rw [began, ends] at newer
  dsimp only at newer
  unfold PairReading.BothLater PairReading.InfraredLater PairReading.VisibleLater
    PairReading.Masked
  rw [began, ends]
  simp only [infrared, visible, Option.mem_some_iff, exists_eq_left', ne_eq, not_false_eq_true,
    true_and]
  omega

/-- What is masked passes the combined check. -/
theorem PairReading.Masked.passes {earlier next : PairReading} (masked : earlier.Masked next) :
    earlier.Passes next := by
  obtain ⟨infrared, visible, first, began, second, ends, back⟩ := masked
  refine ⟨infrared, visible, ?_⟩
  unfold PairReading.laterMicros
  rw [Option.mem_def.mp began, Option.mem_def.mp ends]
  dsimp only
  omega

/-- Where every pair passes the combined check after the one before, the frames are fresh
exactly when none is masked. -/
theorem cameraFreshness_iff_unmasked {readings : List PairReading}
    (passes : readings.IsChain PairReading.Passes)
    (paired : ∀ reading ∈ readings, reading.timing.visibleTimestampMicros.isSome) :
    CameraFreshness readings ↔ readings.IsChain fun earlier next => ¬ earlier.Masked next := by
  rw [cameraFreshness_iff]
  induction passes with
  | nil => exact iff_of_true .nil .nil
  | singleton reading => exact iff_of_true (.singleton reading) (.singleton reading)
  | @cons_cons earlier next rest link chain ih =>
      have here := paired earlier (List.mem_cons_self ..)
      have there := paired next (.tail _ (List.mem_cons_self ..))
      rw [List.isChain_cons_cons, List.isChain_cons_cons, link.bothLater_iff here there,
        ih fun reading member => paired reading (.tail _ member)]

/-- The check of the code reads nothing but the timing. -/
theorem freshPair_iff {earlier next : PairedFrames} :
    FreshPair earlier next ↔ earlier.reading.Passes next.reading := by
  constructor
  · rintro ⟨infrared, visible, newer⟩
    exact ⟨Ne.symm infrared, Ne.symm visible, newer⟩
  · rintro ⟨infrared, visible, newer⟩
    exact ⟨Ne.symm infrared, Ne.symm visible, newer⟩

/-- The frames of the admitted pairs are fresh exactly when no captured pair has a frame that
is masked. -/
theorem Ended.freshUse_iff {pairs : PairHistory} (ended : Ended pairs) :
    FreshUse pairs ↔ pairs.captured.IsChain
      fun earlier next => ¬ earlier.reading.Masked next.reading := by
  have same : pairs.captured.IsChain (fun earlier next => ¬ earlier.reading.Masked next.reading) ↔
      pairs.admitted.IsChain fun earlier next => ¬ earlier.reading.Masked next.reading := by
    rcases ended.captured with all | ⟨last, stale, found, old, all⟩
    · rw [all]
    · rw [all, List.isChain_append]
      refine ⟨fun unmasked => unmasked.1, fun unmasked => ⟨unmasked, .singleton stale, ?_⟩⟩
      intro before lastOne next head masked
      cases head
      rw [found] at lastOne
      cases lastOne
      exact old (freshPair_iff.mpr masked.passes)
  have passes : (pairs.admitted.map PairedFrames.reading).IsChain PairReading.Passes := by
    rw [List.isChain_map]
    exact ended.fresh.imp fun _ _ => freshPair_iff.mp
  have paired : ∀ reading ∈ pairs.admitted.map PairedFrames.reading,
      reading.timing.visibleTimestampMicros.isSome := by
    simp [PairedFrames.reading, PairedFrames.timing]
  have admitted := cameraFreshness_iff_unmasked passes paired
  rw [List.isChain_map] at admitted
  rw [same, ← admitted]
  exact ⟨fun fresh => fresh.admitted, fun fresh => ⟨fresh, ended.challenged, ended.observed⟩⟩

/-! ## Frames in order -/

/-- Two frames of one camera are the same driver frame, or the second one is later. -/
def FrameOrder (first second : CapturedFrame) : Prop :=
  first.summary.sequence = second.summary.sequence ∨
    first.summary.timestampMicros < second.summary.timestampMicros

instance (first second : CapturedFrame) : Decidable (FrameOrder first second) :=
  inferInstanceAs (Decidable (_ ∨ _))

/-- Each camera gives its frames in order along a history. -/
def CamerasInOrder {Value : Type} (environment : ObservationEnvironment Value)
    (history : ObservationHistory) : Prop :=
  ∀ camera, (framesRead environment camera [] history).Pairwise FrameOrder

/-- The captured pairs hold frames that were read, and frames that were read in order are in
order from pair to pair. -/
structure Supplied {Value : Type} (environment : ObservationEnvironment Value)
    (history : ObservationHistory) : Prop where
  came : ∀ pair ∈ (pairHistory history).captured, Came environment [] history pair
  inOrder : CamerasInOrder environment history → (pairHistory history).captured.Pairwise
    fun earlier next => earlier.reading.InOrder next.reading

section Supply

variable {Value : Type} {environment : ObservationEnvironment Value} {config : ChallengeConfig}
  {locals : ObservationEnvironment.Locals} {history work added : ObservationHistory}
  {result : Except ObservationFailure (ObservationEnvironment.Locals ⊕ Value)}

/-- Frames are read one history after the other. -/
theorem framesRead_append {start : ObservationHistory} (camera : CaptureModality) :
    framesRead environment camera start (history ++ added) =
      framesRead environment camera start history ++
        framesRead environment camera (start ++ history) added :=
  gather_append

/-- Cameras that were in order so far were so before. -/
theorem CamerasInOrder.before (inOrder : CamerasInOrder environment (history ++ added)) :
    CamerasInOrder environment history := by
  intro camera
  have whole := inOrder camera
  rw [framesRead_append] at whole
  exact (List.pairwise_append.mp whole).1

/-- A pair that came stays one that came. -/
theorem Came.before {pair : PairedFrames} {start : ObservationHistory}
    (came : Came environment start history pair) (added : ObservationHistory) :
    Came environment start (history ++ added) pair := by
  constructor <;> rw [framesRead_append]
  · exact List.mem_append_left _ came.infrared
  · exact List.mem_append_left _ came.visible

/-- Frames of one pair come before the frames of a later one. -/
theorem CamerasInOrder.reading {earlier next : PairedFrames}
    (inOrder : CamerasInOrder environment (history ++ added))
    (before : Came environment [] history earlier) (after : Came environment history added next) :
    earlier.reading.InOrder next.reading := by
  have split := inOrder
  simp only [CamerasInOrder, framesRead_append, List.pairwise_append] at split
  refine ⟨(split .infrared).2.2 _ before.infrared _ after.infrared, ?_⟩
  refine ((split .visible).2.2 _ before.visible _ after.visible).imp_right ?_
  rintro later first ⟨⟩ second ⟨⟩
  exact later

/-- A round captures at most one pair, whose frames it has read. -/
theorem round_supplies (round : environment.Round config locals history result added)
    (pairs : PairHistory) :
    (added.foldl PairHistory.record pairs).captured = pairs.captured ∨
      ∃ pair, Came environment history added pair ∧
        (added.foldl PairHistory.record pairs).captured = pairs.captured ++ [pair] := by
  cases round with
  | unpaired quiet failure =>
      rw [record_quiet quiet]
      exact .inl rfl
  | stale quiet remembered old came =>
      rw [List.foldl_append, record_quiet quiet]
      exact .inr ⟨_, came.before _, rfl⟩
  | unprocessed quiet fresh background came =>
      refine .inr ⟨_, (came.before _).before _, ?_⟩
      simp only [List.foldl_append, List.foldl_cons, record_quiet quiet,
        record_background background]
      rfl
  | repositioned quiet fresh background detected sent told came =>
      refine .inr ⟨_, (came.before _).before _, ?_⟩
      simp only [List.foldl_append, List.foldl_cons, record_quiet quiet,
        record_background background]
      rfl
  | positioned quiet fresh background detected kept judged came =>
      refine .inr ⟨_, (came.before _).before _, ?_⟩
      simp only [List.foldl_append, List.foldl_cons, record_quiet quiet,
        record_background background]
      exact (judged_pairs judged _).1.captured

/-- Each round keeps the captured pairs supplied. -/
theorem Supplied.append (supplied : Supplied environment history)
    (adds : (pairHistory (history ++ added)).captured = (pairHistory history).captured ∨
      ∃ pair, Came environment history added pair ∧
        (pairHistory (history ++ added)).captured = (pairHistory history).captured ++ [pair]) :
    Supplied environment (history ++ added) := by
  obtain ⟨came, inOrder⟩ := supplied
  rcases adds with same | ⟨pair, read, more⟩
  · refine ⟨?_, fun all => ?_⟩ <;> rw [same]
    · exact fun pair member => (came pair member).before added
    · exact inOrder all.before
  · refine ⟨?_, fun all => ?_⟩ <;> rw [more]
    · refine List.forall_mem_append.mpr ⟨fun pair member => (came pair member).before added, ?_⟩
      rw [List.forall_mem_singleton]
      exact Came.append read
    · refine List.pairwise_append.mpr ⟨inOrder all.before, List.pairwise_singleton .., ?_⟩
      intro earlier member next last
      rw [List.mem_singleton.mp last]
      exact all.reading (came earlier member) read

/-- A history without a pair needs no supply. -/
theorem supplied_nil (silent : (pairHistory history).captured = []) :
    Supplied environment history := by
  refine ⟨?_, fun _ => ?_⟩ <;> rw [silent]
  · exact List.forall_mem_nil _
  · exact .nil

/-- Every round of a run supplies its pairs from the frames read. -/
theorem carries_supplied (environment : ObservationEnvironment Value)
    (config : ChallengeConfig) : Carries environment config
      (fun _ _ history => Supplied environment history)
      (fun _ history => Supplied environment history) := by
  have before : ∀ work, ObservationEnvironment.AllQuiet work →
      (pairHistory work).captured = [] := by
    intro work quiet
    rw [pairHistory, record_quiet quiet]
    rfl
  have rounds : ∀ {locals history result added}, Supplied environment history →
      environment.Round config locals history result added →
        Supplied environment (history ++ added) := by
    intro locals history result added supplied round
    refine supplied.append ?_
    rw [pairHistory_concat]
    exact round_supplies round _
  constructor
  · intro failure work quiet
    refine ⟨supplied_nil (before work quiet), supplied_nil ?_⟩
    rw [pairHistory_append]
    exact before work quiet
  · intro work quiet
    refine supplied_nil ?_
    rw [pairHistory_append]
    exact before work quiet
  · exact rounds
  · exact rounds
  · exact rounds
  · intro locals history supplied
    refine supplied.append (.inl ?_)
    rw [pairHistory_append]
    rfl

end Supply

/-- Whatever a session meets, the frames of its captured pairs are frames that it has read. -/
theorem runSession_supplied {Value : Type} (pipeline : ProductionObservationPipeline)
    (environment : ObservationEnvironment Value) (config : ChallengeConfig) :
    Supplied environment (pipeline.runSession environment config []).state :=
  (carries_supplied environment config).runSession pipeline

namespace ChallengeSession

/-- A session accepts observations that it was offered, in their order. -/
theorem acceptedOf_sublist (session : ChallengeSession)
    (calls : List (ChallengeObservation × Bool)) :
    (acceptedOf (run step session calls)).Sublist (calls.map Prod.fst) := by
  induction calls generalizing session with
  | nil => exact .slnil
  | cons call calls ih =>
      have rest := ih (session.step call).2
      rw [run_cons, acceptedOf, List.filterMap_cons, List.map_cons]
      unfold acceptedOf at rest
      cases answered : (session.step call).1 with
      | error error =>
          simp only [ChallengeEntry.accepted?, entryAt_output, answered]
          exact rest.cons _
      | ok progress =>
          simp only [ChallengeEntry.accepted?, entryAt_output, entryAt_action, answered]
          exact rest.cons_cons _

end ChallengeSession

/-- The accepted observations are fresh exactly when none of them is masked. -/
theorem ChallengeInvariant.cameraFreshness_iff {config : ChallengeConfig}
    {action : ChallengeAction} {issuedAtMicros : Nat} {accepted : List ChallengeObservation}
    {session : ChallengeSession}
    (holds : ChallengeInvariant config action issuedAtMicros accepted session) :
    CameraFreshness (accepted.map ChallengeObservation.reading) ↔
      (accepted.map ChallengeObservation.reading).IsChain
        fun earlier next => ¬ earlier.Masked next := by
  refine cameraFreshness_iff_unmasked ?_ ?_
  · rw [List.isChain_map]
    exact holds.fresh.imp fun earlier next ⟨later, infrared, visible⟩ => ⟨infrared, visible, later⟩
  · rw [List.forall_mem_map]
    intro observation member
    obtain ⟨⟨visible, found, -⟩, -⟩ := holds.paired observation member
    exact Option.isSome_iff_exists.mpr ⟨visible, found⟩

/-- The observations offered to a challenge hold the frames of each camera in order. -/
def OfferedInOrder (calls : List (ChallengeObservation × Bool)) : Prop :=
  calls.Pairwise fun earlier next => earlier.1.reading.InOrder next.1.reading

instance (calls : List (ChallengeObservation × Bool)) : Decidable (OfferedInOrder calls) :=
  inferInstanceAs (Decidable (calls.Pairwise _))

/-- In every session whose cameras give their frames in order, and in every challenge that is
offered frames in order, the frames of each camera are fresh. A session fails exactly where a
captured pair has a frame that is masked. -/
theorem frame_freshness {Value : Type} (pipeline : ProductionObservationPipeline)
    (environment : ObservationEnvironment Value) (config : ChallengeConfig)
    {challengeConfig : ChallengeConfig} {action : ChallengeAction} {issuedAtMicros : Nat}
    {session : ChallengeSession} (started : ChallengeSession.withAction challengeConfig
      issuedAtMicros action = .ok session) (calls : List (ChallengeObservation × Bool)) :
    let history := (pipeline.runSession environment config []).state
    let accepted := acceptedOf (run ChallengeSession.step session calls)
    (CamerasInOrder environment history → FreshUse (pairHistory history)) ∧
      (FreshUse (pairHistory history) ↔ (pairHistory history).captured.IsChain
        fun earlier next => ¬ earlier.reading.Masked next.reading) ∧
      (OfferedInOrder calls →
        CameraFreshness (accepted.map ChallengeObservation.reading)) := by
  have ended := runSession_ended pipeline environment config
  have supplied := runSession_supplied pipeline environment config
  have holds := (ChallengeInvariant.withAction started).run calls
  refine ⟨fun inOrder => ?_, ended.freshUse_iff, fun offered => ?_⟩
  · refine ended.freshUse_iff.mpr ((supplied.inOrder inOrder).isChain.imp ?_)
    exact fun earlier next => PairReading.InOrder.not_masked
  · have inOrder : (calls.map Prod.fst).Pairwise
        fun earlier next => earlier.reading.InOrder next.reading := List.pairwise_map.mpr offered
    have accepted := inOrder.sublist (session.acceptedOf_sublist calls)
    rw [holds.cameraFreshness_iff, List.isChain_map]
    exact accepted.isChain.imp fun earlier next => PairReading.InOrder.not_masked

/-- A frame with the timestamp and sequence number given. -/
def replayFrame (camera : CaptureModality) (format : PixelFormat) (timestampMicros : Nat)
    (sequence : UInt32) : CapturedFrame where
  summary := ⟨camera, timestampMicros, sequence, 1, ⟨1, 1, format, 30⟩⟩
  data := [0]

/-- The infrared camera gives its first frame again, while the visible camera goes on. -/
def replayFrames : CaptureModality → List CapturedFrame
  | .infrared => [replayFrame .infrared .gray8 1_000_000 1,
      replayFrame .infrared .gray8 1_010_000 2, replayFrame .infrared .gray8 1_000_000 1]
  | .visible => [replayFrame .visible .yuyv 1_000_000 1,
      replayFrame .visible .yuyv 1_030_000 2, replayFrame .visible .yuyv 1_060_000 3]

/-- One face in a neutral pose, until the frames are used up. -/
def replayEnvironment : ObservationEnvironment Unit where
  cancelled _ := false
  stream _ _ := .ok ()
  frame camera history :=
    let reads := history.countP fun
      | .read other => camera = other
      | _ => false
    match (replayFrames camera)[reads]? with
    | some frame => .ok frame
    | none => .error (.frameTimeout "/dev/video0")
  rows _ _ := 0
  work _ _ := .ok ()
  faces _ := .ok 1
  landmarks _ := .ok ⟨0.8, 0.0⟩
  quality _ := .error .invalidComputation
  embedding _ := .error .embeddingInvalid
  passiveLiveness _ _ := .error .passiveLivenessOutputInvalid
  random _ := .ok .blink
  progress _ _ := .ok ()
  observe _ _ := .ok none

/-- The pipeline of the examples. -/
def replayPipeline : ProductionObservationPipeline where
  warmupFrames _ := 0
  pairing := ⟨100_000, 4⟩
  detection := ⟨0.5, 0.5, 4⟩
  quality := .engineeringBaseline

/-- Both cameras go on with new frames, until they are used up. -/
def steadyFrames : CaptureModality → List CapturedFrame
  | .infrared => [replayFrame .infrared .gray8 1_000_000 1,
      replayFrame .infrared .gray8 1_030_000 2, replayFrame .infrared .gray8 1_060_000 3]
  | .visible => replayFrames .visible

/-- Cameras that run on, and a face that stays. -/
def steadyEnvironment : ObservationEnvironment Unit :=
  { replayEnvironment with
    frame := fun camera history =>
      let reads := history.countP fun
        | .read other => camera = other
        | _ => false
      match (steadyFrames camera)[reads]? with
      | some frame => .ok frame
      | none => .error (.frameTimeout "/dev/video0") }

/-- Three pairs of steady cameras, and a challenge with frames in order. -/
theorem frame_freshness_steady :
    let pairs := pairHistory (replayPipeline.runSession steadyEnvironment blinkConfig []).state
    pairs.admitted.length = 3 ∧ FreshUse pairs ∧
      CameraFreshness ((acceptedOf (run ChallengeSession.step
        (.issued blinkConfig blinkConfig_valid .blink 1_000_000 11_000_000)
          [blinkCalls[0], blinkCalls[2], blinkCalls[3]])).map ChallengeObservation.reading) := by
  have inOrder : CamerasInOrder steadyEnvironment
      (replayPipeline.runSession steadyEnvironment blinkConfig []).state := by
    intro camera
    cases camera <;> decide +kernel
  have started : ChallengeSession.withAction blinkConfig 1_000_000 .blink =
      .ok (.issued blinkConfig blinkConfig_valid .blink 1_000_000 11_000_000) :=
    ChallengeSession.withAction_of_valid blinkConfig_valid (by decide) .blink
  obtain ⟨session, -, challenge⟩ := frame_freshness replayPipeline steadyEnvironment blinkConfig
    started [blinkCalls[0], blinkCalls[2], blinkCalls[3]]
  exact ⟨by decide +kernel, session inOrder, challenge (by decide +kernel)⟩

/-- A replayed infrared frame is admitted, and offered to the challenge a second time. -/
theorem frame_freshness_replayed :
    let pairs := pairHistory (replayPipeline.runSession replayEnvironment blinkConfig []).state
    pairs.challenged = pairs.admitted ∧ ¬ FreshUse pairs := by
  have admitted : (pairHistory
      (replayPipeline.runSession replayEnvironment blinkConfig []).state).admitted =
        List.zipWith PairedFrames.mk (replayFrames .infrared) (replayFrames .visible) := by
    decide +kernel
  refine ⟨by decide +kernel, fun fresh => ?_⟩
  have once := fresh.admitted.once
  rw [admitted] at once
  revert once
  decide

end FaceAuth
