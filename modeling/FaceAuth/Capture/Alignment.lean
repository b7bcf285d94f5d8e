import FaceAuth.Capture.Pairing
import Mathlib.Data.List.Range

/-!
# Alignment of two frame streams

Replacing the older of two frames finds every pair of close frames that the
budget of replacements reaches, because neither of the two sequences of
timestamps falls.
-/

namespace FaceAuth

open Foundation

/-- The results of the reads of both cameras, in order. -/
structure FrameStreams where
  infrared : Nat → Except CaptureError CapturedFrame
  visible : Nat → Except CaptureError CapturedFrame

namespace FrameStreams

variable (streams : FrameStreams)

/-- Both streams as sources that nobody cancels. The state counts the reads of each. -/
def sources : FrameSources (Nat × Nat) where
  nextFrame
    | .infrared, (infraredReads, visibleReads) =>
        (streams.infrared infraredReads, (infraredReads + 1, visibleReads))
    | .visible, (infraredReads, visibleReads) =>
        (streams.visible visibleReads, (infraredReads, visibleReads + 1))
  shouldCancel reads := (false, reads)

/-- Frames of the right cameras, with timestamps that do not fall. -/
structure Ordered : Prop where
  infraredCamera : ∀ index frame, streams.infrared index = .ok frame →
    frame.summary.modality = .infrared
  visibleCamera : ∀ index frame, streams.visible index = .ok frame →
    frame.summary.modality = .visible
  infraredRises : ∀ index later frame other, index ≤ later →
    streams.infrared index = .ok frame → streams.infrared later = .ok other →
    frame.summary.timestampMicros ≤ other.summary.timestampMicros
  visibleRises : ∀ index later frame other, index ≤ later →
    streams.visible index = .ok frame → streams.visible later = .ok other →
    frame.summary.timestampMicros ≤ other.summary.timestampMicros

/-- All frames up to these can be read, and these are close. -/
structure Offers (maxSkewMicros infraredIndex visibleIndex : Nat) : Prop where
  infraredReadable : ∀ index ≤ infraredIndex, ∃ frame, streams.infrared index = .ok frame
  visibleReadable : ∀ index ≤ visibleIndex, ∃ frame, streams.visible index = .ok frame
  close : ∀ infrared visible, streams.infrared infraredIndex = .ok infrared →
    streams.visible visibleIndex = .ok visible →
    absDiff infrared.summary.timestampMicros visible.summary.timestampMicros ≤ maxSkewMicros

variable {streams} {maxSkewMicros : Nat}

/-! ## Advancing the older stream -/

section Advance

variable {infraredIndex visibleIndex here there : Nat} {infrared visible : CapturedFrame}

/-- An older infrared frame is not yet the one that is offered. -/
theorem Offers.advance_infrared (ordered : streams.Ordered)
    (offers : streams.Offers maxSkewMicros infraredIndex visibleIndex)
    (before : here ≤ infraredIndex) (before' : there ≤ visibleIndex)
    (found : streams.infrared here = .ok infrared) (found' : streams.visible there = .ok visible)
    (apart : ¬ absDiff infrared.summary.timestampMicros visible.summary.timestampMicros ≤
      maxSkewMicros)
    (older : infrared.summary.timestampMicros < visible.summary.timestampMicros) :
    here < infraredIndex := by
  rcases Nat.lt_or_ge here infraredIndex with less | reached
  · exact less
  · obtain rfl := Nat.le_antisymm before reached
    obtain ⟨offered, read⟩ := offers.visibleReadable visibleIndex (Nat.le_refl _)
    have rises := ordered.visibleRises there visibleIndex visible offered before' found' read
    have close := offers.close infrared offered found read
    rw [absDiff_le_iff] at close apart
    omega

/-- A visible frame that is not newer than the infrared one is not yet the one that is
offered. -/
theorem Offers.advance_visible (ordered : streams.Ordered)
    (offers : streams.Offers maxSkewMicros infraredIndex visibleIndex)
    (before : here ≤ infraredIndex) (before' : there ≤ visibleIndex)
    (found : streams.infrared here = .ok infrared) (found' : streams.visible there = .ok visible)
    (apart : ¬ absDiff infrared.summary.timestampMicros visible.summary.timestampMicros ≤
      maxSkewMicros)
    (older : ¬ infrared.summary.timestampMicros < visible.summary.timestampMicros) :
    there < visibleIndex := by
  rcases Nat.lt_or_ge there visibleIndex with less | reached
  · exact less
  · obtain rfl := Nat.le_antisymm before' reached
    obtain ⟨offered, read⟩ := offers.infraredReadable infraredIndex (Nat.le_refl _)
    have rises := ordered.infraredRises here infraredIndex infrared offered before found read
    have close := offers.close offered visible read found'
    rw [absDiff_le_iff] at close apart
    omega

end Advance

/-! ## One round -/

/-- What is left of an outcome without the states on the way. -/
def ended {Value : Type} (work : Stepwise (Nat × Nat) CaptureError Value) (reads : Nat × Nat) :
    Except CaptureError Value × (Nat × Nat) :=
  ((work reads).result, (work reads).state)

/-- A computation goes on from where its first part ended. -/
theorem ended_bind_ok {Value Next : Type} {first : Stepwise (Nat × Nat) CaptureError Value}
    {next : Value → Stepwise (Nat × Nat) CaptureError Next} {reads later : Nat × Nat}
    {value : Value} (returned : ended first reads = (.ok value, later)) :
    ended (first >>= next) reads = ended (next value) later := by
  have result : (first reads).result = .ok value := congrArg Prod.fst returned
  have state : (first reads).state = later := congrArg Prod.snd returned
  unfold ended
  rw [Stepwise.bind_of_ok result, state]

/-- A failure of the first part is the failure of the whole. -/
theorem ended_bind_error {Value Next : Type} {first : Stepwise (Nat × Nat) CaptureError Value}
    {next : Value → Stepwise (Nat × Nat) CaptureError Next} {reads later : Nat × Nat}
    {error : CaptureError} (failed : ended first reads = (.error error, later)) :
    ended (first >>= next) reads = (.error error, later) := by
  have result : (first reads).result = .error error := congrArg Prod.fst failed
  have state : (first reads).state = later := congrArg Prod.snd failed
  unfold ended
  rw [Stepwise.bind_of_error result, state]

section Round

variable {policy : PairingPolicy} {replacement : Nat} {replacements : List Nat}
  {infrared visible : CapturedFrame} {reads : Nat × Nat}

/-- Nobody cancels these captures. -/
theorem ended_checkCancelled (reads : Nat × Nat) :
    ended streams.sources.checkCancelled reads = (.ok (), reads) := rfl

/-- Frames within the skew are paired without another read. -/
theorem alignFrames_close
    (close : absDiff infrared.summary.timestampMicros visible.summary.timestampMicros ≤
      policy.maxSkewMicros) :
    ended (alignFrames streams.sources policy (replacement :: replacements) infrared visible)
      reads = (.ok ⟨infrared, visible⟩, reads) := by
  rw [alignFrames, ended_bind_ok (ended_checkCancelled reads)]
  dsimp only
  rw [if_pos close]
  rfl

/-- Frames apart end the search when it has no replacement left. -/
theorem alignFrames_spent
    (apart : ¬ absDiff infrared.summary.timestampMicros visible.summary.timestampMicros ≤
      policy.maxSkewMicros) (last : replacement = policy.maxReplacements) :
    ended (alignFrames streams.sources policy (replacement :: replacements) infrared visible)
      reads = (.error (.pairingBudgetExhausted
        (absDiff infrared.summary.timestampMicros visible.summary.timestampMicros)), reads) := by
  rw [alignFrames, ended_bind_ok (ended_checkCancelled reads)]
  dsimp only
  rw [if_neg apart, if_pos last]
  rfl

/-- The frame that replaces the older one, of its camera. -/
theorem alignFrames_replace (ordered : streams.Ordered)
    (apart : ¬ absDiff infrared.summary.timestampMicros visible.summary.timestampMicros ≤
      policy.maxSkewMicros) (more : replacement ≠ policy.maxReplacements) :
    ended (alignFrames streams.sources policy (replacement :: replacements) infrared visible)
        reads =
      if infrared.summary.timestampMicros < visible.summary.timestampMicros then
        match streams.infrared reads.1 with
        | .error error => (.error error, (reads.1 + 1, reads.2))
        | .ok frame => ended (alignFrames streams.sources policy replacements frame visible)
            (reads.1 + 1, reads.2)
      else
        match streams.visible reads.2 with
        | .error error => (.error error, (reads.1, reads.2 + 1))
        | .ok frame => ended (alignFrames streams.sources policy replacements infrared frame)
            (reads.1, reads.2 + 1) := by
  rw [alignFrames, ended_bind_ok (ended_checkCancelled reads)]
  dsimp only
  rw [if_neg apart, if_neg more, ended_bind_ok (ended_checkCancelled reads)]
  split_ifs with older
  · cases read : streams.infrared reads.1 with
    | error error => exact ended_bind_error (congrArg (·, (reads.1 + 1, reads.2)) read)
    | ok frame =>
        have camera := ordered.infraredCamera reads.1 frame read
        rw [ended_bind_ok (congrArg (·, (reads.1 + 1, reads.2)) read)]
        apply ended_bind_ok
        exact congrArg (·, (reads.1 + 1, reads.2)) (if_pos camera)
  · cases read : streams.visible reads.2 with
    | error error => exact ended_bind_error (congrArg (·, (reads.1, reads.2 + 1)) read)
    | ok frame =>
        have camera := ordered.visibleCamera reads.2 frame read
        rw [ended_bind_ok (congrArg (·, (reads.1, reads.2 + 1)) read)]
        apply ended_bind_ok
        exact congrArg (·, (reads.1, reads.2 + 1)) (if_pos camera)

end Round

/-! ## Whole captures -/

section Capture

variable (streams) (policy : PairingPolicy)

/-- What a capture may end in: a close pair of frames that were read, a spent budget, or the
error of the last read. -/
def Answers : Except CaptureError PairedFrames × (Nat × Nat) → Prop
  | (.ok pair, reads) => ∃ infraredIndex visibleIndex,
      reads = (infraredIndex + 1, visibleIndex + 1) ∧
      infraredIndex + visibleIndex ≤ policy.maxReplacements ∧
      streams.infrared infraredIndex = .ok pair.infrared ∧
      streams.visible visibleIndex = .ok pair.visible ∧
      absDiff pair.infrared.summary.timestampMicros pair.visible.summary.timestampMicros ≤
        policy.maxSkewMicros
  | (.error error, reads) => reads.1 + reads.2 ≤ 2 + policy.maxReplacements ∧
      ((∃ skew, policy.maxSkewMicros < skew ∧ error = .pairingBudgetExhausted skew) ∨
        (∃ index, reads.1 = index + 1 ∧ streams.infrared index = .error error) ∨
        ∃ index, reads.2 = index + 1 ∧ streams.visible index = .error error)

variable {streams policy}

/-- The search answers as stated from any place that it has reached in the streams. -/
theorem alignFrames_answers (ordered : streams.Ordered) :
    ∀ {rest infraredIndex visibleIndex : Nat} {infrared visible : CapturedFrame},
      infraredIndex + visibleIndex + rest = policy.maxReplacements →
      streams.infrared infraredIndex = .ok infrared →
      streams.visible visibleIndex = .ok visible →
      streams.Answers policy (ended (alignFrames streams.sources policy
        (List.range' (infraredIndex + visibleIndex) (rest + 1)) infrared visible)
        (infraredIndex + 1, visibleIndex + 1)) := by
  intro rest
  induction rest with
  | zero =>
      intro infraredIndex visibleIndex infrared visible budget found found'
      rw [List.range'_succ]
      by_cases close : absDiff infrared.summary.timestampMicros
          visible.summary.timestampMicros ≤ policy.maxSkewMicros
      · rw [alignFrames_close close]
        exact ⟨_, _, rfl, Nat.le_of_eq budget, found, found', close⟩
      · rw [alignFrames_spent close
          (show infraredIndex + visibleIndex = policy.maxReplacements from budget)]
        refine ⟨?_, .inl ⟨_, Nat.lt_of_not_le close, rfl⟩⟩
        dsimp only
        omega
  | succ rest ih =>
      intro infraredIndex visibleIndex infrared visible budget found found'
      rw [List.range'_succ]
      by_cases close : absDiff infrared.summary.timestampMicros
          visible.summary.timestampMicros ≤ policy.maxSkewMicros
      · rw [alignFrames_close close]
        exact ⟨_, _, rfl, by omega, found, found', close⟩
      · rw [alignFrames_replace ordered close (by omega)]
        split_ifs
        · cases read : streams.infrared (infraredIndex + 1) with
          | error error =>
              refine ⟨?_, .inr (.inl ⟨_, rfl, read⟩)⟩
              dsimp only
              omega
          | ok frame =>
              have later := @ih (infraredIndex + 1) visibleIndex frame visible (by omega) read
                found'
              rwa [Nat.add_right_comm] at later
        · cases read : streams.visible (visibleIndex + 1) with
          | error error =>
              refine ⟨?_, .inr (.inr ⟨_, rfl, read⟩)⟩
              dsimp only
              omega
          | ok frame =>
              have later := @ih infraredIndex (visibleIndex + 1) infrared frame (by omega) found
                read
              exact later

/-- The positions stay at or before an offered pair, which ends the capture at the latest. -/
theorem alignFrames_complete (ordered : streams.Ordered) {infraredOffered visibleOffered : Nat}
    (offers : streams.Offers policy.maxSkewMicros infraredOffered visibleOffered)
    (within : infraredOffered + visibleOffered ≤ policy.maxReplacements) :
    ∀ {rest infraredIndex visibleIndex : Nat} {infrared visible : CapturedFrame},
      infraredIndex + visibleIndex + rest = policy.maxReplacements →
      infraredIndex ≤ infraredOffered → visibleIndex ≤ visibleOffered →
      streams.infrared infraredIndex = .ok infrared →
      streams.visible visibleIndex = .ok visible →
      ∃ pair, (ended (alignFrames streams.sources policy
        (List.range' (infraredIndex + visibleIndex) (rest + 1)) infrared visible)
        (infraredIndex + 1, visibleIndex + 1)).1 = .ok pair := by
  intro rest
  induction rest with
  | zero =>
      intro infraredIndex visibleIndex infrared visible budget before before' found found'
      obtain rfl : infraredIndex = infraredOffered := by omega
      obtain rfl : visibleIndex = visibleOffered := by omega
      rw [List.range'_succ, alignFrames_close (offers.close infrared visible found found')]
      exact ⟨_, rfl⟩
  | succ rest ih =>
      intro infraredIndex visibleIndex infrared visible budget before before' found found'
      rw [List.range'_succ]
      by_cases close : absDiff infrared.summary.timestampMicros
          visible.summary.timestampMicros ≤ policy.maxSkewMicros
      · rw [alignFrames_close close]
        exact ⟨_, rfl⟩
      · rw [alignFrames_replace ordered close (by omega)]
        split_ifs with older
        · have advances := offers.advance_infrared ordered before before' found found' close older
          obtain ⟨frame, read⟩ := offers.infraredReadable (infraredIndex + 1) advances
          have later := @ih (infraredIndex + 1) visibleIndex frame visible (by omega) advances
            before' read found'
          dsimp only
          rw [read]
          rwa [Nat.add_right_comm] at later
        · have advances := offers.advance_visible ordered before before' found found' close older
          obtain ⟨frame, read⟩ := offers.visibleReadable (visibleIndex + 1) advances
          have later := @ih infraredIndex (visibleIndex + 1) infrared frame (by omega) before
            advances found read
          dsimp only
          rw [read]
          exact later

/-- A capture from the beginning of two readable streams is an alignment of their first frames. -/
theorem capture_of_first (valid : policy.validate = .ok ()) (ordered : streams.Ordered)
    {infrared visible : CapturedFrame} (found : streams.infrared 0 = .ok infrared)
    (found' : streams.visible 0 = .ok visible) :
    ended (capturePairCancellable streams.sources policy) (0, 0) =
      ended (alignFrames streams.sources policy
        (List.range' (0 + 0) (policy.maxReplacements + 1)) infrared visible) (0 + 1, 0 + 1) := by
  have camera : ended (.ofExcept (ensureModality infrared .infrared)) (1, 1) =
      (.ok (), (1, 1)) := congrArg (·, (1, 1)) (if_pos (ordered.infraredCamera 0 infrared found))
  have camera' : ended (.ofExcept (ensureModality visible .visible)) (1, 1) =
      (.ok (), (1, 1)) := congrArg (·, (1, 1)) (if_pos (ordered.visibleCamera 0 visible found'))
  unfold capturePairCancellable
  rw [ended_bind_ok (congrArg (·, (0, 0)) valid), ended_bind_ok (ended_checkCancelled _),
    ended_bind_ok (congrArg (·, (1, 0)) found), ended_bind_ok (ended_checkCancelled _),
    ended_bind_ok (congrArg (·, (1, 1)) found'), ended_bind_ok camera, ended_bind_ok camera',
    List.range_eq_range']

/-- The whole capture answers as stated. -/
theorem capture_answers (valid : policy.validate = .ok ()) (ordered : streams.Ordered) :
    streams.Answers policy
      (ended (capturePairCancellable streams.sources policy) (0, 0)) := by
  cases found : streams.infrared 0 with
  | error error =>
      unfold capturePairCancellable
      rw [ended_bind_ok (congrArg (·, (0, 0)) valid), ended_bind_ok (ended_checkCancelled _),
        ended_bind_error (congrArg (·, (1, 0)) found)]
      refine ⟨?_, .inr (.inl ⟨0, rfl, found⟩)⟩
      dsimp only
      omega
  | ok infrared =>
      cases found' : streams.visible 0 with
      | error error =>
          unfold capturePairCancellable
          rw [ended_bind_ok (congrArg (·, (0, 0)) valid), ended_bind_ok (ended_checkCancelled _),
            ended_bind_ok (congrArg (·, (1, 0)) found), ended_bind_ok (ended_checkCancelled _),
            ended_bind_error (congrArg (·, (1, 1)) found')]
          refine ⟨?_, .inr (.inr ⟨0, rfl, found'⟩)⟩
          dsimp only
          omega
      | ok visible =>
          rw [capture_of_first valid ordered found found']
          exact alignFrames_answers ordered (Nat.zero_add _) found found'

/-- A capture is sound, reads a bounded number of frames, finds every pair within its budget,
and fails only by that budget or by the last read. -/
structure PairAlignment (streams : FrameStreams) (policy : PairingPolicy) : Prop where
  sound : ∀ pair, (capturePairCancellable streams.sources policy (0, 0)).result = .ok pair →
    pair.infrared.summary.modality = .infrared ∧ pair.visible.summary.modality = .visible ∧
      absDiff pair.infrared.summary.timestampMicros pair.visible.summary.timestampMicros ≤
        policy.maxSkewMicros
  bounded : (capturePairCancellable streams.sources policy (0, 0)).state.1 +
    (capturePairCancellable streams.sources policy (0, 0)).state.2 ≤ 2 + policy.maxReplacements
  complete : ∀ infraredIndex visibleIndex,
    infraredIndex + visibleIndex ≤ policy.maxReplacements →
    streams.Offers policy.maxSkewMicros infraredIndex visibleIndex →
    ∃ pair, (capturePairCancellable streams.sources policy (0, 0)).result = .ok pair
  otherwise : ∀ error,
    (capturePairCancellable streams.sources policy (0, 0)).result = .error error →
    (∃ skew, policy.maxSkewMicros < skew ∧ error = .pairingBudgetExhausted skew) ∨
      (∃ index, (capturePairCancellable streams.sources policy (0, 0)).state.1 = index + 1 ∧
        streams.infrared index = .error error) ∨
      ∃ index, (capturePairCancellable streams.sources policy (0, 0)).state.2 = index + 1 ∧
        streams.visible index = .error error

/-- Capturing a pair from ordered streams is sound, bounded and complete. -/
theorem pair_alignment (valid : policy.validate = .ok ()) (ordered : streams.Ordered) :
    PairAlignment streams policy := by
  have answers := capture_answers valid ordered
  have complete : ∀ infraredIndex visibleIndex,
      infraredIndex + visibleIndex ≤ policy.maxReplacements →
      streams.Offers policy.maxSkewMicros infraredIndex visibleIndex →
      ∃ pair, (capturePairCancellable streams.sources policy (0, 0)).result = .ok pair := by
    intro infraredIndex visibleIndex within offers
    obtain ⟨infrared, found⟩ := offers.infraredReadable 0 (Nat.zero_le _)
    obtain ⟨visible, found'⟩ := offers.visibleReadable 0 (Nat.zero_le _)
    obtain ⟨pair, aligned⟩ := alignFrames_complete ordered offers within (Nat.zero_add _)
      (Nat.zero_le _) (Nat.zero_le _) found found'
    rw [← capture_of_first valid ordered found found'] at aligned
    exact ⟨pair, aligned⟩
  unfold ended at answers
  have paired : ∀ pair, (capturePairCancellable streams.sources policy (0, 0)).result = .ok pair →
      streams.Answers policy
        (.ok pair, (capturePairCancellable streams.sources policy (0, 0)).state) := by
    intro pair same
    rwa [same] at answers
  have failed : ∀ error,
      (capturePairCancellable streams.sources policy (0, 0)).result = .error error →
      streams.Answers policy
        (.error error, (capturePairCancellable streams.sources policy (0, 0)).state) := by
    intro error same
    rwa [same] at answers
  refine ⟨?_, ?_, complete, ?_⟩
  · intro pair same
    obtain ⟨infraredIndex, visibleIndex, -, -, found, found', close⟩ := paired pair same
    exact ⟨ordered.infraredCamera _ _ found, ordered.visibleCamera _ _ found', close⟩
  · cases same : (capturePairCancellable streams.sources policy (0, 0)).result with
    | ok pair =>
        obtain ⟨infraredIndex, visibleIndex, reads, within, -⟩ := paired pair same
        rw [reads]
        dsimp only
        omega
    | error error => exact (failed error same).1
  · intro error same
    exact (failed error same).2

end Capture

/-- A frame of the camera with this timestamp. -/
def stillFrame (camera : CaptureModality) (timestampMicros : Nat) : CapturedFrame where
  summary := ⟨camera, timestampMicros, 1, 3,
    ⟨1, 1, if camera = .infrared then .gray8 else .yuyv, 15⟩⟩
  data := [1, 2, 3]

/-- The older infrared frame has to be replaced once. -/
def lateInfrared : FrameStreams where
  infrared index := .ok (stillFrame .infrared (1_000_000 + 200_000 * index))
  visible index := .ok (stillFrame .visible (1_190_000 + 200_000 * index))

/-- The timestamps of the example increase. -/
theorem lateInfrared_ordered : lateInfrared.Ordered := by
  refine ⟨?_, ?_, ?_, ?_⟩
  · intro index frame read
    cases read
    rfl
  · intro index frame read
    cases read
    rfl
  · intro index later frame other before read read'
    cases read
    cases read'
    exact Nat.add_le_add_left (Nat.mul_le_mul_left _ before) _
  · intro index later frame other before read read'
    cases read
    cases read'
    exact Nat.add_le_add_left (Nat.mul_le_mul_left _ before) _

/-- Both cameras are read on, and a pair within the skew is found. -/
theorem pair_alignment_lateInfrared :
    PairAlignment lateInfrared ⟨20_000, 2⟩ ∧
    (capturePairCancellable lateInfrared.sources ⟨20_000, 2⟩ (0, 0)).result =
      .ok ⟨stillFrame .infrared 1_200_000, stillFrame .visible 1_190_000⟩ :=
  ⟨pair_alignment (by decide) lateInfrared_ordered, by rfl⟩

end FrameStreams

end FaceAuth
