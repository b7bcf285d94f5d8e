import FaceAuth.Capture.Pairing
import FaceAuth.Foundation.Word

/-!
# Capture requirements

The exact format that a camera stream has to negotiate, the frames that such a
stream yields, and the pairs that a capture returns from two of them.
-/

namespace FaceAuth

open Foundation

/-- Exact capture requirements for one camera stream. -/
structure CaptureSpec where
  width : UInt32
  height : UInt32
  pixelFormat : PixelFormat
  framesPerSecond : UInt32
  bufferCount : UInt32
  warmupFrames : UInt8
  frameTimeoutMillis : UInt32
  maxFrameBytes : Nat
deriving DecidableEq, Repr

/-- The encodings that a camera of a modality may have. -/
def CaptureModality.Admits (modality : CaptureModality) (format : PixelFormat) : Prop :=
  match modality with
  | .infrared => format = .gray8
  | .visible => format = .yuyv ∨ format = .mjpeg

instance (modality : CaptureModality) (format : PixelFormat) :
    Decidable (modality.Admits format) := by
  unfold CaptureModality.Admits
  cases modality <;> infer_instance

namespace CaptureSpec

/-- Validate bounded capture settings for a camera modality. -/
def validate (spec : CaptureSpec) (modality : CaptureModality) : Except CaptureError Unit :=
  require (spec.width ≠ 0 ∧ spec.height ≠ 0 ∧ spec.framesPerSecond ≠ 0 ∧
    (2 ≤ spec.bufferCount ∧ spec.bufferCount ≤ 16) ∧ spec.warmupFrames ≤ 30 ∧
    spec.frameTimeoutMillis ≠ 0 ∧ spec.maxFrameBytes ≠ 0 ∧ modality.Admits spec.pixelFormat)
    .invalidSpec

/-- The format that a device opened with the requirements has negotiated. -/
def negotiated (spec : CaptureSpec) : NegotiatedFormat :=
  ⟨spec.width, spec.height, spec.pixelFormat, spec.framesPerSecond⟩

/-- The bytes of a tightly packed frame, for the encodings that fix them. -/
def frameBytes (spec : CaptureSpec) : Option Nat :=
  match spec.pixelFormat with
  | .gray8 => some (spec.width.toNat * spec.height.toNat)
  | .yuyv => some (spec.width.toNat * spec.height.toNat * 2)
  | .mjpeg => none

/-- A frame of the exact size is not above the limit of the stream. -/
def Fits (spec : CaptureSpec) : Prop := ∀ size ∈ spec.frameBytes, size ≤ spec.maxFrameBytes

/-- A valid specification has positive extents and a format that its camera may deliver. -/
theorem validate_eq_ok {spec : CaptureSpec} {modality : CaptureModality}
    (valid : spec.validate modality = .ok ()) :
    0 < spec.width.toNat ∧ 0 < spec.height.toNat ∧ 0 < spec.maxFrameBytes ∧
      modality.Admits spec.pixelFormat := by
  rw [validate, require_eq_ok_iff] at valid
  obtain ⟨width, height, -, -, -, -, bytes, format⟩ := valid
  have positive : ∀ extent : UInt32, extent ≠ 0 → 0 < extent.toNat := by
    intro extent nonzero
    apply Nat.pos_of_ne_zero
    exact fun zero => nonzero (UInt32.toNat_inj.mp zero)
  exact ⟨positive _ width, positive _ height, Nat.pos_of_ne_zero bytes, format⟩

end CaptureSpec

/-- A frame in the exact format and size that a stream of the requirements yields. -/
structure CapturedFrame.Conforms (frame : CapturedFrame) (spec : CaptureSpec)
    (modality : CaptureModality) : Prop where
  modality : frame.summary.modality = modality
  format : frame.summary.format = spec.negotiated
  length : frame.summary.bytes = frame.data.length
  nonempty : 0 < frame.data.length
  bounded : frame.data.length ≤ spec.maxFrameBytes
  exact : ∀ size ∈ spec.frameBytes, frame.data.length = size

/-- A frame with nothing on it. -/
def CaptureSpec.blank (spec : CaptureSpec) (modality : CaptureModality)
    (timestampMicros : Nat) : CapturedFrame where
  summary := ⟨modality, timestampMicros, 0, spec.frameBytes.getD 1, spec.negotiated⟩
  data := List.replicate (spec.frameBytes.getD 1) 0

/-- Frames conform unless the limit of the stream excludes their exact size. -/
theorem CaptureSpec.blank_conforms {spec : CaptureSpec} {modality : CaptureModality}
    (valid : spec.validate modality = .ok ()) (fits : spec.Fits) (timestampMicros : Nat) :
    (spec.blank modality timestampMicros).Conforms spec modality := by
  obtain ⟨width, height, bytes, -⟩ := spec.validate_eq_ok valid
  have pixels := Nat.mul_pos width height
  have length : (spec.blank modality timestampMicros).data.length = spec.frameBytes.getD 1 :=
    List.length_replicate
  refine ⟨rfl, rfl, length.symm, ?_, ?_, ?_⟩
  · rw [length, frameBytes]
    cases spec.pixelFormat with
    | gray8 => exact pixels
    | yuyv => exact Nat.mul_pos pixels (by omega)
    | mjpeg => exact Nat.one_pos
  · rw [length]
    cases found : spec.frameBytes with
    | some size => exact fits size found
    | none => exact bytes
  · intro size found
    rw [length, Option.mem_def.mp found, Option.getD_some]

/-! ## Returned pairs -/

/-- A capture under the policy returned the pair, from some sources. -/
def PairedFrames.ReturnedUnder (pair : PairedFrames) (policy : PairingPolicy) : Prop :=
  ∃ (State : Type) (sources : FrameSources State) (state : State),
    (capturePairCancellable sources policy state).result = .ok pair

section Capture

variable {State : Type} {sources : FrameSources State} {policy : PairingPolicy}

/-- The frames that alignment returns are close, and each is one that it was given or that its
camera yielded. -/
theorem alignFrames_yields {yields : CaptureModality → CapturedFrame → Prop}
    (sourced : ∀ camera state frame, (sources.nextFrame camera state).1 = .ok frame →
      yields camera frame)
    {replacements : List Nat} {infrared visible : CapturedFrame} {state : State}
    {pair : PairedFrames} (first : yields .infrared infrared) (second : yields .visible visible)
    (aligned : (alignFrames sources policy replacements infrared visible state).result =
      .ok pair) :
    absDiff pair.infrared.summary.timestampMicros pair.visible.summary.timestampMicros ≤
      policy.maxSkewMicros ∧ yields .infrared pair.infrared ∧ yields .visible pair.visible := by
  induction replacements generalizing infrared visible state with
  | nil => cases aligned
  | cons replacement replacements ih =>
      unfold alignFrames at aligned
      obtain ⟨-, -, aligned⟩ := Stepwise.result_bind_eq_ok aligned
      dsimp only at aligned
      split at aligned
      · next close =>
          cases aligned
          exact ⟨close, first, second⟩
      · split at aligned
        · cases aligned
        · obtain ⟨-, -, aligned⟩ := Stepwise.result_bind_eq_ok aligned
          split at aligned
          · obtain ⟨frame, read, aligned⟩ := Stepwise.result_bind_eq_ok aligned
            obtain ⟨-, -, aligned⟩ := Stepwise.result_bind_eq_ok aligned
            exact ih (sourced _ _ frame read) second aligned
          · obtain ⟨frame, read, aligned⟩ := Stepwise.result_bind_eq_ok aligned
            obtain ⟨-, -, aligned⟩ := Stepwise.result_bind_eq_ok aligned
            exact ih first (sourced _ _ frame read) aligned

/-- A captured pair is within the skew and consists of frames that the two cameras gave. -/
theorem capturePair_yields {yields : CaptureModality → CapturedFrame → Prop}
    (sourced : ∀ camera state frame, (sources.nextFrame camera state).1 = .ok frame →
      yields camera frame)
    {state : State} {pair : PairedFrames}
    (captured : (capturePairCancellable sources policy state).result = .ok pair) :
    absDiff pair.infrared.summary.timestampMicros pair.visible.summary.timestampMicros ≤
      policy.maxSkewMicros ∧ yields .infrared pair.infrared ∧ yields .visible pair.visible := by
  unfold capturePairCancellable at captured
  obtain ⟨-, -, captured⟩ := Stepwise.result_bind_eq_ok captured
  obtain ⟨-, -, captured⟩ := Stepwise.result_bind_eq_ok captured
  obtain ⟨infrared, first, captured⟩ := Stepwise.result_bind_eq_ok captured
  obtain ⟨-, -, captured⟩ := Stepwise.result_bind_eq_ok captured
  obtain ⟨visible, second, captured⟩ := Stepwise.result_bind_eq_ok captured
  obtain ⟨-, -, captured⟩ := Stepwise.result_bind_eq_ok captured
  obtain ⟨-, -, captured⟩ := Stepwise.result_bind_eq_ok captured
  exact alignFrames_yields sourced (sourced _ _ infrared first) (sourced _ _ visible second)
    captured

/-- The frames of a returned pair are as close as the policy asks. -/
theorem PairedFrames.ReturnedUnder.skew {pair : PairedFrames}
    (returned : pair.ReturnedUnder policy) :
    absDiff pair.infrared.summary.timestampMicros pair.visible.summary.timestampMicros ≤
      policy.maxSkewMicros := by
  obtain ⟨State, sources, state, captured⟩ := returned
  have sourced : ∀ camera state frame, (sources.nextFrame camera state).1 = .ok frame → True :=
    fun _ _ _ _ => trivial
  exact (capturePair_yields sourced captured).1

/-- Cameras that keep yielding the frames of a pair. -/
def PairedFrames.steadySources (pair : PairedFrames) : FrameSources Unit where
  nextFrame camera state :=
    (.ok (match camera with
      | .infrared => pair.infrared
      | .visible => pair.visible), state)
  shouldCancel state := (false, state)

/-- Two close frames of the two cameras are returned. -/
theorem PairedFrames.returnedUnder_of_close {pair : PairedFrames}
    (valid : policy.validate = .ok ())
    (infrared : pair.infrared.summary.modality = .infrared)
    (visible : pair.visible.summary.modality = .visible)
    (close : absDiff pair.infrared.summary.timestampMicros
      pair.visible.summary.timestampMicros ≤ policy.maxSkewMicros) :
    pair.ReturnedUnder policy := by
  refine ⟨Unit, pair.steadySources, (), ?_⟩
  have live : (pair.steadySources.checkCancelled ()).result = .ok () := rfl
  have first : ensureModality pair.infrared .infrared = .ok () := by
    rw [ensureModality, require_eq_ok_iff]
    exact infrared
  have second : ensureModality pair.visible .visible = .ok () := by
    rw [ensureModality, require_eq_ok_iff]
    exact visible
  have aligned : (alignFrames pair.steadySources policy
      (List.range (policy.maxReplacements + 1)) pair.infrared pair.visible ()).result =
        .ok pair := by
    rw [List.range_succ_eq_map]
    refine (Stepwise.result_bind_of_ok live).trans ?_
    rw [if_pos close]
    rfl
  refine (Stepwise.result_bind_of_ok valid).trans ?_
  refine (Stepwise.result_bind_of_ok live).trans ?_
  refine (@Stepwise.result_bind_of_ok _ _ _ _ _ _ _ pair.infrared rfl).trans ?_
  refine (Stepwise.result_bind_of_ok live).trans ?_
  refine (@Stepwise.result_bind_of_ok _ _ _ _ _ _ _ pair.visible rfl).trans ?_
  refine (Stepwise.result_bind_of_ok first).trans ?_
  exact (Stepwise.result_bind_of_ok second).trans aligned

end Capture

end FaceAuth
