import FaceAuth.Core.Io
import FaceAuth.Core.Policy
import FaceAuth.Foundation.Stepwise

/-!
# Frame pairing

A frame of the infrared camera and one of the visible camera make a pair when
their timestamps are close. The older of the two is replaced until they are, for
a bounded number of replacements.
-/

namespace FaceAuth

open Foundation

/-- The camera a frame comes from. -/
inductive CaptureModality where
  | infrared | visible
deriving DecidableEq, Repr

/-- Pixel encoding accepted by the capture boundary. -/
inductive PixelFormat where
  | gray8 | yuyv | mjpeg
deriving DecidableEq, Repr

/-- Capture or pairing failure. -/
inductive CaptureError where
  | invalidSpec
  | cancelled
  | negotiatedFormatMismatch
  | negotiatedFrameRateMismatch
  | frameTimeout (node : String)
  | corruptFrame (node : String)
  | nonMonotonicTimestamp (node : String)
  | frameSizeInvalid (node : String)
  | invalidTimestamp
  | wrongModality (expected actual : CaptureModality)
  | pairingBudgetExhausted (lastSkewMicros : Nat)
  | io (error : IoError)
deriving DecidableEq, Repr

/-- Negotiated stream format. -/
structure NegotiatedFormat where
  width : UInt32
  height : UInt32
  pixelFormat : PixelFormat
  framesPerSecond : UInt32
deriving DecidableEq, Repr

/-- Metadata of a frame, with its kernel timestamp and driver sequence number. -/
structure FrameSummary where
  modality : CaptureModality
  timestampMicros : Nat
  sequence : UInt32
  bytes : Nat
  format : NegotiatedFormat
deriving DecidableEq, Repr

/-- One captured frame. -/
structure CapturedFrame where
  summary : FrameSummary
  data : List UInt8
deriving DecidableEq, Repr

/-- Paired infrared and visible-light frames. -/
structure PairedFrames where
  infrared : CapturedFrame
  visible : CapturedFrame
deriving DecidableEq, Repr

/-- Timestamp metadata for the capture policy. -/
def PairedFrames.timing (pair : PairedFrames) : CapturePair :=
  ⟨pair.infrared.summary.timestampMicros, some pair.visible.summary.timestampMicros⟩

/-- Bounded frame-pairing policy. -/
structure PairingPolicy where
  maxSkewMicros : Nat
  maxReplacements : Nat
deriving DecidableEq, Repr

/-- A pairing policy bounds the skew and the number of replaced frames. -/
def PairingPolicy.validate (policy : PairingPolicy) : Except CaptureError Unit :=
  require (policy.maxSkewMicros ≠ 0 ∧ policy.maxReplacements ≠ 0) .invalidSpec

/-- Two frame sources and a cancellation signal, over the state that they share. -/
structure FrameSources (State : Type) where
  nextFrame : CaptureModality → State → Except CaptureError CapturedFrame × State
  shouldCancel : State → Bool × State

namespace FrameSources

variable {State : Type} (sources : FrameSources State)

/-- Stop when the caller asks for it. -/
def checkCancelled : Stepwise State CaptureError Unit :=
  .act fun state =>
    (require ((sources.shouldCancel state).1 = false) .cancelled, (sources.shouldCancel state).2)

end FrameSources

/-- A source must give frames of its own camera. -/
def ensureModality (frame : CapturedFrame) (expected : CaptureModality) :
    Except CaptureError Unit :=
  require (frame.summary.modality = expected) (.wrongModality expected frame.summary.modality)

section Capture

variable {State : Type} (sources : FrameSources State) (policy : PairingPolicy)

/-- Replace the older frame, once for each number of the list, until the skew fits. -/
def alignFrames : List Nat → CapturedFrame → CapturedFrame →
    Stepwise State CaptureError PairedFrames
  | [], _, _ => .ofExcept (.error .invalidSpec)
  | replacement :: replacements, infrared, visible => do
      sources.checkCancelled
      let skew := absDiff infrared.summary.timestampMicros visible.summary.timestampMicros
      if skew ≤ policy.maxSkewMicros then
        return ⟨infrared, visible⟩
      else if replacement = policy.maxReplacements then
        .ofExcept (.error (.pairingBudgetExhausted skew))
      else
        sources.checkCancelled
        if infrared.summary.timestampMicros < visible.summary.timestampMicros then
          let infrared ← .act (sources.nextFrame .infrared)
          .ofExcept (ensureModality infrared .infrared)
          alignFrames replacements infrared visible
        else
          let visible ← .act (sources.nextFrame .visible)
          .ofExcept (ensureModality visible .visible)
          alignFrames replacements infrared visible

/-- Capture a bounded, timestamp-aligned pair while checking a cancellation signal. -/
def capturePairCancellable : Stepwise State CaptureError PairedFrames := do
  .ofExcept policy.validate
  sources.checkCancelled
  let infrared ← .act (sources.nextFrame .infrared)
  sources.checkCancelled
  let visible ← .act (sources.nextFrame .visible)
  .ofExcept (ensureModality infrared .infrared)
  .ofExcept (ensureModality visible .visible)
  alignFrames sources policy (List.range (policy.maxReplacements + 1)) infrared visible

/-! ## What the parts of a capture share -/

variable {sources policy} {holds : ∀ {Value : Type}, Stepwise State CaptureError Value → Prop}

/-- A property of both sources and of the signal that compositions keep. -/
structure FrameSources.Share (sources : FrameSources State)
    (holds : ∀ {Value : Type}, Stepwise State CaptureError Value → Prop) : Prop where
  frame : ∀ camera, holds (.act (sources.nextFrame camera))
  signal : holds sources.checkCancelled
  ofExcept : ∀ {Value : Type} (result : Except CaptureError Value), holds (.ofExcept result)
  bind : ∀ {Value Next : Type} {first : Stepwise State CaptureError Value}
    {second : Value → Stepwise State CaptureError Next},
    holds first → (∀ value, holds (second value)) → holds (first >>= second)

/-- The search for a pair keeps what all sources keep. -/
theorem FrameSources.Share.alignFrames (share : sources.Share holds) (replacements : List Nat)
    (infrared visible : CapturedFrame) :
    holds (alignFrames sources policy replacements infrared visible) := by
  induction replacements generalizing infrared visible with
  | nil => exact share.ofExcept _
  | cons replacement replacements ih =>
      refine share.bind share.signal fun _ => ?_
      dsimp only
      split
      · exact share.ofExcept (.ok _)
      · split
        · exact share.ofExcept _
        · refine share.bind share.signal fun _ => ?_
          split
          · refine share.bind (share.frame .infrared) fun frame => ?_
            exact share.bind (share.ofExcept _) fun _ => ih frame visible
          · refine share.bind (share.frame .visible) fun frame => ?_
            exact share.bind (share.ofExcept _) fun _ => ih infrared frame

/-- Capturing a pair has the property. -/
theorem FrameSources.Share.capturePairCancellable (share : sources.Share holds) :
    holds (capturePairCancellable sources policy) := by
  refine share.bind (share.ofExcept _) fun _ => ?_
  refine share.bind share.signal fun _ => ?_
  refine share.bind (share.frame .infrared) fun infrared => ?_
  refine share.bind share.signal fun _ => ?_
  refine share.bind (share.frame .visible) fun visible => ?_
  refine share.bind (share.ofExcept _) fun _ => ?_
  refine share.bind (share.ofExcept _) fun _ => ?_
  exact share.alignFrames _ infrared visible

end Capture

end FaceAuth
