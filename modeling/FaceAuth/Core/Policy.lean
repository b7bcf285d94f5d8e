import FaceAuth.Foundation.Check
import FaceAuth.Foundation.Float32
import FaceAuth.Foundation.Word

/-!
# Capture and authentication policy

The rules for one pair of camera timestamps, and the final decision over
evidence that was already computed. Scores are IEEE single-precision values in
the closed unit interval.
-/

namespace FaceAuth

open Foundation

/-- Timestamp metadata of a paired camera observation, in monotonic microseconds. -/
structure CapturePair where
  infraredTimestampMicros : Nat
  visibleTimestampMicros : Option Nat
deriving DecidableEq, Repr

/-- Invalid policy or evidence. -/
inductive PolicyError where
  | infraredRequired
  | pairSkewMustBePositive
  | visibleFrameRequired
  | framePairTooFarApart (actualMicros maximumMicros : Nat)
  | invalidUnitScore (field : String)
  | passwordFallbackRequired
deriving DecidableEq, Repr

/-- A finite score in the closed unit interval. -/
def UnitScore (value : Float32) : Prop := value.isFinite = true ∧ 0.0 ≤ value ∧ value ≤ 1.0

instance : DecidablePred UnitScore := fun _ => inferInstanceAs (Decidable (_ ∧ _ ∧ _))

/-- Scores are finite and lie between zero and one. -/
def validateUnitScore (field : String) (value : Float32) : Except PolicyError Unit :=
  require (UnitScore value) (.invalidUnitScore field)

/-- Rules for accepting one capture pair. -/
structure CapturePolicy where
  requireInfrared : Bool
  requireVisible : Bool
  maxPairSkewMicros : Nat
deriving DecidableEq, Repr

namespace CapturePolicy

/-- Both cameras, and at most a tenth of a second between them. -/
def default : CapturePolicy where
  requireInfrared := true
  requireVisible := true
  maxPairSkewMicros := 100_000

/-- The infrared camera is mandatory, and the skew is bounded. -/
def validate (policy : CapturePolicy) : Except PolicyError Unit := do
  require (policy.requireInfrared = true) .infraredRequired
  require (policy.maxPairSkewMicros ≠ 0) .pairSkewMustBePositive

/-- Check whether timestamp metadata satisfies this capture policy. -/
def accepts (policy : CapturePolicy) (pair : CapturePair) : Except PolicyError Unit := do
  policy.validate
  match pair.visibleTimestampMicros with
  | none => require (policy.requireVisible = false) .visibleFrameRequired
  | some visibleTimestamp =>
      let skew := absDiff pair.infraredTimestampMicros visibleTimestamp
      require (skew ≤ policy.maxPairSkewMicros)
        (.framePairTooFarApart skew policy.maxPairSkewMicros)

/-- The timestamps of a pair are as close as the policy asks, and the visible
frame is there when it asks for one. -/
def Admits (policy : CapturePolicy) (pair : CapturePair) : Prop :=
  match pair.visibleTimestampMicros with
  | none => policy.requireVisible = false
  | some visibleTimestamp =>
      absDiff pair.infraredTimestampMicros visibleTimestamp ≤ policy.maxPairSkewMicros

/-- The valid policies require infrared and allow some skew. -/
theorem validate_eq_ok_iff {policy : CapturePolicy} :
    policy.validate = .ok () ↔
      policy.requireInfrared = true ∧ policy.maxPairSkewMicros ≠ 0 := by
  simp [validate]

/-- A pair is accepted when the policy is valid and admits it. -/
theorem accepts_eq_ok_iff {policy : CapturePolicy} {pair : CapturePair} :
    policy.accepts pair = .ok () ↔ policy.validate = .ok () ∧ policy.Admits pair := by
  unfold accepts Admits
  cases pair.visibleTimestampMicros <;> simp

/-- The default passes its own check. -/
theorem default_valid : default.validate = .ok () := rfl

end CapturePolicy

/-- Required presentation-attack detection strength. -/
inductive LivenessLevel where
  | passive | passiveAndActive
deriving DecidableEq, Repr

/-- Whether a required camera observation is part of the evidence set. -/
inductive ObservationStatus where
  | missing | observed
deriving DecidableEq, Repr

/-- Result of a liveness or challenge check. -/
inductive CheckStatus where
  | notPerformed | failed | passed
deriving DecidableEq, Repr

/-- Evidence produced by the capture, quality, liveness, and recognition pipeline. -/
structure AuthenticationEvidence where
  similarity : Float32
  quality : Float32
  infrared : ObservationStatus
  visible : ObservationStatus
  passiveLiveness : CheckStatus
  activeChallenge : CheckStatus
deriving DecidableEq

/-- Stable policy decision reason. -/
inductive DecisionReason where
  | accepted
  | infraredMissing
  | visibleMissing
  | insufficientQuality
  | passiveLivenessFailed
  | activeChallengeFailed
  | faceMismatch
deriving DecidableEq, Repr

/-- Result of policy evaluation. -/
structure AuthenticationDecision where
  accepted : Bool
  reason : DecisionReason
deriving DecidableEq, Repr

/-- Authentication policy evaluated after capture and inference. -/
structure AuthPolicy where
  capture : CapturePolicy
  liveness : LivenessLevel
  minimumSimilarity : Float32
  minimumQuality : Float32
  passwordFallback : Bool
deriving DecidableEq

namespace AuthPolicy

/-- The policy that a daemon uses unless it is told otherwise. -/
def default : AuthPolicy where
  capture := .default
  liveness := .passiveAndActive
  minimumSimilarity := 0.55
  minimumQuality := 0.65
  passwordFallback := true

/-- The capture policy is valid, and so are the two scores. -/
def validate (policy : AuthPolicy) : Except PolicyError Unit := do
  policy.capture.validate
  validateUnitScore "minimum_similarity" policy.minimumSimilarity
  validateUnitScore "minimum_quality" policy.minimumQuality
  require (policy.passwordFallback = true) .passwordFallbackRequired

/-- The first requirement that the evidence misses. -/
def reason (policy : AuthPolicy) (evidence : AuthenticationEvidence) : DecisionReason :=
  if evidence.infrared ≠ .observed then .infraredMissing
  else if policy.capture.requireVisible = true ∧ evidence.visible ≠ .observed then .visibleMissing
  else if evidence.quality < policy.minimumQuality then .insufficientQuality
  else if evidence.passiveLiveness ≠ .passed then .passiveLivenessFailed
  else if policy.liveness = .passiveAndActive ∧ evidence.activeChallenge ≠ .passed then
    .activeChallengeFailed
  else if evidence.similarity < policy.minimumSimilarity then .faceMismatch
  else .accepted

/-- Evaluate already-computed evidence without performing camera or model work. -/
def evaluate (policy : AuthPolicy) (evidence : AuthenticationEvidence) :
    Except PolicyError AuthenticationDecision := do
  policy.validate
  validateUnitScore "similarity" evidence.similarity
  validateUnitScore "quality" evidence.quality
  let reason := policy.reason evidence
  return ⟨decide (reason = .accepted), reason⟩

/-- The default passes its own check. -/
theorem default_valid : default.validate = .ok () := by decide +kernel

/-- The thresholds of a valid policy are scores. -/
theorem validate_scores {policy : AuthPolicy} (valid : policy.validate = .ok ()) :
    UnitScore policy.minimumSimilarity ∧ UnitScore policy.minimumQuality := by
  simp only [validate, validateUnitScore, check_bind_eq_ok_iff, require_eq_ok_iff] at valid
  obtain ⟨-, similarity, quality, -⟩ := valid
  exact ⟨similarity, quality⟩

/-- Evidence is decided under a valid policy when both of its scores are scores, by its first
shortcoming. -/
theorem evaluate_eq_ok_iff {policy : AuthPolicy} {evidence : AuthenticationEvidence}
    {decision : AuthenticationDecision} :
    policy.evaluate evidence = .ok decision ↔
      policy.validate = .ok () ∧ UnitScore evidence.similarity ∧ UnitScore evidence.quality ∧
      decision = ⟨decide (policy.reason evidence = .accepted), policy.reason evidence⟩ := by
  simp only [evaluate, validateUnitScore, check_bind_eq_ok_iff, require_eq_ok_iff]
  constructor
  · rintro ⟨valid, similarity, quality, done⟩
    cases done
    exact ⟨valid, similarity, quality, rfl⟩
  · rintro ⟨valid, similarity, quality, rfl⟩
    exact ⟨valid, similarity, quality, rfl⟩

/-- Acceptance means that no requirement is missed. -/
theorem reason_eq_accepted_iff {policy : AuthPolicy} {evidence : AuthenticationEvidence} :
    policy.reason evidence = .accepted ↔
      evidence.infrared = .observed ∧
      (policy.capture.requireVisible = true → evidence.visible = .observed) ∧
      ¬ evidence.quality < policy.minimumQuality ∧ evidence.passiveLiveness = .passed ∧
      (policy.liveness = .passiveAndActive → evidence.activeChallenge = .passed) ∧
      ¬ evidence.similarity < policy.minimumSimilarity := by
  unfold reason
  split_ifs <;> simp_all

end AuthPolicy

end FaceAuth
