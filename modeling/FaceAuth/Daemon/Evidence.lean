import FaceAuth.Inference.Evidence
import FaceAuth.Liveness.Challenge
import FaceAuth.Storage.Record

/-!
# Evaluation of biometric evidence

One derived evidence set against one stored template: capture timing, template
comparison, presentation-attack scores and the final policy, each with its own
errors. `Admissible` says in its own terms what an acceptance requires.
-/

namespace FaceAuth

open Foundation

/-- Failure while bridging templates into inference evidence. -/
inductive BiometricComparisonError where
  | storage (error : StorageError)
  | inference (error : InferenceError)
deriving DecidableEq, Repr

/-- Compare an observed embedding against one authenticated template record. -/
def compareTemplate (template : TemplateRecord) (observed : FaceEmbedding) :
    Except BiometricComparisonError Float32 := do
  (template.requireCompatibility observed.compatibilitySha256 observed.values.length).mapError
    .storage
  let enrolled ← (FaceEmbedding.fromNormalizedTemplate template.modelCompatibilitySha256
    template.embedding).mapError .inference
  (observed.similarity enrolled).mapError .inference

/-- Failure while assembling and evaluating authentication evidence. -/
inductive AuthenticationPipelineError where
  | invalidPassivePadPolicy
  | passivePadEvidenceInvalid
  | policy (error : PolicyError)
  | comparison (error : BiometricComparisonError)
  | inference (error : InferenceError)
deriving DecidableEq, Repr

/-- The one score of a role, produced by the configured model. -/
def exactPadScore (scores : List PassiveLivenessScore) (role : ModelRole)
    (compatibilitySha256 : List UInt8) :
    Except AuthenticationPipelineError PassiveLivenessScore :=
  match scores.filter fun score => score.role = role with
  | [] => .error .passivePadEvidenceInvalid
  | [score] =>
      if score.compatibilitySha256 = compatibilitySha256 then .ok score
      else .error .passivePadEvidenceInvalid
  | _ :: _ :: _ => .error .passivePadEvidenceInvalid

/-- Exact passive presentation-attack model contracts and calibrated thresholds. -/
structure PassivePadPolicy where
  infraredCompatibilitySha256 : List UInt8
  minimumInfraredProbability : Float32
  visibleCompatibilitySha256 : List UInt8
  minimumVisibleProbability : Float32
  fusion : Option (List UInt8 × Float32)
deriving DecidableEq

namespace PassivePadPolicy

/-- Both digests and the one of a fusion are well formed, and all thresholds are scores. -/
def validate (policy : PassivePadPolicy) : Except AuthenticationPipelineError Unit :=
  require (ValidDigest policy.infraredCompatibilitySha256 ∧
    UnitScore policy.minimumInfraredProbability ∧
    ValidDigest policy.visibleCompatibilitySha256 ∧
    UnitScore policy.minimumVisibleProbability ∧
    policy.fusion.all (fun contract => ValidDigest contract.1 ∧ UnitScore contract.2) = true)
    .invalidPassivePadPolicy

/-- The verdict of the fusion model, or its absence when none is configured. -/
def fusionPassed (policy : PassivePadPolicy) (scores : List PassiveLivenessScore) :
    Except AuthenticationPipelineError Bool :=
  match policy.fusion with
  | some (digest, minimum) => do
      let score ← exactPadScore scores .passiveLivenessFusion digest
      (score.passes minimum).mapError .inference
  | none => .ok (!scores.any fun score => score.role = .passiveLivenessFusion)

/-- Whether the scores are there as configured and pass. -/
def accepts (policy : PassivePadPolicy) (scores : List PassiveLivenessScore) :
    Except AuthenticationPipelineError Bool := do
  policy.validate
  let infrared ← exactPadScore scores .passiveLivenessInfrared policy.infraredCompatibilitySha256
  let visible ← exactPadScore scores .passiveLivenessVisible policy.visibleCompatibilitySha256
  let fusionPassed ← policy.fusionPassed scores
  let infraredPassed ← (infrared.passes policy.minimumInfraredProbability).mapError .inference
  if infraredPassed = true then
    let visiblePassed ← (visible.passes policy.minimumVisibleProbability).mapError .inference
    return visiblePassed && fusionPassed
  else
    return false

/-- Exactly one score has the role, from the configured model and at or above
its threshold. -/
def RolePasses (scores : List PassiveLivenessScore) (role : ModelRole)
    (compatibilitySha256 : List UInt8) (minimum : Float32) : Prop :=
  ∃ score, scores.filter (fun score => score.role = role) = [score] ∧
    score.compatibilitySha256 = compatibilitySha256 ∧ minimum ≤ score.probability

/-- Every configured role passes, and no other role takes part. -/
structure Passes (policy : PassivePadPolicy) (scores : List PassiveLivenessScore) : Prop where
  valid : policy.validate = .ok ()
  infrared : RolePasses scores .passiveLivenessInfrared policy.infraredCompatibilitySha256
    policy.minimumInfraredProbability
  visible : RolePasses scores .passiveLivenessVisible policy.visibleCompatibilitySha256
    policy.minimumVisibleProbability
  fusion : ∀ contract ∈ policy.fusion,
    RolePasses scores .passiveLivenessFusion contract.1 contract.2
  unfused : policy.fusion = none → ∀ score ∈ scores, score.role ≠ .passiveLivenessFusion

end PassivePadPolicy

/-- The score of a role is found when it is the only one and has the right digest. -/
theorem exactPadScore_eq_ok_iff {scores : List PassiveLivenessScore} {role : ModelRole}
    {digest : List UInt8} {score : PassiveLivenessScore} :
    exactPadScore scores role digest = .ok score ↔
      scores.filter (fun score => score.role = role) = [score] ∧
        score.compatibilitySha256 = digest := by
  unfold exactPadScore
  cases scores.filter fun score => score.role = role with
  | nil => simp
  | cons first rest =>
      cases rest with
      | nil =>
          by_cases same : first.compatibilitySha256 = digest
          · simp only [same, ↓reduceIte, Except.ok.injEq, List.cons.injEq, and_true]
            exact ⟨fun equal => ⟨equal, equal ▸ same⟩, fun parts => parts.1⟩
          · simp only [same, ↓reduceIte, reduceCtorEq, List.cons.injEq, and_true, false_iff]
            rintro ⟨rfl, equal⟩
            exact same equal
      | cons second more => simp

namespace PassivePadPolicy

variable {policy : PassivePadPolicy} {scores : List PassiveLivenessScore}

/-- The thresholds of a valid policy are scores. -/
theorem validate_thresholds (valid : policy.validate = .ok ()) :
    UnitScore policy.minimumInfraredProbability ∧ UnitScore policy.minimumVisibleProbability ∧
      ∀ contract ∈ policy.fusion, UnitScore contract.2 := by
  rw [validate, require_eq_ok_iff] at valid
  obtain ⟨-, infrared, -, visible, fusion⟩ := valid
  refine ⟨infrared, visible, fun contract member => ?_⟩
  exact (of_decide_eq_true (Option.all_eq_true _ _ |>.mp fusion contract member)).2

/-- A threshold that was validated lets the comparison decide. -/
theorem passes_eq_ok_true_iff {score : PassiveLivenessScore} {minimum : Float32}
    (unit : UnitScore minimum) :
    (score.passes minimum).mapError AuthenticationPipelineError.inference = .ok true ↔
      minimum ≤ score.probability := by
  rw [mapError_eq_ok_iff, score.passes_of_unit unit, Except.ok.injEq, decide_eq_true_iff]

/-- The fusion passes when its score does, or when there is neither a policy nor a score for it. -/
theorem fusionPassed_eq_ok_true_iff
    (units : ∀ contract ∈ policy.fusion, UnitScore contract.2) :
    policy.fusionPassed scores = .ok true ↔
      (∀ contract ∈ policy.fusion,
        RolePasses scores .passiveLivenessFusion contract.1 contract.2) ∧
      (policy.fusion = none → ∀ score ∈ scores, score.role ≠ .passiveLivenessFusion) := by
  unfold fusionPassed
  cases configured : policy.fusion with
  | none => simp
  | some contract =>
      rcases contract with ⟨digest, minimum⟩
      have unit : UnitScore minimum := units (digest, minimum) configured
      dsimp only
      rw [bind_eq_ok_iff]
      simp only [exactPadScore_eq_ok_iff, passes_eq_ok_true_iff unit, Option.mem_def,
        Option.some.injEq, forall_eq', reduceCtorEq, false_implies, and_true]
      exact ⟨fun ⟨score, ⟨only, same⟩, above⟩ => ⟨score, only, same, above⟩,
        fun ⟨score, only, same, above⟩ => ⟨score, ⟨only, same⟩, above⟩⟩

/-- The policy accepts exactly the score lists in which every role passes. -/
theorem accepts_eq_ok_true_iff : policy.accepts scores = .ok true ↔ policy.Passes scores := by
  unfold accepts
  rw [check_bind_eq_ok_iff]
  constructor
  · rintro ⟨valid, accepted⟩
    obtain ⟨infraredUnit, visibleUnit, fusionUnit⟩ := validate_thresholds valid
    obtain ⟨infrared, oneInfrared, accepted⟩ := bind_eq_ok_iff.mp accepted
    obtain ⟨visible, oneVisible, accepted⟩ := bind_eq_ok_iff.mp accepted
    obtain ⟨fused, fusion, accepted⟩ := bind_eq_ok_iff.mp accepted
    obtain ⟨first, infraredPasses, accepted⟩ := bind_eq_ok_iff.mp accepted
    rw [exactPadScore_eq_ok_iff] at oneInfrared oneVisible
    cases first with
    | false => cases accepted
    | true =>
        obtain ⟨second, visiblePasses, accepted⟩ := bind_eq_ok_iff.mp accepted
        have both : (second && fused) = true := Except.ok.inj accepted
        rw [Bool.and_eq_true] at both
        obtain ⟨rfl, rfl⟩ := both
        obtain ⟨configured, unfused⟩ := (fusionPassed_eq_ok_true_iff fusionUnit).mp fusion
        exact {
          valid
          infrared := ⟨infrared, oneInfrared.1, oneInfrared.2,
            (passes_eq_ok_true_iff infraredUnit).mp infraredPasses⟩
          visible := ⟨visible, oneVisible.1, oneVisible.2,
            (passes_eq_ok_true_iff visibleUnit).mp visiblePasses⟩
          fusion := configured
          unfused }
  · intro passes
    obtain ⟨infraredUnit, visibleUnit, fusionUnit⟩ := validate_thresholds passes.valid
    obtain ⟨infrared, oneInfrared, infraredModel, infraredPasses⟩ := passes.infrared
    obtain ⟨visible, oneVisible, visibleModel, visiblePasses⟩ := passes.visible
    refine ⟨passes.valid, bind_eq_ok_iff.mpr ⟨infrared,
      exactPadScore_eq_ok_iff.mpr ⟨oneInfrared, infraredModel⟩, bind_eq_ok_iff.mpr ⟨visible,
      exactPadScore_eq_ok_iff.mpr ⟨oneVisible, visibleModel⟩, bind_eq_ok_iff.mpr ⟨true,
      (fusionPassed_eq_ok_true_iff fusionUnit).mpr ⟨passes.fusion, passes.unfused⟩,
      bind_eq_ok_iff.mpr ⟨true, (passes_eq_ok_true_iff infraredUnit).mpr infraredPasses, ?_⟩⟩⟩⟩⟩
    exact bind_eq_ok_iff.mpr ⟨true, (passes_eq_ok_true_iff visibleUnit).mpr visiblePasses, rfl⟩

end PassivePadPolicy

/-- Ephemeral, derived evidence for one authentication policy evaluation. -/
structure AuthenticationObservation where
  timing : CapturePair
  quality : Float32
  embedding : FaceEmbedding
  passiveLiveness : List PassiveLivenessScore
  activeChallenge : ChallengeProgress
deriving DecidableEq

/-- A check that passed or failed. -/
def CheckStatus.ofPassed (passed : Prop) [Decidable passed] : CheckStatus :=
  if passed then .passed else .failed

/-- A status tells whether the check passed. -/
@[simp] theorem CheckStatus.ofPassed_eq_passed_iff {passed : Prop} [Decidable passed] :
    CheckStatus.ofPassed passed = .passed ↔ passed := by
  by_cases holds : passed <;> simp [CheckStatus.ofPassed, holds]

/-- The evidence of an observation whose pair was captured, compared and scored. -/
def AuthenticationObservation.evidence (observation : AuthenticationObservation)
    (similarity : Float32) (padPassed : Bool) : AuthenticationEvidence where
  similarity := similarity
  quality := observation.quality
  infrared := .observed
  visible := .observed
  passiveLiveness := .ofPassed (padPassed = true)
  activeChallenge := .ofPassed (observation.activeChallenge = .passed)

/-- Evaluate a complete derived evidence set against one template. -/
def evaluateAuthentication (policy : AuthPolicy) (passivePadPolicy : PassivePadPolicy)
    (template : TemplateRecord) (observation : AuthenticationObservation) :
    Except AuthenticationPipelineError AuthenticationDecision := do
  (policy.capture.accepts observation.timing).mapError .policy
  let similarity ← (compareTemplate template observation.embedding).mapError .comparison
  let padPassed ← passivePadPolicy.accepts observation.passiveLiveness
  (policy.evaluate (observation.evidence similarity padPassed)).mapError .policy

/-- What an acceptance requires of the policies, the template and the evidence. -/
structure Admissible (policy : AuthPolicy) (passivePadPolicy : PassivePadPolicy)
    (template : TemplateRecord) (observation : AuthenticationObservation) : Prop where
  policyValid : policy.validate = .ok ()
  timing : policy.capture.Admits observation.timing
  templateValid : template.validate = .ok ()
  sameModel : template.modelCompatibilitySha256 = observation.embedding.compatibilitySha256
  sameDimension : template.embedding.length = observation.embedding.values.length
  pads : passivePadPolicy.Passes observation.passiveLiveness
  challenge : policy.liveness = .passiveAndActive → observation.activeChallenge = .passed
  quality : UnitScore observation.quality ∧ policy.minimumQuality ≤ observation.quality
  similarity : ∃ similarity, compareTemplate template observation.embedding = .ok similarity ∧
    UnitScore similarity ∧ policy.minimumSimilarity ≤ similarity

/-- Evidence, template or policies that cannot be evaluated. -/
def Malformed (policy : AuthPolicy) (passivePadPolicy : PassivePadPolicy)
    (template : TemplateRecord) (observation : AuthenticationObservation) : Prop :=
  (∃ error, policy.capture.accepts observation.timing = .error error) ∨
  (∃ error, template.requireCompatibility observation.embedding.compatibilitySha256
    observation.embedding.values.length = .error error) ∨
  (∃ error, compareTemplate template observation.embedding = .error error) ∨
  (∃ error, passivePadPolicy.accepts observation.passiveLiveness = .error error) ∨
  (∃ error, policy.validate = .error error) ∨ ¬ UnitScore observation.quality

section Evaluation

variable {policy : AuthPolicy} {passivePadPolicy : PassivePadPolicy} {template : TemplateRecord}
  {observation : AuthenticationObservation} {decision : AuthenticationDecision}

/-- Only embeddings of one model and one length are compared. -/
theorem compareTemplate_compatible {similarity : Float32}
    (compared : compareTemplate template observation.embedding = .ok similarity) :
    template.validate = .ok () ∧
      template.modelCompatibilitySha256 = observation.embedding.compatibilitySha256 ∧
      template.embedding.length = observation.embedding.values.length := by
  unfold compareTemplate at compared
  rw [check_bind_eq_ok_iff, mapError_eq_ok_iff,
    TemplateRecord.requireCompatibility_eq_ok_iff] at compared
  exact compared.1

/-- A decision is reached from a similarity, a verdict on the scores and the policy. -/
theorem evaluateAuthentication_eq_ok_iff :
    evaluateAuthentication policy passivePadPolicy template observation = .ok decision ↔
      policy.capture.accepts observation.timing = .ok () ∧
      ∃ similarity, compareTemplate template observation.embedding = .ok similarity ∧
      ∃ padPassed, passivePadPolicy.accepts observation.passiveLiveness = .ok padPassed ∧
      policy.evaluate (observation.evidence similarity padPassed) = .ok decision := by
  unfold evaluateAuthentication
  rw [check_bind_eq_ok_iff]
  simp only [bind_eq_ok_iff, mapError_eq_ok_iff]

/-- Evaluation accepts exactly the admissible evidence. -/
theorem evaluateAuthentication_accepted_iff :
    evaluateAuthentication policy passivePadPolicy template observation =
        .ok ⟨true, .accepted⟩ ↔
      Admissible policy passivePadPolicy template observation := by
  rw [evaluateAuthentication_eq_ok_iff]
  constructor
  · rintro ⟨paired, similarity, compared, padPassed, padding, evaluated⟩
    obtain ⟨valid, unit, qualityUnit, decided⟩ := AuthPolicy.evaluate_eq_ok_iff.mp evaluated
    obtain ⟨similarityMinimum, qualityMinimum⟩ := AuthPolicy.validate_scores valid
    have reason : policy.reason (observation.evidence similarity padPassed) = .accepted :=
      (congrArg AuthenticationDecision.reason decided).symm
    obtain ⟨-, -, quality, pads, challenge, alike⟩ :=
      AuthPolicy.reason_eq_accepted_iff.mp reason
    obtain ⟨templateValid, sameModel, sameDimension⟩ := compareTemplate_compatible compared
    have passed : padPassed = true := CheckStatus.ofPassed_eq_passed_iff.mp pads
    subst passed
    exact {
      policyValid := valid
      timing := (CapturePolicy.accepts_eq_ok_iff.mp paired).2
      templateValid
      sameModel
      sameDimension
      pads := PassivePadPolicy.accepts_eq_ok_true_iff.mp padding
      challenge := fun active => CheckStatus.ofPassed_eq_passed_iff.mp (challenge active)
      quality := ⟨qualityUnit, float_le_of_not_lt qualityUnit.1 qualityMinimum.1 quality⟩
      similarity := ⟨similarity, compared, unit,
        float_le_of_not_lt unit.1 similarityMinimum.1 alike⟩ }
  · intro admissible
    obtain ⟨similarity, compared, unit, alike⟩ := admissible.similarity
    have captureValid : policy.capture.validate = .ok () := by
      have valid := admissible.policyValid
      rw [AuthPolicy.validate, check_bind_eq_ok_iff] at valid
      exact valid.1
    refine ⟨CapturePolicy.accepts_eq_ok_iff.mpr ⟨captureValid, admissible.timing⟩, similarity,
      compared, true, PassivePadPolicy.accepts_eq_ok_true_iff.mpr admissible.pads,
      AuthPolicy.evaluate_eq_ok_iff.mpr ⟨admissible.policyValid, unit, admissible.quality.1, ?_⟩⟩
    have reason : policy.reason (observation.evidence similarity true) = .accepted :=
      AuthPolicy.reason_eq_accepted_iff.mpr ⟨rfl, fun _ => rfl,
        float_not_lt_of_le admissible.quality.2, rfl,
        fun active => CheckStatus.ofPassed_eq_passed_iff.mpr (admissible.challenge active),
        float_not_lt_of_le alike⟩
    rw [reason]
    rfl

/-- Malformed evidence is never decided. -/
theorem evaluateAuthentication_malformed
    (malformed : Malformed policy passivePadPolicy template observation) :
    ∃ error, evaluateAuthentication policy passivePadPolicy template observation =
      .error error := by
  cases evaluated : evaluateAuthentication policy passivePadPolicy template observation with
  | error error => exact ⟨error, rfl⟩
  | ok decision =>
      obtain ⟨paired, similarity, compared, padPassed, padding, decided⟩ :=
        evaluateAuthentication_eq_ok_iff.mp evaluated
      obtain ⟨valid, -, quality, -⟩ := AuthPolicy.evaluate_eq_ok_iff.mp decided
      rcases malformed with ⟨error, failed⟩ | ⟨error, failed⟩ | ⟨error, failed⟩ | ⟨error, failed⟩ |
        ⟨error, failed⟩ | failed
      · rw [paired] at failed
        cases failed
      · rw [TemplateRecord.requireCompatibility_eq_ok_iff.mpr
          (compareTemplate_compatible compared)] at failed
        cases failed
      · rw [compared] at failed
        cases failed
      · rw [padding] at failed
        cases failed
      · rw [valid] at failed
        cases failed
      · exact absurd quality failed

end Evaluation

end FaceAuth
