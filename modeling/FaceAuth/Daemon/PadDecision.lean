import FaceAuth.Daemon.Evidence

/-!
# The decision of the passive presentation-attack policy

A list of scores fits a policy when every configured role has exactly one score,
of the configured model, and no other role has any. `Misfit` lists the ways to
fail this in the policy's own terms; it is compared with the sequence of checks
that the code applies.
-/

namespace FaceAuth

open Foundation

/-- One configured role with its model and its threshold. -/
structure PadContract where
  role : ModelRole
  compatibilitySha256 : List UInt8
  minimum : Float32
deriving DecidableEq

namespace PadContract

/-- The role has exactly one score, from the configured model. -/
def Answered (contract : PadContract) (scores : List PassiveLivenessScore) : Prop :=
  ∃ score, scores.filter (fun score => score.role = contract.role) = [score] ∧
    score.compatibilitySha256 = contract.compatibilitySha256

/-- The scores of the role reach its threshold. -/
def Reached (contract : PadContract) (scores : List PassiveLivenessScore) : Prop :=
  ∀ score ∈ scores, score.role = contract.role → contract.minimum ≤ score.probability

instance (contract : PadContract) (scores : List PassiveLivenessScore) :
    Decidable (contract.Reached scores) :=
  inferInstanceAs (Decidable (∀ score ∈ scores, _ → _))

variable {contract : PadContract} {scores : List PassiveLivenessScore}

/-- A contract is answered when its exact score is found. -/
theorem answered_iff_exactPadScore :
    contract.Answered scores ↔ ∃ score,
      exactPadScore scores contract.role contract.compatibilitySha256 = .ok score := by
  simp only [Answered, exactPadScore_eq_ok_iff]

/-- A role fails to be answered when it is missing, duplicated or of another model. -/
theorem not_answered_iff :
    ¬ contract.Answered scores ↔
      (∀ score ∈ scores, score.role ≠ contract.role) ∨
      1 < (scores.filter fun score => score.role = contract.role).length ∨
      ∃ score ∈ scores, score.role = contract.role ∧
        score.compatibilitySha256 ≠ contract.compatibilitySha256 := by
  have members : ∀ score, score ∈ scores.filter (fun score => score.role = contract.role) ↔
      score ∈ scores ∧ score.role = contract.role := by
    simp only [List.mem_filter, decide_eq_true_eq, implies_true]
  constructor
  · intro unanswered
    match found : scores.filter fun score => score.role = contract.role with
    | [] =>
        refine Or.inl fun score member same => ?_
        have inside := (members score).mpr ⟨member, same⟩
        simp only [found, List.not_mem_nil] at inside
    | [score] =>
        have inside : score ∈ scores ∧ score.role = contract.role := by
          apply (members score).mp
          simp only [found, List.mem_singleton]
        refine Or.inr (Or.inr ⟨score, inside.1, inside.2, fun same => ?_⟩)
        exact unanswered ⟨score, found, same⟩
    | first :: second :: rest =>
        refine Or.inr (Or.inl ?_)
        rw [found, List.length_cons, List.length_cons]
        omega
  · intro failing answered
    obtain ⟨only, found, same⟩ := answered
    have inside : only ∈ scores ∧ only.role = contract.role := by
      apply (members only).mp
      simp only [found, List.mem_singleton]
    rcases failing with absent | repeated | ⟨score, member, role, differs⟩
    · exact absent only inside.1 inside.2
    · rw [found, List.length_singleton] at repeated
      exact lt_irrefl 1 repeated
    · have equal := (members score).mpr ⟨member, role⟩
      simp only [found, List.mem_singleton] at equal
      exact differs (equal ▸ same)

/-- An answered role reaches its threshold with its one score. -/
theorem reached_iff {score : PassiveLivenessScore}
    (answer : exactPadScore scores contract.role contract.compatibilitySha256 = .ok score) :
    contract.Reached scores ↔ contract.minimum ≤ score.probability := by
  have only := (exactPadScore_eq_ok_iff.mp answer).1
  have members : ∀ other, (other ∈ scores ∧ other.role = contract.role) ↔ other = score := by
    intro other
    have listed : other ∈ scores.filter (fun score => score.role = contract.role) ↔
        other = score := by
      rw [only, List.mem_singleton]
    simpa only [List.mem_filter, decide_eq_true_eq] using listed
  constructor
  · intro reached
    obtain ⟨member, role⟩ := (members score).mpr rfl
    exact reached score member role
  · intro enough other member role
    rw [(members other).mp ⟨member, role⟩]
    exact enough

end PadContract

/-- Only presentation-attack models have scores. -/
theorem PassiveLivenessScore.padRole (score : PassiveLivenessScore) :
    score.role = .passiveLivenessInfrared ∨ score.role = .passiveLivenessVisible ∨
      score.role = .passiveLivenessFusion := by
  have validated := score.validated
  rw [PassiveLivenessScore.check, check_bind_eq_ok_iff, require_eq_ok_iff] at validated
  exact validated.1

/-- The order of the scores does not choose among them. -/
theorem exactPadScore_perm {scores others : List PassiveLivenessScore}
    (shuffled : scores.Perm others) (role : ModelRole) (digest : List UInt8) :
    exactPadScore others role digest = exactPadScore scores role digest := by
  have filtered := shuffled.filter fun score => score.role = role
  unfold exactPadScore
  generalize scores.filter (fun score => score.role = role) = matching at filtered ⊢
  generalize others.filter (fun score => score.role = role) = shuffledMatching at filtered ⊢
  match matching, shuffledMatching, filtered.length_eq with
  | [], [], _ => rfl
  | [score], [other], _ =>
      have same : score = other := by simpa only [List.singleton_perm_singleton] using filtered
      rw [same]
  | _ :: _ :: _, _ :: _ :: _, _ => rfl

namespace PassivePadPolicy

variable {policy : PassivePadPolicy} {scores : List PassiveLivenessScore}

/-- What is asked of the infrared score. -/
def infraredContract (policy : PassivePadPolicy) : PadContract :=
  ⟨.passiveLivenessInfrared, policy.infraredCompatibilitySha256,
    policy.minimumInfraredProbability⟩

/-- What is asked of the visible score. -/
def visibleContract (policy : PassivePadPolicy) : PadContract :=
  ⟨.passiveLivenessVisible, policy.visibleCompatibilitySha256,
    policy.minimumVisibleProbability⟩

/-- What is asked of a fusion score, if one is configured. -/
def fusionContracts (policy : PassivePadPolicy) : List PadContract :=
  policy.fusion.toList.map fun contract => ⟨.passiveLivenessFusion, contract.1, contract.2⟩

/-- Every role that the policy configures. -/
def contracts (policy : PassivePadPolicy) : List PadContract :=
  policy.infraredContract :: policy.visibleContract :: policy.fusionContracts

/-- A list of scores that is malformed for the policy. -/
inductive Misfit (policy : PassivePadPolicy) (scores : List PassiveLivenessScore) : Prop where
  | missing {contract : PadContract} (required : contract ∈ policy.contracts)
      (absent : ∀ score ∈ scores, score.role ≠ contract.role)
  | duplicated {contract : PadContract} (required : contract ∈ policy.contracts)
      (repeated : 1 < (scores.filter fun score => score.role = contract.role).length)
  | unconfigured {score : PassiveLivenessScore} (member : score ∈ scores)
      (unknown : ∀ contract ∈ policy.contracts, score.role ≠ contract.role)
  | foreign {contract : PadContract} {score : PassiveLivenessScore}
      (required : contract ∈ policy.contracts) (member : score ∈ scores)
      (role : score.role = contract.role)
      (differs : score.compatibilitySha256 ≠ contract.compatibilitySha256)

/-- Every configured role's score reaches its threshold. -/
def Reached (policy : PassivePadPolicy) (scores : List PassiveLivenessScore) : Prop :=
  ∀ contract ∈ policy.contracts, contract.Reached scores

/-- The policy fails exactly on malformed lists, decides the others by the
thresholds, and does not depend on the order of the scores. -/
structure DecidesEvidence (policy : PassivePadPolicy) (scores : List PassiveLivenessScore) :
    Prop where
  malformed : (∃ error, policy.accepts scores = .error error) ↔ policy.Misfit scores
  passed : ¬ policy.Misfit scores → policy.Reached scores → policy.accepts scores = .ok true
  failed : ¬ policy.Misfit scores → ¬ policy.Reached scores → policy.accepts scores = .ok false
  unordered : ∀ others, scores.Perm others → policy.accepts others = policy.accepts scores

/-- A fusion score takes part although the policy configures no fusion model. -/
def Unexpected (policy : PassivePadPolicy) (scores : List PassiveLivenessScore) : Prop :=
  policy.fusion = none ∧ ∃ score ∈ scores, score.role = .passiveLivenessFusion

/-! ## The shape of a decision -/

/-- The order of the scores does not matter for the fusion. -/
theorem fusionPassed_perm {others : List PassiveLivenessScore} (shuffled : scores.Perm others) :
    policy.fusionPassed others = policy.fusionPassed scores := by
  unfold fusionPassed
  cases policy.fusion with
  | none => simp only [shuffled.any_eq]
  | some contract => simp only [exactPadScore_perm shuffled]

/-- The order of the scores does not matter. -/
theorem accepts_perm {others : List PassiveLivenessScore} (shuffled : scores.Perm others) :
    policy.accepts others = policy.accepts scores := by
  unfold accepts
  rw [exactPadScore_perm shuffled, exactPadScore_perm shuffled, fusionPassed_perm shuffled]

/-- The one score of each configured role decides a valid policy. -/
theorem accepts_eq_of_scores {infrared visible : PassiveLivenessScore} {fused : Bool}
    (valid : policy.validate = .ok ())
    (oneInfrared : exactPadScore scores .passiveLivenessInfrared
      policy.infraredCompatibilitySha256 = .ok infrared)
    (oneVisible : exactPadScore scores .passiveLivenessVisible
      policy.visibleCompatibilitySha256 = .ok visible)
    (fusion : policy.fusionPassed scores = .ok fused) :
    policy.accepts scores =
      .ok (decide (policy.minimumInfraredProbability ≤ infrared.probability) &&
        (decide (policy.minimumVisibleProbability ≤ visible.probability) && fused)) := by
  obtain ⟨infraredUnit, visibleUnit, -⟩ := validate_thresholds valid
  unfold accepts
  simp only [valid, oneInfrared, oneVisible, fusion, bind, Except.bind,
    infrared.passes_of_unit infraredUnit, visible.passes_of_unit visibleUnit, mapError_ok,
    decide_eq_true_eq]
  split <;> rename_i reached
  · rw [decide_eq_true reached, Bool.true_and]
    rfl
  · rw [decide_eq_false reached, Bool.false_and]
    rfl

/-- The fusion model is answered, and its verdict is its threshold's. -/
theorem fusionPassed_eq_ok_iff {contract : List UInt8 × Float32} {fused : Bool}
    (unit : UnitScore contract.2) (configured : policy.fusion = some contract) :
    policy.fusionPassed scores = .ok fused ↔ ∃ score,
      exactPadScore scores .passiveLivenessFusion contract.1 = .ok score ∧
        fused = decide (contract.2 ≤ score.probability) := by
  unfold fusionPassed
  rw [configured]
  dsimp only
  rw [bind_eq_ok_iff]
  apply exists_congr
  intro score
  rw [score.passes_of_unit unit, mapError_ok, Except.ok.injEq, eq_comm (a := fused)]

/-- Without a fusion model the verdict is whether there is no fusion score. -/
theorem fusionPassed_of_none (unconfigured : policy.fusion = none) :
    policy.fusionPassed scores =
      .ok (decide (∀ score ∈ scores, score.role ≠ .passiveLivenessFusion)) := by
  unfold fusionPassed
  rw [unconfigured]
  apply congrArg Except.ok
  rw [Bool.eq_iff_iff, Bool.not_eq_true', List.any_eq_false, decide_eq_true_eq]
  simp only [decide_eq_true_eq, ne_eq]

/-- The contracts of a policy are those of both cameras and of the fusion. -/
theorem mem_contracts {contract : PadContract} :
    contract ∈ policy.contracts ↔ contract = policy.infraredContract ∨
      contract = policy.visibleContract ∨ contract ∈ policy.fusionContracts := by
  simp only [contracts, List.mem_cons]

/-- Without a fusion nothing is asked of it. -/
theorem fusionContracts_of_none (unconfigured : policy.fusion = none) :
    policy.fusionContracts = [] := by
  simp only [fusionContracts, unconfigured, Option.toList_none, List.map_nil]

/-- A configured fusion has its contract. -/
theorem fusionContracts_of_some {contract : List UInt8 × Float32}
    (configured : policy.fusion = some contract) :
    policy.fusionContracts = [⟨.passiveLivenessFusion, contract.1, contract.2⟩] := by
  simp only [fusionContracts, configured, Option.toList_some, List.map_cons, List.map_nil]

/-- A score of an unconfigured role is an unexpected fusion score. -/
theorem unconfigured_iff :
    (∃ score ∈ scores, ∀ contract ∈ policy.contracts, score.role ≠ contract.role) ↔
      policy.Unexpected scores := by
  constructor
  · rintro ⟨score, member, unknown⟩
    have notInfrared := unknown policy.infraredContract (mem_contracts.mpr (Or.inl rfl))
    have notVisible := unknown policy.visibleContract (mem_contracts.mpr (Or.inr (Or.inl rfl)))
    have fusion : score.role = .passiveLivenessFusion := by
      rcases score.padRole with infrared | visible | fusion
      · exact absurd infrared notInfrared
      · exact absurd visible notVisible
      · exact fusion
    refine ⟨?_, score, member, fusion⟩
    match configured : policy.fusion with
    | none => rfl
    | some contract =>
        refine absurd fusion (unknown ⟨.passiveLivenessFusion, contract.1, contract.2⟩ ?_)
        rw [mem_contracts, fusionContracts_of_some configured, List.mem_singleton]
        exact Or.inr (Or.inr rfl)
  · rintro ⟨unconfigured, score, member, fusion⟩
    refine ⟨score, member, fun contract configured => ?_⟩
    rw [mem_contracts, fusionContracts_of_none unconfigured] at configured
    rw [fusion]
    rcases configured with rfl | rfl | absent
    · exact nofun
    · exact nofun
    · exact absurd absent List.not_mem_nil

/-- A malformed list leaves a role unanswered or has an unexpected score. -/
theorem misfit_iff :
    policy.Misfit scores ↔
      (∃ contract ∈ policy.contracts, ¬ contract.Answered scores) ∨
      policy.Unexpected scores := by
  rw [← unconfigured_iff]
  constructor
  · intro misfit
    cases misfit with
    | missing required absent =>
        exact Or.inl ⟨_, required, PadContract.not_answered_iff.mpr (Or.inl absent)⟩
    | duplicated required repeated =>
        exact Or.inl ⟨_, required,
          PadContract.not_answered_iff.mpr (Or.inr (Or.inl repeated))⟩
    | unconfigured member unknown => exact Or.inr ⟨_, member, unknown⟩
    | foreign required member role differs =>
        exact Or.inl ⟨_, required,
          PadContract.not_answered_iff.mpr (Or.inr (Or.inr ⟨_, member, role, differs⟩))⟩
  · intro failing
    rcases failing with ⟨contract, required, unanswered⟩ | ⟨score, member, unknown⟩
    · rcases PadContract.not_answered_iff.mp unanswered with absent | repeated |
        ⟨score, member, role, differs⟩
      · exact .missing required absent
      · exact .duplicated required repeated
      · exact .foreign required member role differs
    · exact .unconfigured member unknown

/-- A decision is reached only when every configured role is answered. -/
theorem answered_of_accepts {verdict : Bool} (decided : policy.accepts scores = .ok verdict) :
    ∀ contract ∈ policy.contracts, contract.Answered scores := by
  unfold accepts at decided
  rw [check_bind_eq_ok_iff] at decided
  obtain ⟨valid, decided⟩ := decided
  obtain ⟨infrared, oneInfrared, decided⟩ := bind_eq_ok_iff.mp decided
  obtain ⟨visible, oneVisible, decided⟩ := bind_eq_ok_iff.mp decided
  obtain ⟨fused, fusion, -⟩ := bind_eq_ok_iff.mp decided
  obtain ⟨-, -, fusionUnit⟩ := validate_thresholds valid
  intro contract required
  rw [PadContract.answered_iff_exactPadScore]
  rcases mem_contracts.mp required with rfl | rfl | member
  · exact ⟨infrared, oneInfrared⟩
  · exact ⟨visible, oneVisible⟩
  · match configured : policy.fusion with
    | none =>
        rw [fusionContracts_of_none configured] at member
        exact absurd member List.not_mem_nil
    | some fusionContract =>
        rw [fusionContracts_of_some configured, List.mem_singleton] at member
        have unit : UnitScore fusionContract.2 := fusionUnit fusionContract configured
        obtain ⟨score, only, -⟩ := (fusionPassed_eq_ok_iff unit configured).mp fusion
        exact ⟨score, member ▸ only⟩

/-- The fusion step passes when its threshold is reached and no score is unexpected. -/
theorem fusionPassed_of_answered (valid : policy.validate = .ok ())
    (answered : ∀ contract ∈ policy.contracts, contract.Answered scores) :
    ∃ fused, policy.fusionPassed scores = .ok fused ∧
      (fused = true ↔ (∀ contract ∈ policy.fusionContracts, contract.Reached scores) ∧
        ¬ policy.Unexpected scores) := by
  match configured : policy.fusion with
  | none =>
      refine ⟨_, fusionPassed_of_none configured, ?_⟩
      rw [fusionContracts_of_none configured, decide_eq_true_eq]
      simp only [Unexpected, configured, List.not_mem_nil, false_implies, implies_true,
        true_and, not_exists, not_and, ne_eq]
  | some contract =>
      obtain ⟨-, -, fusionUnit⟩ := validate_thresholds valid
      have unit : UnitScore contract.2 := fusionUnit contract configured
      have listed := fusionContracts_of_some configured
      have required : (⟨.passiveLivenessFusion, contract.1, contract.2⟩ : PadContract) ∈
          policy.contracts := by
        rw [mem_contracts, listed, List.mem_singleton]
        exact Or.inr (Or.inr rfl)
      obtain ⟨score, only⟩ := PadContract.answered_iff_exactPadScore.mp (answered _ required)
      refine ⟨_, (fusionPassed_eq_ok_iff unit configured).mpr ⟨score, only, rfl⟩, ?_⟩
      rw [listed, decide_eq_true_eq, ← PadContract.reached_iff only]
      simp only [Unexpected, configured, List.mem_singleton, forall_eq, reduceCtorEq,
        false_and, not_false_eq_true, and_true]

/-- When every configured role is answered, the thresholds and the absence of an
unexpected score decide. -/
theorem accepts_of_answered (valid : policy.validate = .ok ())
    (answered : ∀ contract ∈ policy.contracts, contract.Answered scores) :
    ∃ verdict, policy.accepts scores = .ok verdict ∧
      (verdict = true ↔ policy.Reached scores ∧ ¬ policy.Unexpected scores) := by
  obtain ⟨infrared, oneInfrared⟩ := PadContract.answered_iff_exactPadScore.mp
    (answered policy.infraredContract (mem_contracts.mpr (Or.inl rfl)))
  obtain ⟨visible, oneVisible⟩ := PadContract.answered_iff_exactPadScore.mp
    (answered policy.visibleContract (mem_contracts.mpr (Or.inr (Or.inl rfl))))
  have infraredReached := PadContract.reached_iff oneInfrared
  have visibleReached := PadContract.reached_iff oneVisible
  obtain ⟨fused, fusion, fusedIff⟩ := fusionPassed_of_answered valid answered
  refine ⟨_, accepts_eq_of_scores valid oneInfrared oneVisible fusion, ?_⟩
  rw [Bool.and_eq_true, Bool.and_eq_true, decide_eq_true_eq, decide_eq_true_eq, fusedIff]
  have first : policy.infraredContract.Reached scores ↔
      policy.minimumInfraredProbability ≤ infrared.probability := infraredReached
  have second : policy.visibleContract.Reached scores ↔
      policy.minimumVisibleProbability ≤ visible.probability := visibleReached
  rw [← first, ← second, Reached, contracts, List.forall_mem_cons, List.forall_mem_cons,
    and_assoc, and_assoc]

/-- A valid policy fails exactly when a configured role is not answered. -/
theorem accepts_error_iff (valid : policy.validate = .ok ()) :
    (∃ error, policy.accepts scores = .error error) ↔
      ∃ contract ∈ policy.contracts, ¬ contract.Answered scores := by
  constructor
  · intro failing
    obtain ⟨error, failed⟩ := failing
    by_contra all
    simp only [not_exists, not_and, not_not] at all
    obtain ⟨verdict, decided, -⟩ := accepts_of_answered valid all
    rw [decided] at failed
    cases failed
  · intro unanswered
    obtain ⟨contract, required, unanswered⟩ := unanswered
    match decided : policy.accepts scores with
    | .error error => exact ⟨error, rfl⟩
    | .ok verdict => exact absurd (answered_of_accepts decided contract required) unanswered

/-- A valid policy decides its evidence as its contract says, except for an
unexpected fusion score beside fitting ones, which counts as a rejection. -/
theorem decidesEvidence_iff (valid : policy.validate = .ok ()) :
    policy.DecidesEvidence scores ↔
      (policy.Unexpected scores → ∃ contract ∈ policy.contracts,
        ¬ contract.Answered scores) := by
  constructor
  · intro decides unexpected
    rw [← accepts_error_iff valid, decides.malformed, misfit_iff]
    exact Or.inr unexpected
  · intro disclosed
    have misfits : policy.Misfit scores ↔ ∃ contract ∈ policy.contracts,
        ¬ contract.Answered scores := by
      rw [misfit_iff]
      exact ⟨fun misfit => misfit.elim id disclosed, Or.inl⟩
    have fits : ¬ policy.Misfit scores → ∃ verdict, policy.accepts scores = .ok verdict ∧
        (verdict = true ↔ policy.Reached scores) := by
      intro fitting
      have expected : ¬ policy.Unexpected scores := fun unexpected =>
        fitting (misfit_iff.mpr (Or.inr unexpected))
      rw [misfits] at fitting
      simp only [not_exists, not_and, not_not] at fitting
      obtain ⟨verdict, decided, passes⟩ := accepts_of_answered valid fitting
      exact ⟨verdict, decided, passes.trans (and_iff_left expected)⟩
    refine ⟨(accepts_error_iff valid).trans misfits.symm, ?_, ?_, fun _ => accepts_perm⟩
    · intro fitting reached
      obtain ⟨verdict, decided, passes⟩ := fits fitting
      rw [decided, passes.mpr reached]
    · intro fitting unreached
      obtain ⟨verdict, decided, passes⟩ := fits fitting
      rw [decided, Bool.eq_false_iff.mpr fun passed => unreached (passes.mp passed)]

/-- A policy without a fusion model. -/
def infraredAndVisible : PassivePadPolicy where
  infraredCompatibilitySha256 := List.replicate 64 97
  minimumInfraredProbability := 0.5
  visibleCompatibilitySha256 := List.replicate 64 98
  minimumVisibleProbability := 0.5
  fusion := none

/-- An infrared score that passes. -/
def infraredLive : PassiveLivenessScore :=
  ⟨.passiveLivenessInfrared, List.replicate 64 97, 1.0, by decide +kernel⟩

/-- A visible score that passes. -/
def visibleLive : PassiveLivenessScore :=
  ⟨.passiveLivenessVisible, List.replicate 64 98, 1.0, by decide +kernel⟩

/-- A fusion score that passes. -/
def fusionLive : PassiveLivenessScore :=
  ⟨.passiveLivenessFusion, List.replicate 64 99, 1.0, by decide +kernel⟩

/-- The policy without a fusion is valid. -/
theorem infraredAndVisible_valid : infraredAndVisible.validate = .ok () := by decide +kernel

/-- A decision in the contract's sense on an expected list. -/
theorem decidesEvidence_infraredAndVisible :
    infraredAndVisible.DecidesEvidence [visibleLive, infraredLive] :=
  (decidesEvidence_iff infraredAndVisible_valid).mpr fun unexpected => by
    obtain ⟨-, score, member, fusion⟩ := unexpected
    simp only [List.mem_cons, List.not_mem_nil, or_false] at member
    rcases member with rfl | rfl <;> exact absurd fusion nofun

/-- An unexpected fusion score beside two fitting ones is an ordinary rejection. -/
theorem unexpectedFusion_rejected :
    ¬ ∀ (policy : PassivePadPolicy) (scores : List PassiveLivenessScore),
      policy.validate = .ok () → policy.DecidesEvidence scores := by
  intro decides
  have decided := decides infraredAndVisible [infraredLive, visibleLive, fusionLive]
    infraredAndVisible_valid
  have misfit : infraredAndVisible.Misfit [infraredLive, visibleLive, fusionLive] := by
    apply misfit_iff.mpr
    exact Or.inr ⟨rfl, fusionLive, by simp, rfl⟩
  obtain ⟨error, failed⟩ := decided.malformed.mpr misfit
  have rejected : infraredAndVisible.accepts [infraredLive, visibleLive, fusionLive] =
      .ok false := by decide +kernel
  rw [rejected] at failed
  cases failed

end PassivePadPolicy

end FaceAuth
