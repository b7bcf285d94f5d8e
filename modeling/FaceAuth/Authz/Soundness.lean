import FaceAuth.Authz.Policy
import Mathlib.Data.List.Pairwise

/-!
# What an authorization policy decides

An accepted rule list has at most one rule for a service and a purpose, so that
the first rule found is the only one, and no order of the rules matters.
-/

namespace FaceAuth

/-! ## Accepted rule lists -/

namespace AuthorizationRule

/-- The rule is the one for this service and purpose. -/
def Governs (rule : AuthorizationRule) (request : RequestContext) : Prop :=
  rule.service = request.service ∧ rule.purpose = request.purpose

instance (rule : AuthorizationRule) (request : RequestContext) : Decidable (rule.Governs request) :=
  inferInstanceAs (Decidable (_ ∧ _))

/-- The rule lets this caller make the request. -/
structure Permits (rule : AuthorizationRule) (peer : PeerIdentity)
    (executable : Option VerifiedExecutable) (request : RequestContext) : Prop where
  governs : rule.Governs request
  caller : rule.caller.accepts peer.uid request.targetUid = true
  executable : ∃ verified, executable = some verified ∧ verified.fingerprint ∈ rule.executables

/-- A rule that is in order by itself. -/
structure Sound (rule : AuthorizationRule) : Prop where
  nonempty : rule.executables ≠ []
  bounded : rule.executables.length ≤ MAX_EXECUTABLES_PER_RULE
  privileged : rule.purpose = .sudo → rule.caller = .rootOnly
  executables : rule.executables.Nodup

/-- Two rules for different services or purposes. -/
def Apart (first second : AuthorizationRule) : Prop :=
  ¬ (first.service = second.service ∧ first.purpose = second.purpose)

/-- Standing apart does not depend on the order of the rules. -/
theorem Apart.symm {first second : AuthorizationRule} (apart : first.Apart second) :
    second.Apart first :=
  fun ⟨service, purpose⟩ => apart ⟨service.symm, purpose.symm⟩

instance : Std.Symm Apart := ⟨fun _ _ => Apart.symm⟩

end AuthorizationRule

/-- What a rule list has to be. -/
structure WellFormedRules (rules : List AuthorizationRule) : Prop where
  nonempty : rules ≠ []
  bounded : rules.length ≤ MAX_AUTHORIZATION_RULES
  sound : ∀ rule ∈ rules, rule.Sound
  apart : rules.Pairwise AuthorizationRule.Apart

namespace AuthorizationPolicy

/-- The loop over the executables of a rule accepts them when none is named twice. -/
theorem checkExecutables_eq_ok_iff {service : ServiceName}
    {earlier later : List ExecutableFingerprint} :
    checkExecutables service earlier later = .ok () ↔
      (∀ fingerprint ∈ later, fingerprint ∉ earlier) ∧ later.Nodup := by
  induction later generalizing earlier with
  | nil => simp [checkExecutables]
  | cons fingerprint later ih =>
      unfold checkExecutables
      by_cases known : fingerprint ∈ earlier
      · simp [known]
      · simp only [List.contains_eq_mem, known, decide_false, Bool.false_eq_true, if_false, ih,
          List.mem_append, List.mem_singleton, not_or, List.forall_mem_cons, not_false_iff,
          true_and, List.nodup_cons]
        constructor
        · rintro ⟨others, distinct⟩
          exact ⟨fun other member => (others other member).1,
            fun member => (others fingerprint member).2 rfl, distinct⟩
        · rintro ⟨others, new, distinct⟩
          exact ⟨fun other member => ⟨others other member, fun same => new (same ▸ member)⟩,
            distinct⟩

/-- The loop over the rules accepts them when each is sound and any two stand apart. -/
theorem checkRules_eq_ok_iff {earlier later : List AuthorizationRule} :
    checkRules earlier later = .ok () ↔ (∀ rule ∈ later, rule.Sound) ∧
      (∀ existing ∈ earlier, ∀ rule ∈ later, existing.Apart rule) ∧
        later.Pairwise AuthorizationRule.Apart := by
  induction later generalizing earlier with
  | nil => simp [checkRules]
  | cons rule later ih =>
      unfold checkRules
      split
      · next invalid =>
          simp only [reduceCtorEq, false_iff]
          rintro ⟨sound, -⟩
          have rule_ := sound rule List.mem_cons_self
          rcases invalid with empty | many
          · exact rule_.nonempty empty
          · exact absurd rule_.bounded (Nat.not_le.mpr many)
      · next valid =>
          split
          · next loose =>
              simp only [reduceCtorEq, false_iff]
              rintro ⟨sound, -⟩
              exact loose.2 ((sound rule List.mem_cons_self).privileged loose.1)
          · next strict =>
              split
              · next repeated =>
                  simp only [reduceCtorEq, false_iff]
                  rintro ⟨-, apart, -⟩
                  obtain ⟨existing, member, same⟩ := List.any_eq_true.mp repeated
                  rw [Bool.and_eq_true, beq_iff_eq, beq_iff_eq] at same
                  exact apart existing member rule List.mem_cons_self same
              · next new =>
                  have apart : ∀ existing ∈ earlier, existing.Apart rule := by
                    intro existing member same
                    apply new
                    refine List.any_eq_true.mpr ⟨existing, member, ?_⟩
                    rw [Bool.and_eq_true, beq_iff_eq, beq_iff_eq]
                    exact same
                  split
                  · next error failed =>
                      simp only [reduceCtorEq, false_iff]
                      rintro ⟨sound, -⟩
                      have distinct := (sound rule List.mem_cons_self).executables
                      rw [checkExecutables_eq_ok_iff.mpr ⟨fun _ _ => List.not_mem_nil, distinct⟩]
                        at failed
                      cases failed
                  · next checked =>
                      have distinct := (checkExecutables_eq_ok_iff.mp checked).2
                      have sound : rule.Sound := by
                        rw [not_or, Nat.not_lt] at valid
                        refine ⟨valid.1, valid.2, fun purpose => ?_, distinct⟩
                        by_contra caller
                        exact strict ⟨purpose, caller⟩
                      rw [ih, List.forall_mem_cons, List.pairwise_cons]
                      simp only [List.forall_mem_append, List.forall_mem_singleton,
                        List.forall_mem_cons, sound, true_and]
                      constructor
                      · rintro ⟨others, ⟨before, after⟩, rest⟩
                        exact ⟨others, fun existing member =>
                          ⟨apart existing member, before existing member⟩, after, rest⟩
                      · rintro ⟨others, before, after, rest⟩
                        exact ⟨others, ⟨fun existing member => (before existing member).2, after⟩,
                          rest⟩

/-- A rule list is accepted exactly when it is well formed. -/
theorem check_eq_ok_iff {rules : List AuthorizationRule} :
    check rules = .ok () ↔ WellFormedRules rules := by
  unfold check
  split
  · next invalid =>
      simp only [reduceCtorEq, false_iff]
      intro formed
      rcases invalid with empty | many
      · exact formed.nonempty empty
      · exact absurd formed.bounded (Nat.not_le.mpr many)
  · next valid =>
      rw [not_or, Nat.not_lt] at valid
      rw [checkRules_eq_ok_iff]
      constructor
      · rintro ⟨sound, -, apart⟩
        exact ⟨valid.1, valid.2, sound, apart⟩
      · exact fun formed => ⟨formed.sound, nofun, formed.apart⟩

/-- A policy is made of exactly the rules that were given. -/
theorem new_eq_ok_iff {rules : List AuthorizationRule} {policy : AuthorizationPolicy} :
    AuthorizationPolicy.new rules = .ok policy ↔ policy.rules = rules := by
  unfold AuthorizationPolicy.new
  split
  · next error failed =>
      simp only [reduceCtorEq, false_iff]
      rintro rfl
      rw [policy.admitted] at failed
      cases failed
  · next admitted =>
      obtain ⟨own, accepted⟩ := policy
      simp only [Except.ok.injEq, AuthorizationPolicy.mk.injEq]
      exact eq_comm

end AuthorizationPolicy

/-- The order of the rules does not matter to being well formed. -/
theorem WellFormedRules.perm {rules permuted : List AuthorizationRule}
    (formed : WellFormedRules rules) (perm : permuted.Perm rules) : WellFormedRules permuted := by
  refine ⟨fun empty => formed.nonempty ?_, ?_, fun rule member => ?_, ?_⟩
  · rw [empty] at perm
    exact perm.nil_eq.symm
  · rw [perm.length_eq]
    exact formed.bounded
  · exact formed.sound rule (perm.mem_iff.mp member)
  · exact (perm.pairwise_iff AuthorizationRule.Apart.symm).mpr formed.apart

/-! ## Decisions -/

namespace AuthorizationPolicy

variable (policy : AuthorizationPolicy) {peer : PeerIdentity}
  {executable : Option VerifiedExecutable} {request : RequestContext}

/-- The rules of a policy are well formed. -/
theorem formed : WellFormedRules policy.rules := check_eq_ok_iff.mp policy.admitted

/-- Of the rules of a policy, one at most governs a request. -/
theorem governs_unique {first second : AuthorizationRule} (one : first ∈ policy.rules)
    (two : second ∈ policy.rules) (governs : first.Governs request)
    (also : second.Governs request) : first = second := by
  by_contra distinct
  have apart := policy.formed.apart.forall one two distinct
  exact apart ⟨governs.1.trans also.1.symm, governs.2.trans also.2.symm⟩

/-- The rule that is found for a request. -/
def rule? (request : RequestContext) : Option AuthorizationRule :=
  policy.rules.find? fun rule => rule.service == request.service && rule.purpose == request.purpose

/-- The lookup finds a rule exactly when it governs the request: no other rule does. -/
theorem rule?_eq_some_iff {rule : AuthorizationRule} :
    policy.rule? request = some rule ↔ rule ∈ policy.rules ∧ rule.Governs request := by
  have matching : ∀ rule : AuthorizationRule,
      (rule.service == request.service && rule.purpose == request.purpose) = true ↔
        rule.Governs request := by
    intro rule
    rw [Bool.and_eq_true, beq_iff_eq, beq_iff_eq]
    exact Iff.rfl
  have finds : ∀ {rule : AuthorizationRule}, policy.rule? request = some rule →
      rule ∈ policy.rules ∧ rule.Governs request := by
    intro rule found
    have member := List.mem_of_find?_eq_some found
    exact ⟨member, (matching rule).mp (List.find?_eq_some_iff_append.mp found).1⟩
  constructor
  · exact finds
  · rintro ⟨member, fits⟩
    cases found : policy.rule? request with
    | none => exact (List.find?_eq_none.mp found rule member ((matching rule).mpr fits)).elim
    | some other =>
        obtain ⟨known, own⟩ := finds found
        rw [policy.governs_unique known member own fits]

/-- Policies with the same rules find the same rule. -/
theorem rule?_perm {other : AuthorizationPolicy} (perm : other.rules.Perm policy.rules)
    (request : RequestContext) : other.rule? request = policy.rule? request := by
  ext rule
  rw [rule?_eq_some_iff, rule?_eq_some_iff, perm.mem_iff]

/-- Authorizing is a lookup of the rule, followed by the checks on the caller. -/
theorem authorize_eq (peer : PeerIdentity) (executable : Option VerifiedExecutable)
    (request : RequestContext) :
    policy.authorize peer executable request =
      match policy.rule? request with
      | none => .error .serviceNotAllowed
      | some rule =>
          if rule.caller.accepts peer.uid request.targetUid then
            match executable with
            | none => .error .executableEvidenceRequired
            | some executable =>
                if rule.executables.contains executable.fingerprint then
                  .ok ⟨request.transactionId, peer, request.targetUid, request.service,
                    request.purpose, executable.fingerprint⟩
                else .error .executableNotAllowed
          else .error (.peerTargetMismatch peer.uid request.targetUid) := rfl

/-- The order in which the rules are written decides nothing. -/
theorem authorize_perm {other : AuthorizationPolicy} (perm : other.rules.Perm policy.rules)
    (peer : PeerIdentity) (executable : Option VerifiedExecutable) (request : RequestContext) :
    other.authorize peer executable request = policy.authorize peer executable request := by
  rw [authorize_eq, authorize_eq, policy.rule?_perm perm]

/-- What a policy grants, and under which rule. -/
theorem authorize_eq_ok_iff {grant : AuthorizationGrant} :
    policy.authorize peer executable request = .ok grant ↔
      (∃ rule ∈ policy.rules, rule.Permits peer executable request) ∧
        ∃ verified, executable = some verified ∧ grant = ⟨request.transactionId, peer,
          request.targetUid, request.service, request.purpose, verified.fingerprint⟩ := by
  rw [authorize_eq]
  constructor
  · intro granted
    split at granted
    · cases granted
    · next rule found =>
        obtain ⟨member, governs⟩ := policy.rule?_eq_some_iff.mp found
        split at granted
        · next caller =>
            split at granted
            · cases granted
            · next verified =>
                split at granted <;> cases granted
                next listed =>
                  have permits : rule.Permits peer (some verified) request :=
                    ⟨governs, caller, verified, rfl, by simpa using listed⟩
                  exact ⟨⟨rule, member, permits⟩, verified, rfl, rfl⟩
        · cases granted
  · rintro ⟨⟨rule, member, governs, caller, listed⟩, verified, rfl, rfl⟩
    obtain ⟨other, same, listed⟩ := listed
    cases same
    rw [policy.rule?_eq_some_iff.mpr ⟨member, governs⟩]
    dsimp only
    rw [if_pos caller, if_pos (by simpa using listed)]

/-- A sudo request is granted to root only. -/
theorem authorize_sudo {grant : AuthorizationGrant}
    (granted : policy.authorize peer executable request = .ok grant)
    (purpose : request.purpose = .sudo) : peer.uid = 0 := by
  obtain ⟨⟨rule, member, governs, caller, -⟩, -⟩ := policy.authorize_eq_ok_iff.mp granted
  rw [(policy.formed.sound rule member).privileged (governs.2.trans purpose)] at caller
  exact beq_iff_eq.mp caller

end AuthorizationPolicy

end FaceAuth
