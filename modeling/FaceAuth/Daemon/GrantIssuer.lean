import FaceAuth.Authz.Soundness
import FaceAuth.Foundation.Check
import FaceAuth.Management.Manager

/-!
# The issuer of enrollment grants

An issuer is bound to one caller, one service and one purpose. The daemon tries
it once, for an account of no importance, before it issues enrollment grants.
-/

namespace FaceAuth

open Foundation

/-- Text of an authorization failure. -/
def AuthorizationError.message : AuthorizationError → String
  | .serviceNotAllowed => "authentication service or purpose is not allowed"
  | .peerTargetMismatch peerUid targetUid =>
      "peer UID " ++ toString peerUid.toNat ++ " cannot authenticate target UID " ++
        toString targetUid.toNat
  | .executableEvidenceRequired => "verified caller executable evidence is required"
  | .executableNotAllowed => "caller executable is not allowed for this service and purpose"

/-- Text of an invalid service name. -/
def ServiceNameError.message : ServiceNameError → String
  | .empty => "service name cannot be empty"
  | .tooLong actual maximum =>
      "service name length " ++ toString actual ++ " exceeds " ++ toString maximum
  | .invalidCharacter => "service name contains an unsupported character"

/-- Reusable issuer bound to one validated policy, kernel peer, executable, service, and
purpose. -/
structure BoundAuthorizationIssuer where
  policy : AuthorizationPolicy
  peer : PeerIdentity
  executable : VerifiedExecutable
  service : ServiceName
  purpose : AuthenticationPurpose

/-- Issue a new policy-authorized grant for one exact target, under a generated identifier. -/
def BoundAuthorizationIssuer.issue (issuer : BoundAuthorizationIssuer) (generated : TransactionId)
    (targetUid : UInt32) : Except AuthorizationError AuthorizationGrant :=
  issuer.policy.authorize issuer.peer (some issuer.executable)
    ⟨generated, targetUid, issuer.service, issuer.purpose⟩

/-- The target of the preflight. -/
def PREFLIGHT_UID : UInt32 := 4_294_967_295

/-- Bind the daemon's exact root broker evidence to the enrollment grant issuer. -/
def managementEnrollmentGrantIssuer (policy : AuthorizationPolicy) (peer : PeerIdentity)
    (executable : VerifiedExecutable) (generated : TransactionId) :
    Except BackendError BoundAuthorizationIssuer := do
  require (peer.uid = 0) ⟨"enrollment grant issuer peer is not root"⟩
  let service ← (ServiceName.parse ENROLLMENT_SERVICE).mapError fun error => ⟨error.message⟩
  let issuer : BoundAuthorizationIssuer := ⟨policy, peer, executable, service, .polkit⟩
  let probe ← (issuer.issue generated PREFLIGHT_UID).mapError fun error => ⟨error.message⟩
  let _ ← (AuthorizedEnrollment.fromGrant probe).mapError fun error => ⟨error.message⟩
  return issuer

/-- A caller who is root and may act for a user other than root may act for every user. -/
theorem accepts_of_root {relation : CallerRelation} {targetUid : UInt32} (other : targetUid ≠ 0)
    (accepts : relation.accepts 0 targetUid = true) (anybody : UInt32) :
    relation.accepts 0 anybody = true := by
  cases relation with
  | rootOnly | rootOrTargetUser => rfl
  | targetUser => exact (other (beq_iff_eq.mp accepts).symm).elim

/-- An issuer that passed its preflight is bound to root and to the enrollment service. -/
theorem managementEnrollmentGrantIssuer_eq_ok {policy : AuthorizationPolicy} {peer : PeerIdentity}
    {executable : VerifiedExecutable} {generated : TransactionId}
    {issuer : BoundAuthorizationIssuer}
    (bound : managementEnrollmentGrantIssuer policy peer executable generated = .ok issuer) :
    peer.uid = 0 ∧ issuer.policy = policy ∧ issuer.peer = peer ∧
      issuer.executable = executable ∧ issuer.service.value = ENROLLMENT_SERVICE ∧
      issuer.purpose = .polkit ∧ ∃ probe, issuer.issue generated PREFLIGHT_UID = .ok probe := by
  unfold managementEnrollmentGrantIssuer at bound
  rw [check_bind_eq_ok_iff, require_eq_ok_iff] at bound
  obtain ⟨root, bound⟩ := bound
  obtain ⟨service, parsed, bound⟩ := bind_eq_ok_iff.mp bound
  obtain ⟨probe, issued, bound⟩ := bind_eq_ok_iff.mp bound
  obtain ⟨accepted, -, done⟩ := bind_eq_ok_iff.mp bound
  cases done
  rw [mapError_eq_ok_iff] at parsed issued
  exact ⟨root, rfl, rfl, rfl, ServiceName.parse_value parsed, rfl, probe, issued⟩

/-- The preflight stands for every account. -/
theorem BoundAuthorizationIssuer.issue_of_preflight {issuer : BoundAuthorizationIssuer}
    {probe : AuthorizationGrant} {generated : TransactionId} (root : issuer.peer.uid = 0)
    (issued : issuer.issue generated PREFLIGHT_UID = .ok probe) (fresh : TransactionId)
    (targetUid : UInt32) :
    issuer.issue fresh targetUid = .ok ⟨fresh, issuer.peer, targetUid, issuer.service,
      issuer.purpose, issuer.executable.fingerprint⟩ := by
  obtain ⟨⟨rule, member, governs, caller, listed⟩, -⟩ :=
    issuer.policy.authorize_eq_ok_iff.mp issued
  refine issuer.policy.authorize_eq_ok_iff.mpr
    ⟨⟨rule, member, governs, ?_, listed⟩, issuer.executable, rfl, rfl⟩
  rw [root] at caller ⊢
  exact accepts_of_root (show PREFLIGHT_UID ≠ 0 by decide) caller targetUid

/-- What an accepted rule list decides, in any order, and what an issuer grants. -/
structure AuthorizationContract (rules : List AuthorizationRule) (policy : AuthorizationPolicy) :
    Prop where
  granted : ∀ peer executable request,
    (∃ grant, policy.authorize peer executable request = .ok grant) ↔
      ∃ rule ∈ rules, rule.Permits peer executable request
  unique : ∀ request, (rules.filter fun rule => decide (rule.Governs request)).length ≤ 1
  grant : ∀ peer executable request grant,
    policy.authorize peer executable request = .ok grant →
      grant.transactionId = request.transactionId ∧ grant.targetUid = request.targetUid ∧
        grant.service = request.service ∧ grant.purpose = request.purpose ∧ grant.peer = peer
  rootOnly : ∀ peer executable request grant, request.purpose = .sudo → peer.uid ≠ 0 →
    policy.authorize peer executable request ≠ .ok grant
  order : ∀ permuted : List AuthorizationRule, permuted.Perm rules →
    ∃ other, AuthorizationPolicy.new permuted = .ok other ∧ ∀ peer executable request,
      other.authorize peer executable request = policy.authorize peer executable request
  issuer : ∀ peer executable generated issuer,
    managementEnrollmentGrantIssuer policy peer executable generated = .ok issuer →
      ∀ fresh targetUid, ∃ grant, issuer.issue fresh targetUid = .ok grant ∧
        grant.transactionId = fresh ∧ grant.targetUid = targetUid ∧
          AuthorizedEnrollment.fromGrant grant = .ok ⟨targetUid⟩

/-- Rules that are pairwise apart leave at most one for a request. -/
theorem length_filter_governs {rules : List AuthorizationRule}
    (apart : rules.Pairwise AuthorizationRule.Apart) (request : RequestContext) :
    (rules.filter fun rule => decide (rule.Governs request)).length ≤ 1 := by
  have pairwise := apart.filter fun rule => decide (rule.Governs request)
  have governs : ∀ rule ∈ rules.filter (fun rule => decide (rule.Governs request)),
      rule.Governs request := by
    intro rule member
    exact of_decide_eq_true (List.mem_filter.mp member).2
  generalize rules.filter (fun rule => decide (rule.Governs request)) = found at pairwise governs ⊢
  match found with
  | [] => exact Nat.zero_le _
  | [_] => exact Nat.le_refl _
  | first :: second :: rest =>
      have one := governs first List.mem_cons_self
      have two := governs second (List.mem_cons_of_mem _ List.mem_cons_self)
      have apart := List.rel_of_pairwise_cons pairwise List.mem_cons_self
      exact (apart ⟨one.1.trans two.1.symm, one.2.trans two.2.symm⟩).elim

/-- Every accepted rule list keeps the contract. -/
theorem authorization_contract {rules : List AuthorizationRule} {policy : AuthorizationPolicy}
    (accepted : AuthorizationPolicy.new rules = .ok policy) :
    AuthorizationContract rules policy := by
  obtain rfl := AuthorizationPolicy.new_eq_ok_iff.mp accepted
  constructor
  · intro peer executable request
    constructor
    · rintro ⟨grant, granted⟩
      exact (policy.authorize_eq_ok_iff.mp granted).1
    · rintro ⟨rule, member, permits⟩
      obtain ⟨verified, evidence, -⟩ := permits.executable
      exact ⟨_, policy.authorize_eq_ok_iff.mpr ⟨⟨rule, member, permits⟩, verified, evidence, rfl⟩⟩
  · exact fun request => length_filter_governs policy.formed.apart request
  · intro peer executable request grant granted
    obtain ⟨-, verified, -, rfl⟩ := policy.authorize_eq_ok_iff.mp granted
    exact ⟨rfl, rfl, rfl, rfl, rfl⟩
  · exact fun peer executable request grant purpose other granted =>
      other (policy.authorize_sudo granted purpose)
  · intro permuted perm
    have formed := policy.formed.perm perm
    let other : AuthorizationPolicy := ⟨permuted, AuthorizationPolicy.check_eq_ok_iff.mpr formed⟩
    have same : AuthorizationPolicy.new permuted = .ok other :=
      AuthorizationPolicy.new_eq_ok_iff.mpr rfl
    exact ⟨other, same, fun peer executable request =>
      policy.authorize_perm perm peer executable request⟩
  · intro peer executable generated issuer bound fresh targetUid
    obtain ⟨root, -, same, -, service, purpose, probe, issued⟩ :=
      managementEnrollmentGrantIssuer_eq_ok bound
    rw [← same] at root
    refine ⟨_, issuer.issue_of_preflight root issued fresh targetUid, rfl, rfl, ?_⟩
    rw [AuthorizedEnrollment.fromGrant, if_neg]
    simp [root, service, purpose]

/-- An enrollment rule for root and one for sudo. -/
def brokerRules : List AuthorizationRule :=
  [⟨ServiceName.enrollment, .polkit, .rootOrTargetUser, [⟨8, 42⟩]⟩,
    ⟨ServiceName.test, .sudo, .rootOnly, [⟨8, 42⟩, ⟨8, 43⟩]⟩]

/-- The policy of these rules. -/
def brokerPolicy : AuthorizationPolicy := ⟨brokerRules, by decide⟩

/-- The broker may enroll under the policy of the example. -/
theorem authorization_contract_broker : AuthorizationContract brokerRules brokerPolicy ∧
    (managementEnrollmentGrantIssuer brokerPolicy ⟨1, 0, 0⟩ ⟨⟨8, 42⟩⟩ ⟨7⟩).isOk = true := by
  have accepted : AuthorizationPolicy.new brokerRules = .ok brokerPolicy :=
    AuthorizationPolicy.new_eq_ok_iff.mpr rfl
  exact ⟨authorization_contract accepted, by decide⟩

end FaceAuth
