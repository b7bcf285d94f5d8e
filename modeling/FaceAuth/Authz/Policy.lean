import FaceAuth.Protocol.Message

/-!
# Authorization of authentication requests

A request is admitted by the exact rule for its service and purpose, for a
caller whose relation to the target account the rule allows, and for an
executable on the rule's list.
-/

namespace FaceAuth

/-- Kernel identity of the connected peer. -/
structure PeerIdentity where
  pid : UInt32
  uid : UInt32
  gid : UInt32
deriving DecidableEq, Repr

/-- Stable filesystem identity of an installed caller executable. -/
structure ExecutableFingerprint where
  device : UInt64
  inode : UInt64
deriving DecidableEq, Repr

/-- Executable evidence derived from an already-open file descriptor. -/
structure VerifiedExecutable where
  fingerprint : ExecutableFingerprint
deriving DecidableEq, Repr

/-- Required relationship between the peer and the target account. -/
inductive CallerRelation where
  | rootOnly | targetUser | rootOrTargetUser
deriving DecidableEq, Repr

/-- Whether a caller may ask on behalf of the target account. -/
def CallerRelation.accepts (relation : CallerRelation) (peerUid targetUid : UInt32) : Bool :=
  match relation with
  | .rootOnly => peerUid == 0
  | .targetUser => peerUid == targetUid
  | .rootOrTargetUser => peerUid == 0 || peerUid == targetUid

/-- One exact administrator-controlled entry point. -/
structure AuthorizationRule where
  service : ServiceName
  purpose : AuthenticationPurpose
  caller : CallerRelation
  executables : List ExecutableFingerprint
deriving DecidableEq, Repr

/-- Maximum number of rules in one policy. -/
def MAX_AUTHORIZATION_RULES : Nat := 64

/-- Maximum number of executables that one rule may name. -/
def MAX_EXECUTABLES_PER_RULE : Nat := 32

/-- Invalid administrator authorization policy. -/
inductive AuthorizationPolicyError where
  | invalidRuleCount (actual : Nat)
  | invalidExecutableCount (service : ServiceName) (actual : Nat)
  | duplicateRule (service : ServiceName) (purpose : AuthenticationPurpose)
  | duplicateExecutable (service : ServiceName) (fingerprint : ExecutableFingerprint)
  | sudoMustBeRootOnly
deriving DecidableEq, Repr

/-- Each fingerprint is compared with the ones before it in its rule. -/
def AuthorizationPolicy.checkExecutables (service : ServiceName) :
    List ExecutableFingerprint → List ExecutableFingerprint → Except AuthorizationPolicyError Unit
  | _, [] => .ok ()
  | earlier, fingerprint :: later =>
      if earlier.contains fingerprint then .error (.duplicateExecutable service fingerprint)
      else checkExecutables service (earlier ++ [fingerprint]) later

/-- Each rule is checked on its own and against the rules before it. -/
def AuthorizationPolicy.checkRules :
    List AuthorizationRule → List AuthorizationRule → Except AuthorizationPolicyError Unit
  | _, [] => .ok ()
  | earlier, rule :: later =>
      if rule.executables = [] ∨ MAX_EXECUTABLES_PER_RULE < rule.executables.length then
        .error (.invalidExecutableCount rule.service rule.executables.length)
      else if rule.purpose = .sudo ∧ rule.caller ≠ .rootOnly then .error .sudoMustBeRootOnly
      else if earlier.any fun existing =>
          existing.service == rule.service && existing.purpose == rule.purpose then
        .error (.duplicateRule rule.service rule.purpose)
      else
        match checkExecutables rule.service [] rule.executables with
        | .error error => .error error
        | .ok () => checkRules (earlier ++ [rule]) later

/-- The checks a rule list has to pass. -/
def AuthorizationPolicy.check (rules : List AuthorizationRule) :
    Except AuthorizationPolicyError Unit :=
  if rules = [] ∨ MAX_AUTHORIZATION_RULES < rules.length then
    .error (.invalidRuleCount rules.length)
  else checkRules [] rules

/-- Validated bounded authorization policy, with its rules in administrator order. -/
structure AuthorizationPolicy where
  rules : List AuthorizationRule
  admitted : AuthorizationPolicy.check rules = .ok ()

/-- Validate and construct an exact-match authorization policy. -/
def AuthorizationPolicy.new (rules : List AuthorizationRule) :
    Except AuthorizationPolicyError AuthorizationPolicy :=
  match admitted : AuthorizationPolicy.check rules with
  | .error error => .error error
  | .ok () => .ok ⟨rules, admitted⟩

/-- Immutable authorization result bound to the request and kernel peer. -/
structure AuthorizationGrant where
  transactionId : TransactionId
  peer : PeerIdentity
  targetUid : UInt32
  service : ServiceName
  purpose : AuthenticationPurpose
  executable : ExecutableFingerprint
deriving DecidableEq, Repr

/-- The grant of a development-only test request for user 1000. -/
def AuthorizationGrant.test : AuthorizationGrant where
  transactionId := ⟨7⟩
  peer := ⟨123, 1000, 1000⟩
  targetUid := 1000
  service := ServiceName.test
  purpose := .test
  executable := ⟨8, 42⟩

/-- The policy that grants the development-only test request to its own account. -/
def AuthorizationPolicy.test : AuthorizationPolicy where
  rules := [⟨ServiceName.test, .test, .targetUser, [⟨8, 42⟩]⟩]
  admitted := by decide

/-- Request authorization failure. -/
inductive AuthorizationError where
  | serviceNotAllowed
  | peerTargetMismatch (peerUid targetUid : UInt32)
  | executableEvidenceRequired
  | executableNotAllowed
deriving DecidableEq, Repr

/-- Authorize one request before camera, template, or model work begins. -/
def AuthorizationPolicy.authorize (policy : AuthorizationPolicy) (peer : PeerIdentity)
    (executable : Option VerifiedExecutable) (request : RequestContext) :
    Except AuthorizationError AuthorizationGrant :=
  match policy.rules.find? fun rule =>
      rule.service == request.service && rule.purpose == request.purpose with
  | none => .error .serviceNotAllowed
  | some rule =>
      if rule.caller.accepts peer.uid request.targetUid then
        match executable with
        | none => .error .executableEvidenceRequired
        | some executable =>
            if rule.executables.contains executable.fingerprint then
              .ok {
                transactionId := request.transactionId
                peer
                targetUid := request.targetUid
                service := request.service
                purpose := request.purpose
                executable := executable.fingerprint }
            else .error .executableNotAllowed
      else .error (.peerTargetMismatch peer.uid request.targetUid)

/-- A grant carries the request it was given for. -/
theorem AuthorizationPolicy.authorize_request {policy : AuthorizationPolicy} {peer : PeerIdentity}
    {executable : Option VerifiedExecutable} {request : RequestContext} {grant : AuthorizationGrant}
    (granted : policy.authorize peer executable request = .ok grant) :
    grant.transactionId = request.transactionId ∧ grant.targetUid = request.targetUid ∧
      grant.peer = peer := by
  unfold AuthorizationPolicy.authorize at granted
  split at granted
  · cases granted
  · split at granted
    · split at granted
      · cases granted
      · split at granted
        · cases granted
          exact ⟨rfl, rfl, rfl⟩
        · cases granted
    · cases granted

end FaceAuth
