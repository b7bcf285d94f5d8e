import Mathlib.Data.List.Basic

/-!
# Messages between clients and the daemon

The versioned messages of the local authentication protocol. Text is the list
of its UTF-8 bytes, and a service name carries the proof that it was accepted.
-/

namespace FaceAuth

/-- The version of the protocol. -/
def PROTOCOL_VERSION : Nat := 2

/-- Invalid protocol envelope. -/
inductive ProtocolError where
  | unsupportedVersion (received supported : Nat)
deriving DecidableEq, Repr

/-- Versioned transport envelope. -/
structure Envelope (Message : Type) where
  protocolVersion : Nat
  message : Message
deriving DecidableEq, Repr

/-- A message under the current version. -/
def Envelope.current {Message : Type} (message : Message) : Envelope Message :=
  ⟨PROTOCOL_VERSION, message⟩

/-- Other versions are refused. -/
def Envelope.validateVersion {Message : Type} (envelope : Envelope Message) :
    Except ProtocolError Unit :=
  if envelope.protocolVersion = PROTOCOL_VERSION then .ok ()
  else .error (.unsupportedVersion envelope.protocolVersion PROTOCOL_VERSION)

/-- Unpredictable identifier binding a request to all of its responses. -/
structure TransactionId where
  uuid : BitVec 128
deriving DecidableEq, Repr

/-- Maximum length of the name of a service. -/
def MAX_SERVICE_NAME_LENGTH : Nat := 64

/-- Invalid service-name input. -/
inductive ServiceNameError where
  | empty
  | tooLong (actual maximum : Nat)
  | invalidCharacter
deriving DecidableEq, Repr

/-- ASCII letters, digits and the bytes of `._-`. -/
def serviceNameByte (byte : UInt8) : Bool :=
  (48 ≤ byte && byte ≤ 57) || (65 ≤ byte && byte ≤ 90) || (97 ≤ byte && byte ≤ 122) ||
    byte == 46 || byte == 95 || byte == 45

/-- Validated PAM or desktop service name. -/
structure ServiceName where
  value : List UInt8
  nonempty : value ≠ []
  bounded : value.length ≤ MAX_SERVICE_NAME_LENGTH
  allowed : value.all serviceNameByte = true
deriving DecidableEq, Repr

/-- Parse and validate a service name. -/
def ServiceName.parse (value : List UInt8) : Except ServiceNameError ServiceName :=
  if nonempty : value = [] then .error .empty
  else if bounded : value.length ≤ MAX_SERVICE_NAME_LENGTH then
    if allowed : value.all serviceNameByte = true then .ok ⟨value, nonempty, bounded, allowed⟩
    else .error .invalidCharacter
  else .error (.tooLong value.length MAX_SERVICE_NAME_LENGTH)

/-- A parsed service name is its input, unchanged. -/
theorem ServiceName.parse_value {value : List UInt8} {name : ServiceName}
    (parsed : ServiceName.parse value = .ok name) : name.value = value := by
  unfold ServiceName.parse at parsed
  split at parsed
  · cases parsed
  · split at parsed
    · split at parsed
      · cases parsed
        rfl
      · cases parsed
    · cases parsed

/-- The dedicated development service `faceauth-test`. -/
def ServiceName.test : ServiceName where
  value := [102, 97, 99, 101, 97, 117, 116, 104, 45, 116, 101, 115, 116]
  nonempty := by decide
  bounded := by decide
  allowed := by decide

/-- Operation requesting biometric authentication. -/
inductive AuthenticationPurpose where
  | test | screenUnlock | login | polkit | sudo
deriving DecidableEq, Repr

/-- Request context supplied by a trusted local caller. -/
structure RequestContext where
  transactionId : TransactionId
  targetUid : UInt32
  service : ServiceName
  purpose : AuthenticationPurpose
deriving DecidableEq, Repr

/-- Request sent over the authenticated local transport. -/
inductive Request where
  | authenticate (context : RequestContext)
  | cancel (transactionId : TransactionId)
deriving DecidableEq, Repr

/-- Stable result of biometric policy evaluation. -/
inductive DecisionCode where
  | accepted
  | infraredMissing
  | visibleMissing
  | insufficientQuality
  | passiveLivenessFailed
  | activeChallengeFailed
  | faceMismatch
  | cancelled
  | timedOut
  | internalError
deriving DecidableEq, Repr

/-- Stable reason for rejecting a request before biometric processing. -/
inductive RejectionCode where
  | unauthorizedPeer
  | serviceNotAllowed
  | notEnrolled
  | cameraUnavailable
  | busy
  | serviceUnavailable
deriving DecidableEq, Repr

/-- Closed progress codes for user-visible prompts. -/
inductive ProgressCode where
  | positionFace | holdStill | blink | turnLeft | turnRight | returnToCenter | processing
deriving DecidableEq, Repr

/-- Response returned by the daemon. -/
inductive Response where
  | started (transactionId : TransactionId)
  | progress (transactionId : TransactionId) (progress : ProgressCode)
  | completed (transactionId : TransactionId) (decision : DecisionCode)
  | rejected (transactionId : Option TransactionId) (reason : RejectionCode)
deriving DecidableEq, Repr

/-- The transaction a response speaks for. -/
def Response.transaction? : Response → Option TransactionId
  | .started transactionId => some transactionId
  | .progress transactionId _ => some transactionId
  | .completed transactionId _ => some transactionId
  | .rejected transactionId _ => transactionId

/-- A completion is the terminal response of a transaction. -/
def Response.IsCompletion : Response → Prop
  | .completed _ _ => True
  | _ => False

instance : DecidablePred Response.IsCompletion
  | .started _ => isFalse id
  | .progress _ _ => isFalse id
  | .completed _ _ => isTrue trivial
  | .rejected _ _ => isFalse id

end FaceAuth
