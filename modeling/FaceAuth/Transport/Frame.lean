import FaceAuth.Foundation.Bytes
import FaceAuth.Transport.AcceptLoop

/-!
# Framed messages

A message on the local socket is four bytes of length, most significant first,
and that many bytes of an encoded envelope. The length is checked before the
body is read.
-/

namespace FaceAuth

open Foundation

/-- The bytes of the length before a message. -/
def HEADER_BYTES : Nat := 4

/-- The longest message unless configured. -/
def DEFAULT_MAX_MESSAGE_BYTES : Nat := 16 * 1024

/-- The longest message that may be configured. -/
def ABSOLUTE_MAX_MESSAGE_BYTES : Nat := 64 * 1024

/-- Bounded blocking-I/O configuration for one connected socket. -/
structure TransportConfig where
  maxMessageBytes : Nat
  ioTimeoutMicros : Nat
deriving DecidableEq, Repr

namespace TransportConfig

/-- The bounds of a configuration. -/
def validate (config : TransportConfig) : Except TransportError Unit :=
  if 1 ≤ config.maxMessageBytes ∧ config.maxMessageBytes ≤ ABSOLUTE_MAX_MESSAGE_BYTES ∧
      1_000 ≤ config.ioTimeoutMicros ∧ config.ioTimeoutMicros ≤ 30_000_000 then
    .ok ()
  else .error .invalidConfig

/-- The configuration of client and service. -/
def default : TransportConfig := ⟨DEFAULT_MAX_MESSAGE_BYTES, 2_000_000⟩

/-- The default keeps its own bounds. -/
theorem default_valid : default.validate = .ok () := rfl

end TransportConfig

/-- The bytes that a blocking read still finds, and the failure of a read past them: the
end of the stream, a timeout, or a reset by the peer. -/
structure Incoming where
  bytes : List UInt8
  ending : IoError
deriving DecidableEq, Repr

/-- Read exactly this many bytes. -/
def Incoming.readExact (incoming : Incoming) (count : Nat) :
    Except IoError (List UInt8) × Incoming :=
  if count ≤ incoming.bytes.length then
    (.ok (incoming.bytes.take count), { incoming with bytes := incoming.bytes.drop count })
  else (.error incoming.ending, { incoming with bytes := [] })

/-- The word of a list of bytes, most significant first. -/
def fromBeBytes (bytes : List UInt8) : Nat := fromLeBytes bytes.reverse

section Read

variable {Message : Type} (decode : List UInt8 → Except String (Envelope Message))
  (maxMessageBytes : Nat)

/-- Decode and version-check the body of one frame. -/
def decodeEnvelope (encoded : List UInt8) : Except TransportError (Envelope Message) :=
  match decode encoded with
  | .error detail => .error (.json detail)
  | .ok envelope =>
      match envelope.validateVersion with
      | .error error => .error (.protocol error)
      | .ok () => .ok envelope

/-- Read, decode, and version-check one envelope. -/
def readMessage (incoming : Incoming) : Except TransportError (Envelope Message) × Incoming :=
  match incoming.readExact HEADER_BYTES with
  | (.error error, incoming) => (.error (.io error), incoming)
  | (.ok header, incoming) =>
      let declared := fromBeBytes header
      if declared = 0 then (.error .emptyMessage, incoming)
      else if maxMessageBytes < declared then
        (.error (.messageTooLarge declared maxMessageBytes), incoming)
      else
        match incoming.readExact declared with
        | (.error error, incoming) => (.error (.io error), incoming)
        | (.ok encoded, incoming) => (decodeEnvelope decode encoded, incoming)

variable {decode maxMessageBytes}

/-- An envelope is decoded when its text is well formed and its version the current one. -/
theorem decodeEnvelope_eq_ok_iff {encoded : List UInt8} {envelope : Envelope Message} :
    decodeEnvelope decode encoded = .ok envelope ↔
      decode encoded = .ok envelope ∧ envelope.protocolVersion = PROTOCOL_VERSION := by
  unfold decodeEnvelope
  cases decode encoded with
  | error detail => simp
  | ok found =>
      by_cases current : found.protocolVersion = PROTOCOL_VERSION
      · simp only [Envelope.validateVersion, if_pos current, Except.ok.injEq]
        exact ⟨fun same => ⟨same, same ▸ current⟩, fun parts => parts.1⟩
      · simp only [Envelope.validateVersion, if_neg current, reduceCtorEq, false_iff,
          Except.ok.injEq]
        rintro ⟨rfl, other⟩
        exact current other

end Read

end FaceAuth
