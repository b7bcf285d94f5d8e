import FaceAuth.Transport.Frame
import FaceAuth.Foundation.Word
import Mathlib.Data.List.DropRight

/-!
# Streams of framed messages

What a sequence of written messages leaves on the socket, and what repeated
reads make of it, of every truncation of it, and of frames that nobody writes.
-/

namespace FaceAuth

open Foundation

/-- The largest number of 32 bits. -/
def U32_LIMIT : Nat := 4_294_967_295

/-- The bytes written to a socket, and how many more it takes before a write fails. -/
structure Outgoing where
  written : List UInt8
  room : Option (Nat × IoError)
deriving DecidableEq, Repr

/-- Write all of these bytes. -/
def Outgoing.writeAll (outgoing : Outgoing) (bytes : List UInt8) :
    Except IoError Unit × Outgoing :=
  match outgoing.room with
  | none => (.ok (), { outgoing with written := outgoing.written ++ bytes })
  | some (count, failure) =>
      if bytes.length ≤ count then
        (.ok (), ⟨outgoing.written ++ bytes, some (count - bytes.length, failure)⟩)
      else (.error failure, ⟨outgoing.written ++ bytes.take count, some (0, failure)⟩)

/-- The bytes of a length, most significant first. -/
def toBeBytes (length : Nat) : List UInt8 := (toLeBytes HEADER_BYTES length).reverse

@[simp] theorem length_toBeBytes (length : Nat) : (toBeBytes length).length = HEADER_BYTES := by
  rw [toBeBytes, List.length_reverse, length_toLeBytes]

theorem fromBeBytes_toBeBytes {length : Nat} (fits : length ≤ U32_LIMIT) :
    fromBeBytes (toBeBytes length) = length := by
  rw [fromBeBytes, toBeBytes, List.reverse_reverse]
  apply fromLeBytes_toLeBytes
  have words : 256 ^ HEADER_BYTES = 4_294_967_296 := by decide
  rw [words]
  exact Nat.lt_succ_of_le fits

/-- One frame: the length of a body, and the body. -/
def frame (encoded : List UInt8) : List UInt8 := toBeBytes encoded.length ++ encoded

@[simp] theorem length_frame (encoded : List UInt8) :
    (frame encoded).length = HEADER_BYTES + encoded.length := by
  rw [frame, List.length_append, length_toBeBytes]

section Write

variable {Message : Type} (encode : Envelope Message → Except String (List UInt8))
  (maxMessageBytes : Nat)

/-- Encode and write one current-version envelope. -/
def writeMessage (outgoing : Outgoing) (message : Message) :
    Except TransportError Unit × Outgoing :=
  match encode (.current message) with
  | .error detail => (.error (.json detail), outgoing)
  | .ok encoded =>
      if encoded = [] then (.error .emptyMessage, outgoing)
      else if maxMessageBytes < encoded.length then
        (.error (.messageTooLarge encoded.length maxMessageBytes), outgoing)
      else if U32_LIMIT < encoded.length then
        (.error (.messageTooLarge encoded.length maxMessageBytes), outgoing)
      else
        match outgoing.writeAll (toBeBytes encoded.length) with
        | (.error error, outgoing) => (.error (.io error), outgoing)
        | (.ok (), outgoing) =>
            match outgoing.writeAll encoded with
            | (.error error, outgoing) => (.error (.io error), outgoing)
            | (.ok (), outgoing) => (.ok (), outgoing)

/-- Write messages one after the other, up to the first failure. -/
def writeMessages : Outgoing → List Message → Except TransportError Unit × Outgoing
  | outgoing, [] => (.ok (), outgoing)
  | outgoing, message :: messages =>
      match writeMessage encode maxMessageBytes outgoing message with
      | (.error error, outgoing) => (.error error, outgoing)
      | (.ok (), outgoing) => writeMessages outgoing messages

/-- The frame of a message, when it can be encoded. -/
def wire (message : Message) : List UInt8 :=
  match encode (.current message) with
  | .error _ => []
  | .ok encoded => frame encoded

/-- The encoding of a message is within the limit. -/
def Within (message : Message) : Prop :=
  ∃ encoded, encode (.current message) = .ok encoded ∧ encoded.length ≤ maxMessageBytes

end Write

section Read

variable {Message : Type} (decode : List UInt8 → Except String (Envelope Message))
  (maxMessageBytes : Nat)

/-- Read messages one after the other, up to the first failure. Each message takes some bytes,
so that as many reads as there are bytes and one more end in a failure. -/
def readUpTo : Nat → Incoming → List (Envelope Message) × Option TransportError
  | 0, _ => ([], none)
  | count + 1, incoming =>
      match readMessage decode maxMessageBytes incoming with
      | (.error error, _) => ([], some error)
      | (.ok envelope, incoming) =>
          (envelope :: (readUpTo count incoming).1, (readUpTo count incoming).2)

/-- The messages up to the first error or the end. -/
def readMessages (incoming : Incoming) : List (Envelope Message) × Option TransportError :=
  readUpTo decode maxMessageBytes (incoming.bytes.length + 1) incoming

/-- Reading one envelope with the sizes of the body buffers that are allocated for it. -/
def readMessageAllocating (incoming : Incoming) :
    List Nat × (Except TransportError (Envelope Message) × Incoming) :=
  match incoming.readExact HEADER_BYTES with
  | (.error error, incoming) => ([], (.error (.io error), incoming))
  | (.ok header, incoming) =>
      let declared := fromBeBytes header
      if declared = 0 then ([], (.error .emptyMessage, incoming))
      else if maxMessageBytes < declared then
        ([], (.error (.messageTooLarge declared maxMessageBytes), incoming))
      else
        match incoming.readExact declared with
        | (.error error, incoming) => ([declared], (.error (.io error), incoming))
        | (.ok encoded, incoming) => ([declared], (decodeEnvelope decode encoded, incoming))

end Read

section Laws

variable {Message : Type} {encode : Envelope Message → Except String (List UInt8)}
  {decode : List UInt8 → Except String (Envelope Message)} {maxMessageBytes : Nat}

/-- The account of the buffers does not change what is read. -/
theorem readMessageAllocating_snd (incoming : Incoming) :
    (readMessageAllocating decode maxMessageBytes incoming).2 =
      readMessage decode maxMessageBytes incoming := by
  unfold readMessageAllocating readMessage
  cases incoming.readExact HEADER_BYTES with
  | mk answer rest =>
      cases answer with
      | error error => rfl
      | ok header =>
          dsimp only
          split_ifs
          · rfl
          · rfl
          · cases rest.readExact (fromBeBytes header) with
            | mk body rest => cases body <;> rfl

theorem allocated_le (incoming : Incoming) :
    ∀ size ∈ (readMessageAllocating decode maxMessageBytes incoming).1,
      size ≤ maxMessageBytes := by
  intro size member
  unfold readMessageAllocating at member
  cases header : incoming.readExact HEADER_BYTES with
  | mk answer rest =>
      rw [header] at member
      cases answer with
      | error error => cases member
      | ok bytes =>
          dsimp only at member
          split_ifs at member with empty large
          · cases member
          · cases member
          · generalize rest.readExact (fromBeBytes bytes) = result at member
            have declared : size = fromBeBytes bytes := by
              rcases result with ⟨body | body, rest⟩ <;> simpa using member
            omega

/-- A frame that begins the bytes is consumed. -/
theorem readMessage_frame {encoded : List UInt8} (present : encoded ≠ [])
    (fits : encoded.length ≤ maxMessageBytes) (word : encoded.length ≤ U32_LIMIT)
    (rest : List UInt8) (ending : IoError) :
    readMessage decode maxMessageBytes ⟨frame encoded ++ rest, ending⟩ =
      (decodeEnvelope decode encoded, ⟨rest, ending⟩) := by
  have header : HEADER_BYTES ≤ (frame encoded ++ rest).length := by
    simp only [List.length_append, length_frame]
    omega
  have front : (frame encoded ++ rest).take HEADER_BYTES = toBeBytes encoded.length := by
    rw [frame, List.append_assoc, ← length_toBeBytes encoded.length, List.take_left]
  have back : (frame encoded ++ rest).drop HEADER_BYTES = encoded ++ rest := by
    rw [frame, List.append_assoc, ← length_toBeBytes encoded.length, List.drop_left]
  have nonzero : encoded.length ≠ 0 := mt List.length_eq_zero_iff.mp present
  have small : ¬ maxMessageBytes < encoded.length := Nat.not_lt_of_le fits
  unfold readMessage Incoming.readExact
  rw [if_pos header]
  simp only [front, back, fromBeBytes_toBeBytes word, nonzero, small, if_false,
    List.length_append, Nat.le_add_right, if_true, List.take_left, List.drop_left]

/-- Fewer bytes than one frame end the reading. -/
theorem readMessage_short {encoded : List UInt8} (present : encoded ≠ [])
    (fits : encoded.length ≤ maxMessageBytes) (word : encoded.length ≤ U32_LIMIT) {count : Nat}
    (short : count < (frame encoded).length) (ending : IoError) :
    (readMessage decode maxMessageBytes ⟨(frame encoded).take count, ending⟩).1 =
      .error (.io ending) := by
  have nonzero : encoded.length ≠ 0 := mt List.length_eq_zero_iff.mp present
  have small : ¬ maxMessageBytes < encoded.length := Nat.not_lt_of_le fits
  rw [length_frame] at short
  unfold readMessage Incoming.readExact
  by_cases header : HEADER_BYTES ≤ ((frame encoded).take count).length
  · rw [if_pos header]
    rw [List.length_take, length_frame] at header
    have front : ((frame encoded).take count).take HEADER_BYTES = toBeBytes encoded.length := by
      rw [List.take_take, Nat.min_eq_left (by omega), frame, ← length_toBeBytes encoded.length,
        List.take_left]
    simp only [front, fromBeBytes_toBeBytes word, nonzero, small, if_false]
    rw [if_neg]
    simp only [List.length_drop, List.length_take, length_frame]
    omega
  · rw [if_neg header]

/-- The end of the stream, or less of it than one header, ends the reading. -/
theorem readMessage_nil (ending : IoError) :
    (readMessage decode maxMessageBytes ⟨[], ending⟩).1 = .error (.io ending) := by
  unfold readMessage Incoming.readExact
  simp [HEADER_BYTES]

theorem readUpTo_of_error {incoming : Incoming} {error : TransportError}
    (failed : (readMessage decode maxMessageBytes incoming).1 = .error error) (count : Nat) :
    readUpTo decode maxMessageBytes (count + 1) incoming = ([], some error) := by
  rw [readUpTo]
  generalize readMessage decode maxMessageBytes incoming = result at failed
  rcases result with ⟨answer, rest⟩
  rw [show answer = .error error from failed]

/-- The envelope of a message of the current version is decoded. -/
theorem decodeEnvelope_current {message : Message} {encoded : List UInt8}
    (decoded : decode encoded = .ok (.current message)) :
    decodeEnvelope decode encoded = .ok (.current message) :=
  decodeEnvelope_eq_ok_iff.mpr ⟨decoded, rfl⟩

section Wire

variable {writerLimit readerLimit : Nat}

/-- The frames of messages within a limit of the writer's word length. -/
structure TravelsAs (encode : Envelope Message → Except String (List UInt8))
    (decode : List UInt8 → Except String (Envelope Message)) (limit : Nat)
    (message : Message) (encoded : List UInt8) : Prop where
  sent : wire encode message = frame encoded
  received : decode encoded = .ok (.current message)
  present : encoded ≠ []
  fits : encoded.length ≤ limit
  word : encoded.length ≤ U32_LIMIT

/-- This many frames are complete within so many bytes of the stream, and no more. -/
structure CompleteFrames (encode : Envelope Message → Except String (List UInt8))
    (messages : List Message) (count complete : Nat) : Prop where
  bound : complete ≤ messages.length
  inside : ((messages.take complete).flatMap (wire encode)).length ≤ count
  beyond : complete < messages.length →
    count < ((messages.take (complete + 1)).flatMap (wire encode)).length

theorem Within.travels {message : Message} (within : Within encode writerLimit message)
    (inverts : ∀ message encoded, encode (.current message) = .ok encoded →
      decode encoded = .ok (.current message))
    (nonempty : ∀ envelope encoded, encode envelope = .ok encoded → encoded ≠ [])
    (limits : writerLimit ≤ readerLimit) (words : writerLimit ≤ U32_LIMIT) :
    ∃ encoded, TravelsAs encode decode readerLimit message encoded := by
  obtain ⟨encoded, same, fits⟩ := within
  exact ⟨encoded, by rw [wire, same], inverts _ _ same, nonempty _ _ same,
    Nat.le_trans fits limits, Nat.le_trans fits words⟩

/-- A message within the limit is written whole to a socket that takes everything. -/
theorem writeMessage_within {message : Message} (within : Within encode writerLimit message)
    (nonempty : ∀ envelope encoded, encode envelope = .ok encoded → encoded ≠ [])
    (words : writerLimit ≤ U32_LIMIT) (written : List UInt8) :
    writeMessage encode writerLimit ⟨written, none⟩ message =
      (.ok (), ⟨written ++ wire encode message, none⟩) := by
  obtain ⟨encoded, same, fits⟩ := within
  have small : ¬ writerLimit < encoded.length := Nat.not_lt_of_le fits
  have word : ¬ U32_LIMIT < encoded.length := Nat.not_lt_of_le (Nat.le_trans fits words)
  unfold writeMessage wire
  simp only [same, nonempty _ _ same, small, word, if_false, Outgoing.writeAll, frame,
    List.append_assoc]

theorem writeMessages_within {messages : List Message}
    (within : ∀ message ∈ messages, Within encode writerLimit message)
    (nonempty : ∀ envelope encoded, encode envelope = .ok encoded → encoded ≠ [])
    (words : writerLimit ≤ U32_LIMIT) (written : List UInt8) :
    writeMessages encode writerLimit ⟨written, none⟩ messages =
      (.ok (), ⟨written ++ messages.flatMap (wire encode), none⟩) := by
  induction messages generalizing written with
  | nil => simp [writeMessages]
  | cons message messages ih =>
      have first := writeMessage_within (within message List.mem_cons_self) nonempty words written
      have rest := ih (fun other member => within other (List.mem_cons_of_mem _ member))
        (written ++ wire encode message)
      rw [writeMessages, first]
      simpa using rest

/-- Any number of bytes of a stream of frames yields the messages whose frames are complete,
and then the failure of a read past the end. -/
theorem readUpTo_take {messages : List Message}
    (carried : ∀ message ∈ messages, ∃ encoded, TravelsAs encode decode readerLimit message encoded)
    (count : Nat) (ending : IoError) {reads : Nat}
    (enough : ((messages.flatMap (wire encode)).take count).length < reads) :
    ∃ complete, CompleteFrames encode messages count complete ∧
      readUpTo decode readerLimit reads ⟨(messages.flatMap (wire encode)).take count, ending⟩ =
        ((messages.take complete).map .current, some (.io ending)) := by
  induction messages generalizing count reads with
  | nil =>
      obtain ⟨more, rfl⟩ := Nat.exists_eq_succ_of_ne_zero (Nat.ne_zero_of_lt enough)
      refine ⟨0, ⟨Nat.le_refl _, by simp, by simp⟩, ?_⟩
      simpa using readUpTo_of_error (readMessage_nil ending) more
  | cons message messages ih =>
      obtain ⟨more, rfl⟩ := Nat.exists_eq_succ_of_ne_zero (Nat.ne_zero_of_lt enough)
      obtain ⟨encoded, carries⟩ := carried message List.mem_cons_self
      by_cases whole : (frame encoded).length ≤ count
      · have bytes : ((message :: messages).flatMap (wire encode)).take count =
            frame encoded ++ (messages.flatMap (wire encode)).take
              (count - (frame encoded).length) := by
          rw [List.flatMap_cons, carries.sent, List.take_append, List.take_of_length_le whole]
        have fewer : ((messages.flatMap (wire encode)).take
            (count - (frame encoded).length)).length < more := by
          have header : 0 < (frame encoded).length := by
            rw [length_frame]
            exact Nat.add_pos_left (by decide) _
          rw [bytes, List.length_append] at enough
          omega
        obtain ⟨complete, frames, same⟩ := ih
          (fun other member => carried other (List.mem_cons_of_mem _ member))
          (count - (frame encoded).length) fewer
        refine ⟨complete + 1, ⟨by simpa using frames.bound, ?_, ?_⟩, ?_⟩
        · have inside := frames.inside
          simp only [List.take_succ_cons, List.flatMap_cons, List.length_append, carries.sent]
          omega
        · intro more
          have last := frames.beyond (by simpa using more)
          simp only [List.take_succ_cons, List.flatMap_cons, List.length_append,
            carries.sent] at last ⊢
          omega
        · rw [bytes, readUpTo, readMessage_frame carries.present carries.fits carries.word,
            decodeEnvelope_current carries.received]
          simp only [same, List.take_succ_cons, List.map_cons]
      · refine ⟨0, ⟨Nat.zero_le _, by simp, ?_⟩, ?_⟩
        · intro _
          simp only [Nat.zero_add, List.take_succ_cons, List.take_zero, List.flatMap_cons,
            List.flatMap_nil, List.append_nil, carries.sent]
          omega
        · have short := Nat.lt_of_not_le whole
          have bytes : ((message :: messages).flatMap (wire encode)).take count =
              (frame encoded).take count := by
            rw [List.flatMap_cons, carries.sent, List.take_append_of_le_length (by omega)]
          rw [bytes]
          exact readUpTo_of_error
            (readMessage_short carries.present carries.fits carries.word short ending) more

end Wire

end Laws

/-- The blanks of JSON text: space, newline, carriage return and tab. -/
def jsonBlank (byte : UInt8) : Bool :=
  byte == 32 || byte == 10 || byte == 13 || byte == 9

section Codec

variable {Message : Type}

/-- What the encoder and the decoder of envelopes promise of each other. A decoded text may
be followed by blanks, and by nothing else. -/
structure EnvelopeText (encode : Envelope Message → Except String (List UInt8))
    (decode : List UInt8 → Except String (Envelope Message)) : Prop where
  nonempty : ∀ envelope encoded, encode envelope = .ok encoded → encoded ≠ []
  inverts : ∀ message encoded, encode (.current message) = .ok encoded →
    decode encoded = .ok (.current message)
  trailing : ∀ encoded envelope extra, decode encoded = .ok envelope →
    extra.any (fun byte => !jsonBlank byte) = true →
    ∃ detail, decode (encoded ++ extra) = .error detail

/-- Reading a header of four bytes and what follows it. -/
structure Refusals (decode : List UInt8 → Except String (Envelope Message)) (limit : Nat)
    (header rest : List UInt8) (ending : IoError) : Prop where
  zero : fromBeBytes header = 0 →
    (readMessage decode limit ⟨header ++ rest, ending⟩).1 = .error .emptyMessage
  large : limit < fromBeBytes header →
    (readMessage decode limit ⟨header ++ rest, ending⟩).1 =
      .error (.messageTooLarge (fromBeBytes header) limit)
  undecodable : ∀ body tail detail, rest = body ++ tail → body.length = fromBeBytes header →
    0 < body.length → body.length ≤ limit → decode body = .error detail →
    (readMessage decode limit ⟨header ++ rest, ending⟩).1 = .error (.json detail)
  trailing : ∀ encoded extra tail envelope, rest = encoded ++ extra ++ tail →
    (encoded ++ extra).length = fromBeBytes header → (encoded ++ extra).length ≤ limit →
    decode encoded = .ok envelope → extra.any (fun byte => !jsonBlank byte) = true →
    ∃ detail, (readMessage decode limit ⟨header ++ rest, ending⟩).1 = .error (.json detail)
  foreign : ∀ body tail envelope, rest = body ++ tail → body.length = fromBeBytes header →
    0 < body.length → body.length ≤ limit → decode body = .ok envelope →
    envelope.protocolVersion ≠ PROTOCOL_VERSION →
    (readMessage decode limit ⟨header ++ rest, ending⟩).1 =
      .error (.protocol (.unsupportedVersion envelope.protocolVersion PROTOCOL_VERSION))
  allocated : ∀ size ∈ (readMessageAllocating decode limit ⟨header ++ rest, ending⟩).1,
    size ≤ limit

/-- Streams of frames between a writer and a reader of these limits. -/
structure FrameCodec (encode : Envelope Message → Except String (List UInt8))
    (decode : List UInt8 → Except String (Envelope Message)) (writerLimit readerLimit : Nat) :
    Prop where
  written : ∀ messages : List Message,
    (∀ message ∈ messages, Within encode writerLimit message) →
    writeMessages encode writerLimit ⟨[], none⟩ messages =
      (.ok (), ⟨messages.flatMap (wire encode), none⟩)
  roundTrip : ∀ messages : List Message,
    (∀ message ∈ messages, Within encode writerLimit message) → ∀ ending,
    readMessages decode readerLimit ⟨messages.flatMap (wire encode), ending⟩ =
      (messages.map .current, some (.io ending))
  truncated : ∀ messages : List Message,
    (∀ message ∈ messages, Within encode writerLimit message) → ∀ count ending,
    ∃ complete, CompleteFrames encode messages count complete ∧
      readMessages decode readerLimit ⟨(messages.flatMap (wire encode)).take count, ending⟩ =
        ((messages.take complete).map .current, some (.io ending))
  refused : ∀ header rest ending, header.length = HEADER_BYTES →
    Refusals decode readerLimit header rest ending
  account : ∀ incoming, (readMessageAllocating decode readerLimit incoming).2 =
    readMessage decode readerLimit incoming

variable {encode : Envelope Message → Except String (List UInt8)}
  {decode : List UInt8 → Except String (Envelope Message)} {limit : Nat}

/-- Reading behind a whole header. -/
theorem readMessage_header {header : List UInt8} (four : header.length = HEADER_BYTES)
    (rest : List UInt8) (ending : IoError) :
    (readMessage decode limit ⟨header ++ rest, ending⟩).1 =
      if fromBeBytes header = 0 then .error .emptyMessage
      else if limit < fromBeBytes header then
        .error (.messageTooLarge (fromBeBytes header) limit)
      else if fromBeBytes header ≤ rest.length then
        decodeEnvelope decode (rest.take (fromBeBytes header))
      else .error (.io ending) := by
  unfold readMessage Incoming.readExact
  rw [if_pos (by rw [List.length_append]; omega)]
  simp only [← four, List.take_left, List.drop_left]
  split_ifs <;> rfl

/-- Reading a complete frame decodes its body. -/
theorem readMessage_body {header body : List UInt8} (four : header.length = HEADER_BYTES)
    (declared : body.length = fromBeBytes header) (present : 0 < body.length)
    (fits : body.length ≤ limit) (tail : List UInt8) (ending : IoError) :
    (readMessage decode limit ⟨header ++ (body ++ tail), ending⟩).1 =
      decodeEnvelope decode body := by
  rw [readMessage_header four, ← declared, if_neg (Nat.ne_of_gt present),
    if_neg (Nat.not_lt_of_le fits), if_pos (by rw [List.length_append]; omega), List.take_left]

theorem refusals_of_header (text : EnvelopeText encode decode) {header : List UInt8}
    (four : header.length = HEADER_BYTES) (rest : List UInt8) (ending : IoError) :
    Refusals decode limit header rest ending where
  zero empty := by rw [readMessage_header four, if_pos empty]
  large above := by
    rw [readMessage_header four, if_neg (Nat.ne_of_gt (Nat.zero_lt_of_lt above)), if_pos above]
  undecodable body tail detail parts declared present fits failed := by
    rw [parts, readMessage_body four declared present fits, decodeEnvelope, failed]
  trailing encoded extra tail envelope parts declared fits decoded junk := by
    obtain ⟨detail, failed⟩ := text.trailing encoded envelope extra decoded junk
    have present : 0 < (encoded ++ extra).length := by
      have some : extra ≠ [] := by
        intro none
        simp [none] at junk
      rw [List.length_append]
      exact Nat.add_pos_right _ (List.length_pos_iff.mpr some)
    refine ⟨detail, ?_⟩
    rw [parts, readMessage_body four declared present fits, decodeEnvelope, failed]
  foreign body tail envelope parts declared present fits decoded other := by
    rw [parts, readMessage_body four declared present fits, decodeEnvelope, decoded]
    simp only [Envelope.validateVersion, if_neg other]
  allocated := allocated_le _

/-- A stream of whole frames is complete at its own length. -/
theorem CompleteFrames.eq_length {messages : List Message} {complete : Nat}
    (frames : CompleteFrames encode messages (messages.flatMap (wire encode)).length complete) :
    complete = messages.length := by
  rcases Nat.lt_or_ge complete messages.length with fewer | all
  · have beyond := frames.beyond fewer
    have parts := congrArg (fun part => (part.flatMap (wire encode)).length)
      (List.take_append_drop (complete + 1) messages)
    simp only [List.flatMap_append, List.length_append] at parts
    omega
  · exact Nat.le_antisymm frames.bound all

/-- A valid configuration keeps the absolute bound. -/
theorem TransportConfig.limit_of_valid {config : TransportConfig}
    (valid : config.validate = .ok ()) : config.maxMessageBytes ≤ ABSOLUTE_MAX_MESSAGE_BYTES := by
  unfold TransportConfig.validate at valid
  split at valid
  case isTrue bounds => exact bounds.2.1
  case isFalse => cases valid

/-- Streams of messages survive the framing, their truncations end in an error behind the
complete frames, and what is no frame of a message is refused. -/
theorem frame_codec (text : EnvelopeText encode decode) {writer reader : TransportConfig}
    (valid : writer.validate = .ok ())
    (limits : writer.maxMessageBytes ≤ reader.maxMessageBytes) :
    FrameCodec encode decode writer.maxMessageBytes reader.maxMessageBytes := by
  have words : writer.maxMessageBytes ≤ U32_LIMIT :=
    Nat.le_trans (TransportConfig.limit_of_valid valid) (by decide)
  have truncated : ∀ messages : List Message,
      (∀ message ∈ messages, Within encode writer.maxMessageBytes message) → ∀ count ending,
      ∃ complete, CompleteFrames encode messages count complete ∧
        readMessages decode reader.maxMessageBytes
            ⟨(messages.flatMap (wire encode)).take count, ending⟩ =
          ((messages.take complete).map .current, some (.io ending)) := by
    intro messages within count ending
    apply readUpTo_take
    · intro message member
      exact (within message member).travels text.inverts text.nonempty limits words
    · exact Nat.lt_succ_self _
  refine ⟨?_, ?_, truncated, ?_, fun incoming => readMessageAllocating_snd incoming⟩
  · intro messages within
    simpa using writeMessages_within within text.nonempty words []
  · intro messages within ending
    obtain ⟨complete, frames, same⟩ := truncated messages within _ ending
    rw [List.take_length] at same
    rw [same, frames.eq_length, List.take_length]
  · intro header rest ending four
    exact refusals_of_header text four rest ending

end Codec

section Flags

/-- The text of an envelope of a truth value. -/
def flagText (envelope : Envelope Bool) : List UInt8 :=
  123 :: ("\"protocol_version\":".toList ++ Nat.toDigits 10 envelope.protocolVersion ++
    ",\"message\":".toList ++ (if envelope.message then "true" else "false").toList).map
    Char.toUInt8 ++ [125]

/-- The text of an envelope, which never fails. -/
def flagEncode (envelope : Envelope Bool) : Except String (List UInt8) :=
  .ok (flagText envelope)

/-- A text is a truth value in an envelope of the current version when it is written as one, up
to blanks at its end. -/
def flagDecode (bytes : List UInt8) : Except String (Envelope Bool) :=
  if bytes.rdropWhile jsonBlank = flagText (.current true) then .ok (.current true)
  else if bytes.rdropWhile jsonBlank = flagText (.current false) then .ok (.current false)
  else .error "no envelope of a truth value"

theorem flagDecode_eq_ok {bytes : List UInt8} {envelope : Envelope Bool}
    (decoded : flagDecode bytes = .ok envelope) :
    ∃ message, envelope = .current message ∧
      bytes.rdropWhile jsonBlank = flagText (.current message) := by
  unfold flagDecode at decoded
  split_ifs at decoded with yes no
  · exact ⟨true, by simpa using decoded.symm, yes⟩
  · exact ⟨false, by simpa using decoded.symm, no⟩

theorem rdropWhile_append_of_any (front : List UInt8) {extra : List UInt8}
    (junk : extra.any (fun byte => !jsonBlank byte) = true) :
    (front ++ extra).rdropWhile jsonBlank = front ++ extra.rdropWhile jsonBlank ∧
      extra.rdropWhile jsonBlank ≠ [] := by
  have kept : extra.reverse.dropWhile jsonBlank ≠ [] := by
    rw [Ne, List.dropWhile_eq_nil_iff]
    intro blank
    obtain ⟨byte, member, solid⟩ := List.any_eq_true.mp junk
    have := blank byte (List.mem_reverse.mpr member)
    simp [this] at solid
  refine ⟨?_, by simpa [List.rdropWhile] using kept⟩
  rw [List.rdropWhile, List.reverse_append, List.dropWhile_append,
    if_neg (by rwa [List.isEmpty_iff])]
  simp [List.rdropWhile]

theorem flag_text : EnvelopeText flagEncode flagDecode where
  nonempty envelope encoded same := by
    simp only [flagEncode, Except.ok.injEq] at same
    subst same
    exact List.cons_ne_nil _ _
  inverts message encoded same := by
    simp only [flagEncode, Except.ok.injEq] at same
    subst same
    cases message <;> decide +kernel
  trailing encoded envelope extra decoded junk := by
    obtain ⟨message, rfl, same⟩ := flagDecode_eq_ok decoded
    obtain ⟨strip, some⟩ := rdropWhile_append_of_any encoded junk
    cases result : flagDecode (encoded ++ extra) with
    | error detail => exact ⟨detail, rfl⟩
    | ok other =>
        obtain ⟨found, -, text⟩ := flagDecode_eq_ok result
        rw [strip] at text
        have front : flagText (.current message) <+: encoded :=
          same ▸ List.rdropWhile_prefix _ _
        have apart : ∀ a b : Bool, flagText (.current a) <+: flagText (.current b) → a = b := by
          decide +kernel
        have equal := apart message found (text ▸ front.trans (List.prefix_append _ _))
        have lengths := congrArg List.length text
        have longer := List.length_pos_iff.mpr some
        have shorter := front.length_le
        rw [equal] at shorter
        rw [List.length_append] at lengths
        omega

/-- A newline at the end of a frame is a trailing byte that a reader does not refuse. -/
theorem newline_read :
    EnvelopeText flagEncode flagDecode ∧
    flagEncode (.current true) = .ok (flagText (.current true)) ∧
    (readMessage flagDecode TransportConfig.default.maxMessageBytes
      ⟨frame (flagText (.current true) ++ [10]), ⟨.other, "failed to fill whole buffer"⟩⟩).1 =
      .ok (.current true) :=
  ⟨flag_text, rfl, by decide +kernel⟩

theorem frame_codec_flags :
    (∀ message ∈ [true, false],
      Within flagEncode TransportConfig.default.maxMessageBytes message) ∧
    FrameCodec flagEncode flagDecode TransportConfig.default.maxMessageBytes
      TransportConfig.default.maxMessageBytes :=
  ⟨fun message _ => ⟨_, rfl, by cases message <;> decide +kernel⟩,
    @frame_codec _ _ _ flag_text TransportConfig.default TransportConfig.default
      TransportConfig.default_valid (Nat.le_refl _)⟩

end Flags

end FaceAuth
