import FaceAuth.Foundation.Bytes
import FaceAuth.Foundation.Float32
import FaceAuth.Foundation.Word
import FaceAuth.Storage.Record

/-!
# Encrypted template containers

A stored payload is JSON text under authenticated encryption, behind a header of
magic, container version and nonce. The text format and the cipher are
parameters that carry their round trip; the header is spelled out.
-/

namespace FaceAuth

open Foundation

/-- The bytes of `FAT1`. -/
def MAGIC : List UInt8 := [70, 65, 84, 49]

/-- The bytes of a nonce. -/
def NONCE_LENGTH : Nat := 24

/-- The bytes before the ciphertext. -/
def HEADER_LENGTH : Nat := MAGIC.length + 2 + NONCE_LENGTH

/-- The longest ciphertext that is written or read. -/
def MAX_CIPHERTEXT_LENGTH : Nat := 1_048_576

/-- Length of the authentication tag behind a ciphertext. -/
def TAG_LENGTH : Nat := 16

/-- The version of the payload's fields. -/
def STORED_PAYLOAD_SCHEMA_VERSION : Nat := 1

/-- What the authenticated text of a template file says. -/
inductive StoredPayload where
  | live (schemaVersion generation : Nat) (record : TemplateRecord)
  | deleted (schemaVersion generation : Nat) (uid : UInt32)
deriving DecidableEq

/-- The generation of a payload, live or deleted. -/
def StoredPayload.generation : StoredPayload → Nat
  | .live _ generation _ => generation
  | .deleted _ generation _ => generation

/-- The payload has the current version, a generation, the account's owner and a valid record. -/
def validateStoredPayload (payload : StoredPayload) (expectedUid : UInt32) :
    Except StorageError Unit :=
  match payload with
  | .live schemaVersion generation record => do
      require (schemaVersion = STORED_PAYLOAD_SCHEMA_VERSION ∧ generation ≠ 0)
        (.invalidRecord "stored template generation metadata is invalid")
      record.validate
      require (record.uid = expectedUid)
        (.invalidRecord "template UID does not match its path")
  | .deleted schemaVersion generation uid =>
      require (schemaVersion = STORED_PAYLOAD_SCHEMA_VERSION ∧ generation ≠ 0 ∧
          uid = expectedUid)
        (.invalidRecord "stored deletion generation metadata is invalid")

/-- What the cipher authenticates beside the text. -/
def associatedData (uid : UInt32) : List UInt8 :=
  MAGIC ++ toLeBytes 2 FORMAT_VERSION ++ toLeBytes 4 uid.toNat

/-- A fresh nonce of the cipher's length. -/
abbrev Nonce := {bytes : List UInt8 // bytes.length = NONCE_LENGTH}

/-- Bytes that the text of a payload needs at most: the fields, and the decimal
form of each embedding value. -/
def textBound (dimension : Nat) : Nat := 256 + 17 * dimension

/-- The numbers in the embedding of a payload. -/
def StoredPayload.dimension : StoredPayload → Nat
  | .live _ _ record => record.embedding.length
  | .deleted _ _ _ => 0

/-- JSON text of stored payloads and of the bare records of earlier versions.
Valid data has a bounded text that reads back, and the text of a bare record is
none of a stored payload. -/
structure PayloadText where
  toVec : StoredPayload → Except String (List UInt8)
  recordToVec : TemplateRecord → Except String (List UInt8)
  payloadFromSlice : List UInt8 → Option StoredPayload
  recordFromSlice : List UInt8 → Except String TemplateRecord
  payload_reads_back : ∀ payload uid, validateStoredPayload payload uid = .ok () →
    payload.generation ≤ U64_MAX →
      ∃ text, toVec payload = .ok text ∧ text.length ≤ textBound payload.dimension ∧
        payloadFromSlice text = some payload
  record_reads_back : ∀ record : TemplateRecord, record.validate = .ok () →
    ∃ text, recordToVec record = .ok text ∧ text.length ≤ textBound record.embedding.length ∧
      payloadFromSlice text = none ∧ recordFromSlice text = .ok record

/-- Authenticated encryption under the loaded key. A message within the bounds of
a container is encrypted, and decrypts under the same nonce and associated data. -/
structure TemplateCipher where
  encrypt : List UInt8 → List UInt8 → List UInt8 → Option (List UInt8)
  decrypt : List UInt8 → List UInt8 → List UInt8 → Option (List UInt8)
  decrypts : ∀ (nonce : Nonce) (message associated : List UInt8),
    message.length + TAG_LENGTH ≤ MAX_CIPHERTEXT_LENGTH →
      ∃ ciphertext, encrypt nonce.val message associated = some ciphertext ∧
        ciphertext.length = message.length + TAG_LENGTH ∧
        decrypt nonce.val ciphertext associated = some message

section Container

variable (text : PayloadText) (cipher : TemplateCipher)

/-- The bytes of a container around one text. -/
def encodeContainer (nonce : Nonce) (uid : UInt32) (plaintext : List UInt8) :
    Except StorageError (List UInt8) := do
  let ciphertext ← (cipher.encrypt nonce.val plaintext (associatedData uid)).elim
    (.error .authenticationFailed) .ok
  .ok (MAGIC ++ toLeBytes 2 FORMAT_VERSION ++ nonce.val ++ ciphertext)

/-- The bytes of a container that holds one payload. -/
def encodePayload (nonce : Nonce) (uid : UInt32) (payload : StoredPayload) :
    Except StorageError (List UInt8) := do
  let plaintext ← (text.toVec payload).mapError .serialization
  encodeContainer cipher nonce uid plaintext

/-- The bytes that earlier versions wrote for one record. -/
def encodeLegacyRecord (nonce : Nonce) (record : TemplateRecord) :
    Except StorageError (List UInt8) := do
  let plaintext ← (text.recordToVec record).mapError .serialization
  encodeContainer cipher nonce record.uid plaintext

/-- The payload of an authenticated text. A text without a tag is the bare record
of an earlier version, which stands at generation zero. -/
def decodePlaintext (uid : UInt32) (plaintext : List UInt8) :
    Except StorageError StoredPayload :=
  match text.payloadFromSlice plaintext with
  | some payload => do
      validateStoredPayload payload uid
      .ok payload
  | none => do
      let record ← (text.recordFromSlice plaintext).mapError .serialization
      record.validate
      require (record.uid = uid) (.invalidRecord "template UID does not match its path")
      .ok (.live 0 0 record)

/-- The container version that the header names. -/
def containerVersion (encoded : List UInt8) : Nat :=
  fromLeBytes ((encoded.drop MAGIC.length).take 2)

/-- The nonce that the header carries. -/
def containerNonce (encoded : List UInt8) : List UInt8 :=
  (encoded.drop (MAGIC.length + 2)).take NONCE_LENGTH

/-- The authenticated text of a container. -/
def decodeContainer (uid : UInt32) (encoded : List UInt8) : Except StorageError (List UInt8) := do
  require (HEADER_LENGTH ≤ encoded.length ∧
      encoded.length ≤ HEADER_LENGTH + MAX_CIPHERTEXT_LENGTH)
    (.invalidRecord "encrypted template size is invalid")
  require (encoded.take MAGIC.length = MAGIC)
    (.invalidRecord "encrypted template magic is invalid")
  require (containerVersion encoded = FORMAT_VERSION)
    (.invalidRecord "encrypted template version is unsupported")
  (cipher.decrypt (containerNonce encoded) (encoded.drop HEADER_LENGTH)
    (associatedData uid)).elim (.error .authenticationFailed) .ok

/-- The size, the magic and the version of a container. -/
def checkHeader (encoded : List UInt8) : Except StorageError Unit := do
  require (HEADER_LENGTH ≤ encoded.length ∧
      encoded.length ≤ HEADER_LENGTH + MAX_CIPHERTEXT_LENGTH)
    (.invalidRecord "encrypted template size is invalid")
  require (encoded.take MAGIC.length = MAGIC)
    (.invalidRecord "encrypted template magic is invalid")
  require (containerVersion encoded = FORMAT_VERSION)
    (.invalidRecord "encrypted template version is unsupported")

/-- The payload of a container. -/
def decodePayload (uid : UInt32) (encoded : List UInt8) : Except StorageError StoredPayload := do
  let plaintext ← decodeContainer cipher uid encoded
  decodePlaintext text uid plaintext

/-- A container is opened behind its header. -/
theorem decodeContainer_eq (uid : UInt32) (encoded : List UInt8) :
    decodeContainer cipher uid encoded = checkHeader encoded >>= fun _ =>
      (cipher.decrypt (containerNonce encoded) (encoded.drop HEADER_LENGTH)
        (associatedData uid)).elim (.error .authenticationFailed) .ok := by
  simp only [decodeContainer, checkHeader, bind_assoc]

theorem checkHeader_eq_ok_iff {encoded : List UInt8} :
    checkHeader encoded = .ok () ↔
      (HEADER_LENGTH ≤ encoded.length ∧
        encoded.length ≤ HEADER_LENGTH + MAX_CIPHERTEXT_LENGTH) ∧
      encoded.take MAGIC.length = MAGIC ∧ containerVersion encoded = FORMAT_VERSION := by
  simp only [checkHeader, check_bind_eq_ok_iff, require_eq_ok_iff]

/-- The header of a written container passes, and its ciphertext is opened. -/
theorem decodeContainer_layout {ciphertext : List UInt8}
    (fits : ciphertext.length ≤ MAX_CIPHERTEXT_LENGTH) (nonce : Nonce) (uid : UInt32) :
    decodeContainer cipher uid
        (MAGIC ++ toLeBytes 2 FORMAT_VERSION ++ nonce.val ++ ciphertext) =
      (cipher.decrypt nonce.val ciphertext (associatedData uid)).elim
        (.error .authenticationFailed) .ok := by
  have header : (MAGIC ++ toLeBytes 2 FORMAT_VERSION ++ nonce.val).length = HEADER_LENGTH := by
    rw [List.length_append, nonce.property]
    rfl
  have body : (MAGIC ++ toLeBytes 2 FORMAT_VERSION ++ nonce.val ++ ciphertext).drop
      HEADER_LENGTH = ciphertext := by
    rw [← header, List.drop_left]
  have total : (MAGIC ++ toLeBytes 2 FORMAT_VERSION ++ nonce.val ++ ciphertext).length =
      HEADER_LENGTH + ciphertext.length := by
    rw [List.length_append, header]
  have nonceBytes : containerNonce
      (MAGIC ++ toLeBytes 2 FORMAT_VERSION ++ nonce.val ++ ciphertext) = nonce.val := by
    change (nonce.val ++ ciphertext).take NONCE_LENGTH = nonce.val
    exact List.take_left' nonce.property
  have passes : checkHeader (MAGIC ++ toLeBytes 2 FORMAT_VERSION ++ nonce.val ++ ciphertext) =
      .ok () := by
    rw [checkHeader_eq_ok_iff, total]
    exact ⟨⟨Nat.le_add_right _ _, Nat.add_le_add_left fits _⟩, rfl, rfl⟩
  rw [decodeContainer_eq, passes, body, nonceBytes]
  rfl

/-- A text within the bounds is sealed, and opens again for its account. -/
theorem decodeContainer_encodeContainer {plaintext : List UInt8}
    (fits : plaintext.length + TAG_LENGTH ≤ MAX_CIPHERTEXT_LENGTH) (nonce : Nonce)
    (uid : UInt32) :
    ∃ encoded, encodeContainer cipher nonce uid plaintext = .ok encoded ∧
      decodeContainer cipher uid encoded = .ok plaintext := by
  obtain ⟨ciphertext, encrypted, size, decrypted⟩ :=
    cipher.decrypts nonce plaintext (associatedData uid) fits
  refine ⟨MAGIC ++ toLeBytes 2 FORMAT_VERSION ++ nonce.val ++ ciphertext, ?_, ?_⟩
  · refine bind_eq_ok_iff.mpr ⟨ciphertext, ?_, rfl⟩
    rw [encrypted, Option.elim_some]
  · rw [decodeContainer_layout cipher (size ▸ fits), decrypted, Option.elim_some]

/-- The text of the largest embedding fits into a container. -/
theorem textBound_fits {dimension : Nat} (bounded : dimension ≤ MAX_EMBEDDING_DIMENSION)
    {plaintext : List UInt8} (size : plaintext.length ≤ textBound dimension) :
    plaintext.length + TAG_LENGTH ≤ MAX_CIPHERTEXT_LENGTH := by
  unfold textBound at size
  unfold MAX_EMBEDDING_DIMENSION at bounded
  unfold TAG_LENGTH MAX_CIPHERTEXT_LENGTH
  omega

theorem StoredPayload.dimension_le {payload : StoredPayload} {uid : UInt32}
    (valid : validateStoredPayload payload uid = .ok ()) :
    payload.dimension ≤ MAX_EMBEDDING_DIMENSION := by
  cases payload with
  | live schemaVersion generation record =>
      simp only [validateStoredPayload, check_bind_eq_ok_iff] at valid
      exact TemplateRecord.dimension_le valid.2.1
  | deleted schemaVersion generation owner => exact Nat.zero_le _

variable {text cipher}

/-- A container whose header is refused is not decrypted. -/
theorem decodePayload_of_header {uid : UInt32} {encoded : List UInt8} {error : StorageError}
    (refused : checkHeader encoded = .error error) :
    decodePayload text cipher uid encoded = .error error := by
  rw [decodePayload, decodeContainer_eq, refused]
  rfl

/-- A valid payload is written, and what was written reads back. -/
theorem decodePayload_encodePayload {payload : StoredPayload} {uid : UInt32}
    (valid : validateStoredPayload payload uid = .ok ())
    (counted : payload.generation ≤ U64_MAX) (nonce : Nonce) :
    ∃ encoded, encodePayload text cipher nonce uid payload = .ok encoded ∧
      decodePayload text cipher uid encoded = .ok payload := by
  obtain ⟨plaintext, written, size, parsed⟩ := text.payload_reads_back payload uid valid counted
  obtain ⟨encoded, sealed, opened⟩ := decodeContainer_encodeContainer cipher
    (textBound_fits (StoredPayload.dimension_le valid) size) nonce uid
  refine ⟨encoded, bind_eq_ok_iff.mpr ⟨plaintext, mapError_eq_ok_iff.mpr written, sealed⟩,
    bind_eq_ok_iff.mpr ⟨plaintext, opened, ?_⟩⟩
  rw [decodePlaintext, parsed]
  exact check_bind_eq_ok_iff.mpr ⟨valid, rfl⟩

/-- A bare record of an earlier version reads back at generation zero. -/
theorem decodePayload_encodeLegacyRecord {record : TemplateRecord}
    (valid : record.validate = .ok ()) (nonce : Nonce) :
    ∃ encoded, encodeLegacyRecord text cipher nonce record = .ok encoded ∧
      decodePayload text cipher record.uid encoded = .ok (.live 0 0 record) := by
  obtain ⟨plaintext, written, size, untagged, parsed⟩ := text.record_reads_back record valid
  obtain ⟨encoded, sealed, opened⟩ := decodeContainer_encodeContainer cipher
    (textBound_fits (TemplateRecord.dimension_le valid) size) nonce record.uid
  refine ⟨encoded, bind_eq_ok_iff.mpr ⟨plaintext, mapError_eq_ok_iff.mpr written, sealed⟩,
    bind_eq_ok_iff.mpr ⟨plaintext, opened, ?_⟩⟩
  rw [decodePlaintext, untagged]
  exact bind_eq_ok_iff.mpr ⟨record, mapError_eq_ok_iff.mpr parsed,
    check_bind_eq_ok_iff.mpr ⟨valid, check_bind_eq_ok_iff.mpr ⟨require_eq_ok_iff.mpr rfl, rfl⟩⟩⟩

end Container

/-! ## A fixed-width text

A compact layout in place of the JSON text, and a cipher that only checks its
tag. Both satisfy the laws above and can be evaluated. -/

/-- An embedding as four bytes for each of its numbers. -/
def embeddingToBytes (embedding : List Float32) : List UInt8 :=
  embedding.flatMap fun value => toLeBytes 4 (floatBits value).toNat

/-- The embedding of its bytes. -/
def embeddingFromBytes : List UInt8 → Option (List Float32)
  | [] => some []
  | first :: second :: third :: fourth :: rest => do
      let value ← floatFromBits (UInt32.ofNat (fromLeBytes [first, second, third, fourth]))
      let values ← embeddingFromBytes rest
      some (value :: values)
  | _ => none

theorem embeddingFromBytes_toBytes (embedding : List Float32) :
    embeddingFromBytes (embeddingToBytes embedding) = some embedding := by
  induction embedding with
  | nil => rfl
  | cons value values ih =>
      have word : fromLeBytes (toLeBytes 4 (floatBits value).toNat) = (floatBits value).toNat :=
        fromLeBytes_toLeBytes (floatBits value).toNat_lt
      have read : embeddingFromBytes (embeddingToBytes (value :: values)) =
          (do
            let found ← floatFromBits (UInt32.ofNat
              (fromLeBytes (toLeBytes 4 (floatBits value).toNat)))
            let rest ← embeddingFromBytes (embeddingToBytes values)
            some (found :: rest)) := rfl
      rw [read, word, UInt32.ofNat_toNat, floatFromBits_floatBits, ih]
      rfl

theorem length_embeddingToBytes (embedding : List Float32) :
    (embeddingToBytes embedding).length = 4 * embedding.length := by
  induction embedding with
  | nil => rfl
  | cons value values ih =>
      rw [embeddingToBytes, List.flatMap_cons, List.length_append, length_toLeBytes,
        List.length_cons]
      unfold embeddingToBytes at ih
      omega

/-- The account, the digest and the embedding of a record. -/
def recordToBytes (record : TemplateRecord) : List UInt8 :=
  toLeBytes 4 record.uid.toNat ++ record.modelCompatibilitySha256 ++
    embeddingToBytes record.embedding

/-- The record of its compact bytes. -/
def recordFromBytes (bytes : List UInt8) : Option TemplateRecord := do
  let embedding ← embeddingFromBytes (bytes.drop 68)
  some ⟨FORMAT_VERSION, UInt32.ofNat (fromLeBytes (bytes.take 4)), (bytes.drop 4).take 64,
    embedding⟩

/-- The tag of the payload, its generation, and the record or the account. -/
def payloadToBytes : StoredPayload → List UInt8
  | .live _ generation record => 1 :: (toLeBytes 8 generation ++ recordToBytes record)
  | .deleted _ generation uid => 2 :: (toLeBytes 8 generation ++ toLeBytes 4 uid.toNat)

/-- The payload of its compact bytes. -/
def payloadFromBytes : List UInt8 → Option StoredPayload
  | tag :: rest =>
      if tag = 1 then do
        let record ← recordFromBytes (rest.drop 8)
        some (.live STORED_PAYLOAD_SCHEMA_VERSION (fromLeBytes (rest.take 8)) record)
      else if tag = 2 then
        some (.deleted STORED_PAYLOAD_SCHEMA_VERSION (fromLeBytes (rest.take 8))
          (UInt32.ofNat (fromLeBytes (rest.drop 8))))
      else none
  | [] => none

/-- A record that passes its validation reads back. -/
theorem recordFromBytes_toBytes {record : TemplateRecord} (valid : record.validate = .ok ()) :
    recordFromBytes (recordToBytes record) = some record := by
  obtain ⟨version, digest⟩ := TemplateRecord.schema_of_valid valid
  obtain ⟨schemaVersion, uid, sha256, embedding⟩ := record
  have account : fromLeBytes (toLeBytes 4 uid.toNat) = uid.toNat :=
    fromLeBytes_toLeBytes uid.toNat_lt
  have first : (toLeBytes 4 uid.toNat ++ sha256 ++ embeddingToBytes embedding).take 4 =
      toLeBytes 4 uid.toNat := by
    rw [List.append_assoc]
    exact List.take_left' (length_toLeBytes 4 _)
  have second : ((toLeBytes 4 uid.toNat ++ sha256 ++ embeddingToBytes embedding).drop 4).take 64 =
      sha256 := by
    rw [List.append_assoc, List.drop_left' (length_toLeBytes 4 _)]
    exact List.take_left' digest.1
  have third : (toLeBytes 4 uid.toNat ++ sha256 ++ embeddingToBytes embedding).drop 68 =
      embeddingToBytes embedding := by
    apply List.drop_left'
    rw [List.length_append, length_toLeBytes, digest.1]
  simp only [recordFromBytes, recordToBytes, first, second, third, account,
    embeddingFromBytes_toBytes, UInt32.ofNat_toNat]
  change schemaVersion = FORMAT_VERSION at version
  rw [version]
  rfl

theorem length_recordToBytes {record : TemplateRecord} (valid : record.validate = .ok ()) :
    (recordToBytes record).length = 68 + 4 * record.embedding.length := by
  rw [recordToBytes, List.length_append, List.length_append, length_toLeBytes,
    (TemplateRecord.schema_of_valid valid).2.1, length_embeddingToBytes]

theorem payloadFromBytes_toBytes {payload : StoredPayload} {uid : UInt32}
    (valid : validateStoredPayload payload uid = .ok ())
    (counted : payload.generation ≤ U64_MAX) :
    payloadFromBytes (payloadToBytes payload) = some payload := by
  have word : ∀ generation rest, generation ≤ U64_MAX →
      fromLeBytes ((toLeBytes 8 generation ++ rest).take 8) = generation := by
    intro generation rest small
    rw [List.take_left' (length_toLeBytes 8 _)]
    exact fromLeBytes_toLeBytes (Nat.lt_succ_of_le small)
  have body : ∀ generation rest, (toLeBytes 8 generation ++ rest).drop 8 = rest := by
    intro generation rest
    exact List.drop_left' (length_toLeBytes 8 _)
  cases payload with
  | live schemaVersion generation record =>
      simp only [validateStoredPayload, check_bind_eq_ok_iff, require_eq_ok_iff] at valid
      obtain ⟨⟨rfl, -⟩, sound, -⟩ := valid
      simp only [payloadToBytes, payloadFromBytes, if_true, body, recordFromBytes_toBytes sound]
      rw [word generation _ counted]
      rfl
  | deleted schemaVersion generation owner =>
      simp only [validateStoredPayload, require_eq_ok_iff] at valid
      obtain ⟨rfl, -, rfl⟩ := valid
      have account : fromLeBytes (toLeBytes 4 owner.toNat) = owner.toNat :=
        fromLeBytes_toLeBytes owner.toNat_lt
      have other : ((2 : UInt8) = 1) = False := eq_false (by decide)
      simp only [payloadToBytes, payloadFromBytes, other, if_false, if_true, body, account,
        UInt32.ofNat_toNat]
      rw [word generation _ counted]

/-- The compact layout is a payload text. A bare record carries the tag zero. -/
def compactText : PayloadText where
  toVec := fun payload => .ok (payloadToBytes payload)
  recordToVec := fun record => .ok (0 :: recordToBytes record)
  payloadFromSlice := payloadFromBytes
  recordFromSlice := fun bytes =>
    (recordFromBytes bytes.tail).elim (.error "unexpected end of input") .ok
  payload_reads_back := by
    intro payload uid valid counted
    refine ⟨_, rfl, ?_, payloadFromBytes_toBytes valid counted⟩
    cases payload with
    | live schemaVersion generation record =>
        simp only [validateStoredPayload, check_bind_eq_ok_iff] at valid
        rw [payloadToBytes, List.length_cons, List.length_append, length_toLeBytes,
          length_recordToBytes valid.2.1, StoredPayload.dimension, textBound]
        omega
    | deleted schemaVersion generation owner =>
        rw [payloadToBytes, List.length_cons, List.length_append, length_toLeBytes,
          length_toLeBytes, textBound]
        omega
  record_reads_back := by
    intro record valid
    refine ⟨_, rfl, ?_, rfl, ?_⟩
    · rw [List.length_cons, length_recordToBytes valid, textBound]
      omega
    · rw [List.tail_cons, recordFromBytes_toBytes valid, Option.elim_some]

/-- The tag that the plain cipher checks: sixteen bytes of what it authenticates. -/
def plainTag (nonce associated : List UInt8) : List UInt8 := (associated ++ nonce).take TAG_LENGTH

/-- A cipher that leaves the message readable behind its tag. -/
def plainCipher : TemplateCipher where
  encrypt := fun nonce message associated => some (plainTag nonce associated ++ message)
  decrypt := fun nonce ciphertext associated =>
    if ciphertext.take TAG_LENGTH = plainTag nonce associated then
      some (ciphertext.drop TAG_LENGTH)
    else none
  decrypts := by
    intro nonce message associated fits
    have tag : (plainTag nonce.val associated).length = TAG_LENGTH := by
      rw [plainTag, List.length_take, List.length_append, nonce.property, NONCE_LENGTH,
        TAG_LENGTH]
      omega
    refine ⟨_, rfl, ?_, ?_⟩
    · rw [List.length_append, tag, Nat.add_comm]
    · rw [List.take_left' tag, List.drop_left' tag, if_pos rfl]

end FaceAuth
