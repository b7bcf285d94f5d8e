import FaceAuth.Storage.Generations
import FaceAuth.Storage.Json

/-!
# The container codec

What is written for an account is read back for that account and for no other,
and nothing is read but what was sealed under the key.
-/

namespace FaceAuth

open Foundation

/-- The associated data names the account. -/
theorem associatedData_injective : Function.Injective associatedData := by
  intro first second same
  have words : toLeBytes 4 first.toNat = toLeBytes 4 second.toNat := List.append_cancel_left same
  have numbers := congrArg fromLeBytes words
  rw [fromLeBytes_toLeBytes first.toNat_lt, fromLeBytes_toLeBytes second.toNat_lt] at numbers
  exact UInt32.toNat_inj.mp numbers

/-- Decryption inverts encryption under the same nonce and associated data, and fails
otherwise. -/
structure TemplateCipher.Authenticates (cipher : TemplateCipher) : Prop where
  inverse : ∀ (nonce : Nonce) (ciphertext associated message : List UInt8),
    cipher.decrypt nonce.val ciphertext associated = some message →
      cipher.encrypt nonce.val message associated = some ciphertext
  bound : ∀ (nonce : Nonce) (message ciphertext : List UInt8) (uid other : UInt32),
    cipher.encrypt nonce.val message (associatedData uid) = some ciphertext →
      associatedData other ≠ associatedData uid →
        cipher.decrypt nonce.val ciphertext (associatedData other) = none

section Containers

variable {cipher : TemplateCipher} {uid : UInt32} {encoded plaintext : List UInt8}

variable (cipher uid encoded) in
/-- The bytes are what sealing some text for the account produces. -/
def Sealed : Prop :=
  ∃ nonce plaintext, encodeContainer cipher nonce uid plaintext = .ok encoded

/-- A container with its header in place falls into the parts that were written. -/
theorem layout_of_checkHeader (passes : checkHeader encoded = .ok ()) :
    encoded = MAGIC ++ toLeBytes 2 FORMAT_VERSION ++ containerNonce encoded ++
        encoded.drop HEADER_LENGTH ∧
      (containerNonce encoded).length = NONCE_LENGTH := by
  obtain ⟨⟨long, -⟩, magic, version⟩ := checkHeader_eq_ok_iff.mp passes
  have four : MAGIC.length = 4 := rfl
  have thirty : HEADER_LENGTH = 30 := rfl
  have twenty : NONCE_LENGTH = 24 := rfl
  have word : ((encoded.drop MAGIC.length).take 2).length = 2 := by
    rw [List.length_take, List.length_drop]
    omega
  have spelled : (encoded.drop MAGIC.length).take 2 = toLeBytes 2 FORMAT_VERSION := by
    rw [← toLeBytes_fromLeBytes ((encoded.drop MAGIC.length).take 2), word]
    exact congrArg (toLeBytes 2) version
  constructor
  · have first := (List.take_append_drop MAGIC.length encoded).symm
    have second := (List.take_append_drop 2 (encoded.drop MAGIC.length)).symm
    have third := (List.take_append_drop NONCE_LENGTH (encoded.drop (MAGIC.length + 2))).symm
    rw [List.drop_drop] at second third
    rw [magic] at first
    rw [spelled] at second
    rw [second, third] at first
    rw [containerNonce, List.append_assoc, List.append_assoc]
    exact first
  · rw [containerNonce, List.length_take, List.length_drop]
    omega

/-- What opens was sealed for the account. -/
theorem sealed_of_decodeContainer (authentic : cipher.Authenticates)
    (opened : decodeContainer cipher uid encoded = .ok plaintext) : Sealed cipher uid encoded := by
  rw [decodeContainer_eq, check_bind_eq_ok_iff] at opened
  obtain ⟨passes, opened⟩ := opened
  obtain ⟨layout, size⟩ := layout_of_checkHeader passes
  cases decrypted : cipher.decrypt (containerNonce encoded) (encoded.drop HEADER_LENGTH)
      (associatedData uid) with
  | none =>
      rw [decrypted] at opened
      cases opened
  | some message =>
      refine ⟨⟨containerNonce encoded, size⟩, message, ?_⟩
      have encrypted := authentic.inverse ⟨containerNonce encoded, size⟩ _ _ _ decrypted
      rw [encodeContainer, encrypted]
      exact congrArg Except.ok layout.symm

/-- A sealed text is not opened for another account. -/
theorem decodeContainer_other (authentic : cipher.Authenticates)
    (fits : plaintext.length + TAG_LENGTH ≤ MAX_CIPHERTEXT_LENGTH) {nonce : Nonce}
    (written : encodeContainer cipher nonce uid plaintext = .ok encoded) {other : UInt32}
    (foreign : other ≠ uid) :
    decodeContainer cipher other encoded = .error .authenticationFailed := by
  obtain ⟨ciphertext, encrypted, size, -⟩ :=
    cipher.decrypts nonce plaintext (associatedData uid) fits
  rw [encodeContainer, encrypted] at written
  have layout : MAGIC ++ toLeBytes 2 FORMAT_VERSION ++ nonce.val ++ ciphertext = encoded :=
    Except.ok.inj written
  have different : associatedData other ≠ associatedData uid :=
    fun same => foreign (associatedData_injective same)
  rw [← layout, decodeContainer_layout cipher (size ▸ fits),
    authentic.bound nonce plaintext ciphertext uid other encrypted different]
  rfl

end Containers

/-- What the codec promises about the containers of one account. -/
structure CodecContract (text : PayloadText) (cipher : TemplateCipher) (uid : UInt32) : Prop where
  /-- A valid payload is written within the size cap and reads back as itself. -/
  roundTrip : ∀ directory nonce payload, validateStoredPayload payload uid = .ok () →
    payload.generation ≤ U64_MAX → ∃ encoded,
      writePayload text cipher directory nonce uid payload =
        .ok (Function.update directory (pathFor uid) (some encoded)) ∧
      encoded.length ≤ HEADER_LENGTH + MAX_CIPHERTEXT_LENGTH ∧
      readPayload text cipher (Function.update directory (pathFor uid) (some encoded)) uid =
        .ok payload
  /-- The same bytes are rejected at the path of any other account. -/
  transplant : ∀ directory written nonce payload other moved,
    validateStoredPayload payload uid = .ok () → payload.generation ≤ U64_MAX →
    writePayload text cipher directory nonce uid payload = .ok written → other ≠ uid →
    moved (pathFor other) = written (pathFor uid) →
      readPayload text cipher moved other = .error .authenticationFailed
  /-- A bare record of the account reads back at generation zero. -/
  legacy : ∀ nonce record, record.validate = .ok () → record.uid = uid → ∃ encoded,
    encodeLegacyRecord text cipher nonce record = .ok encoded ∧
      ∀ directory : Directory, directory (pathFor uid) = some encoded →
        readPayload text cipher directory uid = .ok (.live 0 0 record)
  /-- The bytes of a bare record are never those of a tagged payload. -/
  apart : ∀ nonce nonce' record payload encoded, record.validate = .ok () → record.uid = uid →
    validateStoredPayload payload uid = .ok () → payload.generation ≤ U64_MAX →
    encodeLegacyRecord text cipher nonce record = .ok encoded →
      encodePayload text cipher nonce' uid payload ≠ .ok encoded
  /-- Bytes with another magic, another version or an impossible length are rejected. -/
  header : ∀ (directory : Directory) bytes, directory (pathFor uid) = some bytes →
    (bytes.take MAGIC.length ≠ MAGIC ∨ containerVersion bytes ≠ FORMAT_VERSION ∨
      bytes.length < HEADER_LENGTH ∨ HEADER_LENGTH + MAX_CIPHERTEXT_LENGTH < bytes.length) →
      ∃ error, readPayload text cipher directory uid = .error error
  /-- Bytes that sealing for the account does not produce are rejected. -/
  changed : ∀ (directory : Directory) bytes, directory (pathFor uid) = some bytes →
    ¬ Sealed cipher uid bytes → ∃ error, readPayload text cipher directory uid = .error error

section Contract

variable {text : PayloadText} {cipher : TemplateCipher} {uid : UInt32}

theorem readPayload_of_present {directory : Directory} {bytes : List UInt8}
    (present : directory (pathFor uid) = some bytes) :
    readPayload text cipher directory uid = decodePayload text cipher uid bytes := by
  rw [readPayload, present]
  rfl

/-- A container that is not opened is not read. -/
theorem readPayload_refused {directory : Directory} {bytes : List UInt8}
    (present : directory (pathFor uid) = some bytes)
    (closed : ∀ plaintext, decodeContainer cipher uid bytes ≠ .ok plaintext) :
    ∃ error, readPayload text cipher directory uid = .error error := by
  rw [readPayload_of_present present, decodePayload]
  cases opened : decodeContainer cipher uid bytes with
  | error error => exact ⟨error, rfl⟩
  | ok plaintext => exact absurd opened (closed plaintext)

/-- What the write of a valid payload leaves at the account's path. -/
theorem writePayload_eq_ok_iff {directory written : Directory} {nonce : Nonce}
    {payload : StoredPayload} :
    writePayload text cipher directory nonce uid payload = .ok written ↔
      validateStoredPayload payload uid = .ok () ∧ ∃ encoded,
        encodePayload text cipher nonce uid payload = .ok encoded ∧
          Function.update directory (pathFor uid) (some encoded) = written := by
  rw [writePayload, check_bind_eq_ok_iff, bind_eq_ok_iff]
  simp only [Except.ok.injEq]

/-- **The container codec.** For every account and key, what is written is read back for
that account alone, and only what was sealed for it is read at all. -/
theorem codec_contract (json : JsonText) (cipher : TemplateCipher)
    (authentic : cipher.Authenticates) (uid : UInt32) :
    CodecContract json.payloadText cipher uid where
  roundTrip := by
    intro directory nonce payload valid counted
    obtain ⟨encoded, stored, opened⟩ := decodePayload_encodePayload valid counted nonce
    have present : Function.update directory (pathFor uid) (some encoded) (pathFor uid) =
        some encoded := Function.update_self ..
    refine ⟨encoded, writePayload_eq_ok_iff.mpr ⟨valid, encoded, stored, rfl⟩, ?_, ?_⟩
    · obtain ⟨plaintext, decoded, -⟩ := bind_eq_ok_iff.mp opened
      rw [decodeContainer_eq, check_bind_eq_ok_iff] at decoded
      exact (checkHeader_eq_ok_iff.mp decoded.1).1.2
    · rw [readPayload_of_present present]
      exact opened
  transplant := by
    intro directory written nonce payload other moved valid counted stored foreign placed
    obtain ⟨-, encoded, sealed, rfl⟩ := writePayload_eq_ok_iff.mp stored
    rw [Function.update_self] at placed
    obtain ⟨plaintext, texted, size, -⟩ :=
      json.payloadText.payload_reads_back payload uid valid counted
    have fits := textBound_fits (StoredPayload.dimension_le valid) size
    rw [encodePayload, texted] at sealed
    rw [readPayload_of_present placed, decodePayload,
      decodeContainer_other authentic fits sealed foreign]
    rfl
  legacy := by
    intro nonce record valid owner
    subst owner
    obtain ⟨encoded, stored, opened⟩ := decodePayload_encodeLegacyRecord valid nonce
    refine ⟨encoded, stored, fun directory present => ?_⟩
    rw [readPayload_of_present present]
    exact opened
  apart := by
    intro nonce nonce' record payload encoded valid owner tagged counted bare sealed
    subst owner
    obtain ⟨_, again, opened⟩ := decodePayload_encodeLegacyRecord valid nonce
    rw [bare, Except.ok.injEq] at again
    subst again
    obtain ⟨_, again, reopened⟩ := decodePayload_encodePayload tagged counted nonce'
    rw [sealed, Except.ok.injEq] at again
    subst again
    rw [opened, Except.ok.injEq] at reopened
    subst reopened
    simp [validateStoredPayload, require, STORED_PAYLOAD_SCHEMA_VERSION] at tagged
  header := by
    intro directory bytes present broken
    apply readPayload_refused present
    intro plaintext opened
    rw [decodeContainer_eq, check_bind_eq_ok_iff, checkHeader_eq_ok_iff] at opened
    obtain ⟨⟨⟨long, short⟩, magic, version⟩, -⟩ := opened
    rcases broken with other | other | other | other
    · exact other magic
    · exact other version
    · exact absurd long (Nat.not_le_of_lt other)
    · exact absurd short (Nat.not_le_of_lt other)
  changed := by
    intro directory bytes present unsealed
    apply readPayload_refused present
    intro plaintext opened
    exact unsealed (sealed_of_decodeContainer authentic opened)

end Contract

/-! ## The plain cipher -/

theorem plainTag_ne {first second nonce : List UInt8} (sized : first.length = second.length)
    (short : first.length ≤ TAG_LENGTH) (different : first ≠ second) :
    plainTag nonce first ≠ plainTag nonce second := by
  intro same
  have firsts := congrArg (List.take first.length) same
  rw [plainTag, plainTag, List.take_take, List.take_take, Nat.min_eq_left short] at firsts
  rw [List.take_left' rfl, List.take_left' sized.symm] at firsts
  exact different firsts

theorem plainCipher_authenticates : plainCipher.Authenticates where
  inverse := by
    intro nonce ciphertext associated message opened
    simp only [plainCipher, Option.ite_none_right_eq_some, Option.some.injEq] at opened ⊢
    obtain ⟨tagged, rfl⟩ := opened
    rw [← tagged]
    exact List.take_append_drop TAG_LENGTH ciphertext
  bound := by
    intro nonce message ciphertext uid other sealed different
    have sized : ∀ uid, (associatedData uid).length = 10 := fun uid => rfl
    have tag : (plainTag nonce.val (associatedData uid)).length = TAG_LENGTH := by
      rw [plainTag, List.length_take, List.length_append, nonce.property, sized]
      rfl
    simp only [plainCipher, Option.some.injEq] at sealed
    subst sealed
    have distinct : plainTag nonce.val (associatedData uid) ≠
        plainTag nonce.val (associatedData other) :=
      plainTag_ne (by rw [sized, sized]) (by rw [sized]; decide) different.symm
    simp only [plainCipher]
    rw [List.take_left' tag, if_neg distinct]

/-- The contract of one account under the plain cipher. -/
theorem codec_contract_test : CodecContract compactJson.payloadText plainCipher 1000 :=
  codec_contract compactJson plainCipher plainCipher_authenticates 1000

/-- The nonce of a second write. -/
def Nonce.next : Nonce := ⟨List.replicate NONCE_LENGTH 8, rfl⟩

/-- An older container of the same account is a change of nonce and ciphertext that reads
as the older payload. -/
theorem codec_rollback :
    plainCipher.Authenticates ∧ ∃ older newer,
      encodePayload compactJson.payloadText plainCipher Nonce.test 1000
          (.live STORED_PAYLOAD_SCHEMA_VERSION 1 TemplateRecord.test) = .ok older ∧
      encodePayload compactJson.payloadText plainCipher Nonce.next 1000
          (.live STORED_PAYLOAD_SCHEMA_VERSION 2 TemplateRecord.test) = .ok newer ∧
      ¬ ∀ changed, changed ≠ newer → ∃ error,
        decodePayload compactJson.payloadText plainCipher 1000 changed = .error error := by
  have valid : ∀ generation, generation ≠ 0 → validateStoredPayload
      (.live STORED_PAYLOAD_SCHEMA_VERSION generation TemplateRecord.test) 1000 = .ok () := by
    intro generation positive
    simp only [validateStoredPayload, check_bind_eq_ok_iff, require_eq_ok_iff]
    exact ⟨⟨trivial, positive⟩, TemplateRecord.test_valid, rfl⟩
  obtain ⟨older, first, opened⟩ := @decodePayload_encodePayload compactJson.payloadText
    plainCipher _ _ (valid 1 (by decide)) (by decide) Nonce.test
  obtain ⟨newer, second, reopened⟩ := @decodePayload_encodePayload compactJson.payloadText
    plainCipher _ _ (valid 2 (by decide)) (by decide) Nonce.next
  refine ⟨plainCipher_authenticates, older, newer, first, second, fun fails => ?_⟩
  have different : older ≠ newer := by
    intro same
    rw [same, reopened] at opened
    cases opened
  obtain ⟨error, failed⟩ := fails older different
  rw [opened] at failed
  cases failed

end FaceAuth
