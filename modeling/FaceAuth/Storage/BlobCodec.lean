import FaceAuth.Foundation.Machine
import FaceAuth.Storage.SealedKey

/-!
# The codec of sealed blobs

The bytes of a blob file, read as the machine reads them. The reader accepts what
the encoder writes, and nothing else, and it never slices outside of the file.
-/

namespace FaceAuth

open Foundation Machine

/-- The two parts of a blob file that holds some bytes, with every index checked. -/
def readBlobFile (content : List UInt8) : Machine KeyError SealedParts := do
  let encoded := content.take (MAX_BLOB_LENGTH + 1)
  lift (require (BLOB_HEADER_LENGTH ≤ encoded.length ∧ encoded.length ≤ MAX_BLOB_LENGTH)
    .invalidBlob)
  let magic ← slice encoded 0 BLOB_MAGIC.length
  lift (require (magic = BLOB_MAGIC) .invalidBlob)
  let versionOffset := BLOB_MAGIC.length
  let low ← item encoded versionOffset
  let high ← item encoded (versionOffset + 1)
  lift (require (fromLeBytes [low, high] = BLOB_VERSION) .invalidBlob)
  let publicLengthOffset := versionOffset + 2
  let privateLengthOffset := publicLengthOffset + 4
  let publicBytes ← slice encoded publicLengthOffset (publicLengthOffset + 4)
  lift (require (publicBytes.length = 4) .invalidBlob)
  let publicLength := fromLeBytes publicBytes
  let privateBytes ← slice encoded privateLengthOffset (privateLengthOffset + 4)
  lift (require (privateBytes.length = 4) .invalidBlob)
  let privateLength := fromLeBytes privateBytes
  let publicStart := BLOB_HEADER_LENGTH
  let publicEnd := publicStart + publicLength
  lift (require (publicEnd ≤ U64_MAX) .invalidBlob)
  let privateEnd := publicEnd + privateLength
  lift (require (privateEnd ≤ U64_MAX) .invalidBlob)
  lift (require (privateEnd = encoded.length) .invalidBlob)
  let publicPart ← slice encoded publicStart publicEnd
  let privatePart ← slice encoded publicEnd privateEnd
  return ⟨publicPart, privatePart⟩

theorem fromLeBytes_lt (bytes : List UInt8) : fromLeBytes bytes < 256 ^ bytes.length := by
  induction bytes with
  | nil => exact Nat.one_pos
  | cons byte bytes ih =>
      have low := byte.toNat_lt
      rw [fromLeBytes, List.length_cons, Nat.pow_succ]
      omega

theorem readBlobFile_eq (content : List UInt8) :
    readBlobFile content = lift (readBlob content) := by
  by_cases bounds : BLOB_HEADER_LENGTH ≤ content.length ∧ content.length ≤ MAX_BLOB_LENGTH
  · have all : content.take (MAX_BLOB_LENGTH + 1) = content :=
      List.take_of_length_le (by omega)
    have header : BLOB_HEADER_LENGTH = 14 := rfl
    have magic : BLOB_MAGIC.length = 4 := rfl
    have limit : U64_MAX = 18_446_744_073_709_551_615 := rfl
    rw [header] at bounds
    have first : content[4]? = some content[4] := List.getElem?_eq_getElem (by omega)
    have second : content[5]? = some content[5] := List.getElem?_eq_getElem (by omega)
    have version : (content.drop 4).take 2 = [content[4], content[5]] := by
      rw [List.drop_eq_getElem_cons (by omega), List.take_succ_cons,
        List.drop_eq_getElem_cons (by omega), List.take_succ_cons, List.take_zero]
    have sizes : ∀ start ≤ 10, (fromLeBytes ((content.drop start).take 4)) < 4_294_967_296 ∧
        ((content.drop start).take 4).length = 4 := by
      intro start below
      have length : ((content.drop start).take 4).length = 4 := by
        rw [List.length_take, List.length_drop]
        omega
      have value := fromLeBytes_lt ((content.drop start).take 4)
      rw [length] at value
      exact ⟨value, length⟩
    unfold readBlobFile readBlob
    rw [all]
    simp only [lift_bind]
    refine bind_congr_ok fun _ _ => ?_
    rw [magic, slice_eq (by omega) (by omega), ok_bind, List.drop_zero]
    refine bind_congr_ok fun _ _ => ?_
    rw [item_eq first, ok_bind, item_eq second, ok_bind, version]
    refine bind_congr_ok fun _ _ => ?_
    rw [slice_eq (by omega) (by omega), ok_bind, List.drop_take]
    obtain ⟨small, length⟩ := sizes 6 (by decide)
    obtain ⟨small', length'⟩ := sizes 10 (by decide)
    simp only [Nat.reduceAdd, Nat.reduceSub]
    rw [lift_require_eq length, ok_bind, slice_eq (by omega) (by omega), ok_bind, List.drop_take]
    simp only [Nat.reduceSub]
    generalize fromLeBytes ((content.drop 6).take 4) = publicLength at small ⊢
    rw [lift_require_eq length', ok_bind]
    generalize fromLeBytes ((content.drop 10).take 4) = privateLength at small' ⊢
    rw [lift_require_eq (by omega), ok_bind, lift_require_eq (by omega), ok_bind]
    refine bind_congr_ok fun _ accepted => ?_
    rw [lift_eq_ok_iff, require_eq_ok_iff] at accepted
    rw [slice_eq (by omega) (by omega), ok_bind, slice_eq (by omega) (by omega), ok_bind,
      List.drop_take, List.drop_take, Nat.add_sub_cancel_left, Nat.add_sub_cancel_left]
    rfl
  · have refused : ¬ (BLOB_HEADER_LENGTH ≤ (content.take (MAX_BLOB_LENGTH + 1)).length ∧
        (content.take (MAX_BLOB_LENGTH + 1)).length ≤ MAX_BLOB_LENGTH) := by
      rw [List.length_take]
      omega
    unfold readBlobFile readBlob
    dsimp only
    rw [require_of_not bounds, require_of_not refused]
    rfl

/-- The bytes that read as two parts are the encoding of the parts. -/
theorem encodeBlob_of_readBlob {content : List UInt8} {parts : SealedParts}
    (accepted : readBlob content = .ok parts) : encodeBlob parts = .ok content := by
  simp only [readBlob, check_bind_eq_ok_iff, require_eq_ok_iff] at accepted
  obtain ⟨⟨long, short⟩, magic, version, total, same⟩ := accepted
  obtain rfl := Except.ok.inj same
  have header : BLOB_HEADER_LENGTH = 14 := rfl
  have magicLength : BLOB_MAGIC.length = 4 := rfl
  have ceiling : MAX_BLOB_LENGTH = 65_536 := rfl
  rw [header] at long total
  rw [magicLength] at magic version total
  have field : ∀ start count, start + count ≤ 14 →
      ((content.drop start).take count).length = count := by
    intro start count below
    rw [List.length_take, List.length_drop]
    omega
  have word : ∀ start count, start + count ≤ 14 →
      toLeBytes count (fromLeBytes ((content.drop start).take count)) =
        (content.drop start).take count := by
    intro start count below
    have spelled := toLeBytes_fromLeBytes ((content.drop start).take count)
    rw [field start count below] at spelled
    exact spelled
  have part : ∀ start count, content.drop start =
      (content.drop start).take count ++ content.drop (start + count) := by
    intro start count
    rw [← List.drop_drop, List.take_append_drop]
  have small := fromLeBytes_lt ((content.drop 6).take 4)
  have small' := fromLeBytes_lt ((content.drop 10).take 4)
  have publicBytes := word 6 4 (by decide)
  have privateBytes := word 10 4 (by decide)
  have versionBytes := word 4 2 (by decide)
  rw [field 6 4 (by decide)] at small
  rw [field 10 4 (by decide)] at small'
  rw [version] at versionBytes
  simp only [magicLength, header, Nat.reduceAdd] at total ⊢
  generalize fromLeBytes ((content.drop 6).take 4) = publicLength at *
  generalize fromLeBytes ((content.drop 10).take 4) = privateLength at *
  have publicPart : ((content.drop 14).take publicLength).length = publicLength := by
    rw [List.length_take, List.length_drop]
    omega
  have privatePart : ((content.drop (14 + publicLength)).take privateLength).length =
      privateLength := by
    rw [List.length_take, List.length_drop]
    omega
  have last : content.drop (14 + publicLength + privateLength) = [] :=
    List.drop_eq_nil_of_le (by omega)
  simp only [encodeBlob, check_bind_eq_ok_iff, require_eq_ok_iff, publicPart, privatePart]
  refine ⟨small, small', by omega, congrArg Except.ok ?_⟩
  have tail := part (14 + publicLength) privateLength
  rw [last, List.append_nil] at tail
  rw [publicBytes, privateBytes, versionBytes, ← magic]
  simp only [List.append_assoc]
  rw [← tail, ← part 14, ← part 10 4, ← part 6 4, ← part 4 2, List.take_append_drop]

theorem readBlob_eq_ok_iff {content : List UInt8} {parts : SealedParts} :
    readBlob content = .ok parts ↔ encodeBlob parts = .ok content :=
  ⟨encodeBlob_of_readBlob, readBlob_encodeBlob⟩

theorem readBlob_error {content : List UInt8} {error : KeyError}
    (refused : readBlob content = .error error) : error = .invalidBlob := by
  simp only [readBlob, require_bind_eq_error_iff] at refused
  rcases refused with ⟨-, same⟩ | ⟨-, ⟨-, same⟩ | ⟨-, ⟨-, same⟩ | ⟨-, ⟨-, same⟩ | ⟨-, later⟩⟩⟩⟩
  · exact same.symm
  · exact same.symm
  · exact same.symm
  · exact same.symm
  · cases later

/-- The length of a file that its header declares. -/
def declaredLength (content : List UInt8) : Nat :=
  BLOB_HEADER_LENGTH + fromLeBytes ((content.drop (BLOB_MAGIC.length + 2)).take 4) +
    fromLeBytes ((content.drop (BLOB_MAGIC.length + 6)).take 4)

/-- What the reader makes of bytes that no pair is encoded to. -/
def Refused (content : List UInt8) : Prop := readBlobFile content = .error (.error .invalidBlob)

section

variable {content other : List UInt8} {parts parts' : SealedParts}

theorem readBlobFile_eq_ok_iff :
    readBlobFile content = .ok parts ↔ encodeBlob parts = .ok content := by
  rw [readBlobFile_eq, lift_eq_ok_iff, readBlob_eq_ok_iff]

theorem refused_of_not (none : ∀ parts, encodeBlob parts ≠ .ok content) : Refused content := by
  unfold Refused
  rw [readBlobFile_eq]
  cases read : readBlob content with
  | ok parts => exact (none parts (encodeBlob_of_readBlob read)).elim
  | error error =>
      obtain rfl := readBlob_error read
      rfl

/-- What the bytes of an encoding say of themselves. -/
theorem encoded_header (encoded : encodeBlob parts = .ok content) :
    (BLOB_HEADER_LENGTH ≤ content.length ∧ content.length ≤ MAX_BLOB_LENGTH) ∧
      content.take BLOB_MAGIC.length = BLOB_MAGIC ∧
      fromLeBytes ((content.drop BLOB_MAGIC.length).take 2) = BLOB_VERSION ∧
      declaredLength content = content.length := by
  have accepted := readBlob_encodeBlob encoded
  simp only [readBlob, check_bind_eq_ok_iff, require_eq_ok_iff] at accepted
  exact ⟨accepted.1, accepted.2.1, accepted.2.2.1, accepted.2.2.2.1⟩

theorem declaredLength_eq (content : List UInt8) :
    declaredLength content = declaredLength (content.take BLOB_HEADER_LENGTH) := by
  have field : ∀ start ≤ 10,
      ((content.take 14).drop start).take 4 = (content.drop start).take 4 := by
    intro start below
    rw [List.drop_take, List.take_take, Nat.min_eq_left (by omega)]
  unfold declaredLength
  rw [show (content.take BLOB_HEADER_LENGTH) = content.take 14 from rfl]
  rw [field _ (by decide), field _ (by decide)]

/-- Two encodings with the same header are of the same length. -/
theorem length_eq_of_header (first : encodeBlob parts = .ok content)
    (second : encodeBlob parts' = .ok other)
    (same : content.take BLOB_HEADER_LENGTH = other.take BLOB_HEADER_LENGTH) :
    content.length = other.length := by
  rw [← (encoded_header first).2.2.2, ← (encoded_header second).2.2.2, declaredLength_eq, same,
    ← declaredLength_eq]

theorem refused_truncation (encoded : encodeBlob parts = .ok content) {count : Nat}
    (short : count < content.length) : Refused (content.take count) := by
  apply refused_of_not
  intro parts' accepted
  have long := (encoded_header accepted).1.1
  have length : (content.take count).length = count := List.length_take_of_le short.le
  have header : (content.take count).take BLOB_HEADER_LENGTH = content.take BLOB_HEADER_LENGTH := by
    rw [List.take_take, Nat.min_eq_left (by omega)]
  have same := length_eq_of_header accepted encoded header
  omega

theorem refused_trailing (encoded : encodeBlob parts = .ok content) {extra : List UInt8}
    (some : extra ≠ []) : Refused (content ++ extra) := by
  apply refused_of_not
  intro parts' accepted
  have long := (encoded_header encoded).1.1
  have header : (content ++ extra).take BLOB_HEADER_LENGTH = content.take BLOB_HEADER_LENGTH :=
    List.take_append_of_le_length long
  have same := length_eq_of_header accepted encoded header
  rw [List.length_append] at same
  exact some (List.eq_nil_of_length_eq_zero (by omega))

end

/-- The reader inverts the encoder, and refuses every file that is no encoding. -/
theorem blob_codec :
    (∀ parts : SealedParts, BLOB_HEADER_LENGTH + parts.publicPart.length +
      parts.privatePart.length ≤ MAX_BLOB_LENGTH →
      ∃ encoded, encodeBlob parts = .ok encoded ∧ readBlobFile encoded = .ok parts) ∧
    ∀ content : List UInt8,
      (∀ parts, readBlobFile content = .ok parts ↔ encodeBlob parts = .ok content) ∧
      (∀ parts parts', encodeBlob parts = .ok content → encodeBlob parts' = .ok content →
        parts = parts') ∧
      ((∀ parts, encodeBlob parts ≠ .ok content) → Refused content) ∧
      (∀ parts, encodeBlob parts = .ok content →
        (∀ count < content.length, Refused (content.take count)) ∧
        ∀ extra ≠ [], Refused (content ++ extra)) ∧
      (MAX_BLOB_LENGTH < content.length ∨ content.take BLOB_MAGIC.length ≠ BLOB_MAGIC ∨
        fromLeBytes ((content.drop BLOB_MAGIC.length).take 2) ≠ BLOB_VERSION ∨
        declaredLength content ≠ content.length → Refused content) := by
  refine ⟨fun parts fits => ?_, fun content => ⟨fun parts => readBlobFile_eq_ok_iff,
    fun parts parts' first second => ?_, refused_of_not, fun parts encoded =>
      ⟨fun count short => refused_truncation encoded short,
        fun extra some => refused_trailing encoded some⟩, fun wrong => ?_⟩⟩
  · have ceiling : MAX_BLOB_LENGTH = 65_536 := rfl
    have written : ∃ encoded, encodeBlob parts = .ok encoded := by
      simp only [encodeBlob, check_bind_eq_ok_iff, require_eq_ok_iff]
      exact ⟨_, by omega, by omega, fits, rfl⟩
    obtain ⟨encoded, done⟩ := written
    exact ⟨encoded, done, readBlobFile_eq_ok_iff.mpr done⟩
  · have read := readBlob_encodeBlob first
    rw [readBlob_encodeBlob second] at read
    exact (Except.ok.inj read).symm
  · apply refused_of_not
    intro parts encoded
    obtain ⟨⟨-, short⟩, magic, version, declared⟩ := encoded_header encoded
    rcases wrong with large | other | other | other
    · omega
    · exact other magic
    · exact other version
    · exact other declared

theorem blob_codec_small :
    ∃ encoded, encodeBlob ⟨[1, 2, 3], [4, 5, 6, 7]⟩ = .ok encoded ∧
      readBlobFile encoded = .ok ⟨[1, 2, 3], [4, 5, 6, 7]⟩ :=
  blob_codec.1 _ (by decide)

end FaceAuth
