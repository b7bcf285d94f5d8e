import FaceAuth.Storage.Container

/-!
# The JSON values of template files

The fields of a stored payload and of a bare record, as the derived encoders
write them and the derived decoders accept them. The writer and the parser of
the text itself are parameters.
-/

namespace FaceAuth

open Foundation

/-- The JSON values that template files are made of. -/
inductive Json where
  | natural (value : Nat)
  | single (value : Float32)
  | text (bytes : List UInt8)
  | array (items : List Json)
  | object (members : List (String × Json))

namespace Json

mutual

/-- Bytes that a value takes at most without blanks and without escapes. A single takes
a sign, nine digits, a point and an exponent. -/
def size : Json → Nat
  | .natural value => (Nat.toDigits 10 value).length
  | .single _ => 16
  | .text bytes => bytes.length + 2
  | .array items => sizeItems items + 2
  | .object members => sizeMembers members + 2

/-- Every item comes with a comma. -/
def sizeItems : List Json → Nat
  | [] => 0
  | item :: items => size item + 1 + sizeItems items

/-- Every member comes with its quoted name, a colon and a comma. -/
def sizeMembers : List (String × Json) → Nat
  | [] => 0
  | member :: members => member.1.utf8ByteSize + 3 + size member.2 + 1 + sizeMembers members

end

/-- The members of an object that has no unknown and no repeated field. An array may stand for
the object, with all of its fields in their order. -/
def fields (names : List String) : Json → Option (List (String × Json))
  | .object members =>
      if (members.map Prod.fst).Nodup ∧ ∀ name ∈ members.map Prod.fst, name ∈ names then
        some members
      else none
  | .array items => if items.length = names.length then some (names.zip items) else none
  | _ => none

/-- The value of a member. -/
def field (members : List (String × Json)) (name : String) : Option Json :=
  (members.find? fun member => member.1 = name).map Prod.snd

/-- An unsigned number of a bounded width. -/
def toNatural (maximum : Nat) : Json → Option Nat
  | .natural value => if value ≤ maximum then some value else none
  | _ => none

/-- The bytes of a text. -/
def toBytes : Json → Option (List UInt8)
  | .text bytes => some bytes
  | _ => none

/-- A single-precision number, also where it is written without a fraction. -/
def toSingle : Json → Option Float32
  | .single value => some value
  | .natural value => some (Float32.ofNat value)
  | _ => none

/-- An array of single-precision numbers. -/
def toSingles : Json → Option (List Float32)
  | .array items => items.mapM toSingle
  | _ => none

end Json

/-- The bytes of a name that JSON leaves as it is. -/
def ascii (name : String) : List UInt8 := name.toList.map Char.toUInt8

/-- The largest number of 32 bits. -/
def U32_MAX : Nat := 4_294_967_295

namespace TemplateRecord

/-- The fields of a record in their order. -/
def FIELDS : List String :=
  ["schema_version", "uid", "model_compatibility_sha256", "embedding"]

/-- The object that a record is written as. -/
def toJson (record : TemplateRecord) : Json :=
  .object [("schema_version", .natural record.schemaVersion), ("uid", .natural record.uid.toNat),
    ("model_compatibility_sha256", .text record.modelCompatibilitySha256),
    ("embedding", .array (record.embedding.map .single))]

/-- The record that a value stands for. -/
def fromJson (value : Json) : Option TemplateRecord := do
  let members ← value.fields FIELDS
  let schemaVersion ← (Json.field members "schema_version").bind (·.toNatural U16_MAX)
  let uid ← (Json.field members "uid").bind (·.toNatural U32_MAX)
  let sha256 ← (Json.field members "model_compatibility_sha256").bind Json.toBytes
  let embedding ← (Json.field members "embedding").bind Json.toSingles
  some ⟨schemaVersion, UInt32.ofNat uid, sha256, embedding⟩

end TemplateRecord

namespace StoredPayload

/-- The tag tells the two kinds of payloads apart, ahead of their fields. -/
def toJson : StoredPayload → Json
  | .live schemaVersion generation record =>
      .object [("state", .text (ascii "live")), ("schema_version", .natural schemaVersion),
        ("generation", .natural generation), ("record", record.toJson)]
  | .deleted schemaVersion generation uid =>
      .object [("state", .text (ascii "deleted")), ("schema_version", .natural schemaVersion),
        ("generation", .natural generation), ("uid", .natural uid.toNat)]

/-- The fields of a live payload with its tag. -/
def LIVE_FIELDS : List String := ["state", "schema_version", "generation", "record"]

/-- The fields of a tombstone with its tag. -/
def DELETED_FIELDS : List String := ["state", "schema_version", "generation", "uid"]

/-- The tag of a payload, which has to be there. In an array it is the first item. -/
def tag : Json → Option (List UInt8)
  | .object members => (Json.field members "state").bind Json.toBytes
  | .array (state :: _) => state.toBytes
  | _ => none

/-- The payload that a value stands for. -/
def fromJson (value : Json) : Option StoredPayload := do
  let state ← tag value
  if state = ascii "live" then do
    let members ← value.fields LIVE_FIELDS
    let schemaVersion ← (Json.field members "schema_version").bind (·.toNatural U16_MAX)
    let generation ← (Json.field members "generation").bind (·.toNatural U64_MAX)
    let record ← (Json.field members "record").bind TemplateRecord.fromJson
    some (.live schemaVersion generation record)
  else if state = ascii "deleted" then do
    let members ← value.fields DELETED_FIELDS
    let schemaVersion ← (Json.field members "schema_version").bind (·.toNatural U16_MAX)
    let generation ← (Json.field members "generation").bind (·.toNatural U64_MAX)
    let uid ← (Json.field members "uid").bind (·.toNatural U32_MAX)
    some (.deleted schemaVersion generation (UInt32.ofNat uid))
  else none

end StoredPayload

/-! ## Values read back -/

theorem toSingles_map (values : List Float32) :
    Json.toSingles (.array (values.map .single)) = some values := by
  rw [Json.toSingles]
  induction values with
  | nil => rfl
  | cons value values ih => simp [Json.toSingle, ih]

theorem toNatural_natural {value maximum : Nat} (fits : value ≤ maximum) :
    (Json.natural value).toNatural maximum = some value :=
  if_pos fits

theorem TemplateRecord.fromJson_toJson {record : TemplateRecord}
    (version : record.schemaVersion ≤ U16_MAX) :
    TemplateRecord.fromJson record.toJson = some record := by
  have account : record.uid.toNat ≤ U32_MAX := Nat.le_of_lt_succ record.uid.toNat_lt
  simp [fromJson, toJson, Json.fields, Json.field, FIELDS, toNatural_natural version,
    toNatural_natural account, Json.toBytes, toSingles_map]

theorem TemplateRecord.schemaVersion_le {record : TemplateRecord}
    (valid : record.validate = .ok ()) : record.schemaVersion ≤ U16_MAX := by
  have version : record.schemaVersion = FORMAT_VERSION := (TemplateRecord.schema_of_valid valid).1
  rw [version]
  decide

theorem StoredPayload.fromJson_toJson {payload : StoredPayload} {uid : UInt32}
    (valid : validateStoredPayload payload uid = .ok ())
    (counted : payload.generation ≤ U64_MAX) :
    StoredPayload.fromJson payload.toJson = some payload := by
  cases payload with
  | live schemaVersion generation record =>
      simp only [validateStoredPayload, check_bind_eq_ok_iff, require_eq_ok_iff] at valid
      obtain ⟨⟨rfl, -⟩, sound, -⟩ := valid
      have version := TemplateRecord.schemaVersion_le sound
      have schema : STORED_PAYLOAD_SCHEMA_VERSION ≤ U16_MAX := by decide
      change generation ≤ U64_MAX at counted
      simp [fromJson, toJson, tag, Json.fields, Json.field, LIVE_FIELDS, Json.toBytes,
        toNatural_natural schema, toNatural_natural counted,
        TemplateRecord.fromJson_toJson version]
  | deleted schemaVersion generation owner =>
      simp only [validateStoredPayload, require_eq_ok_iff] at valid
      obtain ⟨rfl, -, rfl⟩ := valid
      have other : ascii "deleted" ≠ ascii "live" := by decide
      have schema : STORED_PAYLOAD_SCHEMA_VERSION ≤ U16_MAX := by decide
      have account : owner.toNat ≤ U32_MAX := Nat.le_of_lt_succ owner.toNat_lt
      change generation ≤ U64_MAX at counted
      simp [fromJson, toJson, tag, Json.fields, Json.field, DELETED_FIELDS, Json.toBytes, other,
        toNatural_natural schema, toNatural_natural counted, toNatural_natural account]

/-- The value of a bare record has no tag, and is no stored payload. -/
theorem StoredPayload.fromJson_record (record : TemplateRecord) :
    StoredPayload.fromJson record.toJson = none := by
  simp [fromJson, tag, TemplateRecord.toJson, Json.field]

/-! ## Size of the text -/

/-- So many numbers take this room. -/
theorem sizeItems_singles (values : List Float32) :
    Json.sizeItems (values.map .single) = 17 * values.length := by
  induction values with
  | nil => rfl
  | cons value values ih =>
      rw [List.map_cons, Json.sizeItems, ih, Json.size, List.length_cons]
      omega

/-- A number takes no more room than the digits it may have. -/
theorem size_natural_le {value digits : Nat} (positive : 0 < digits) (fits : value < 10 ^ digits) :
    (Json.natural value).size ≤ digits := by
  rw [Json.size]
  exact (Nat.length_toDigits_le_iff (by decide) positive).mpr fits

theorem TemplateRecord.size_toJson_le {record : TemplateRecord} (valid : record.validate = .ok ()) :
    record.toJson.size ≤ 150 + 17 * record.embedding.length := by
  obtain ⟨version, digest⟩ := TemplateRecord.schema_of_valid valid
  have schema : (Json.natural record.schemaVersion).size ≤ 1 := by
    rw [version]
    decide
  have account : (Json.natural record.uid.toNat).size ≤ 10 := by
    apply size_natural_le (by decide)
    have bounded := record.uid.toNat_lt
    omega
  have sha : record.modelCompatibilitySha256.length = 64 := digest.1
  simp only [toJson, Json.size, Json.sizeMembers, sizeItems_singles, sha] at schema account ⊢
  have names : "schema_version".utf8ByteSize + "uid".utf8ByteSize +
      "model_compatibility_sha256".utf8ByteSize + "embedding".utf8ByteSize = 52 := by decide
  omega

theorem StoredPayload.size_toJson_le {payload : StoredPayload} {uid : UInt32}
    (valid : validateStoredPayload payload uid = .ok ())
    (counted : payload.generation ≤ U64_MAX) :
    payload.toJson.size ≤ textBound payload.dimension := by
  have schema : (Json.natural STORED_PAYLOAD_SCHEMA_VERSION).size ≤ 1 := by decide
  have names : "state".utf8ByteSize + "schema_version".utf8ByteSize +
      "generation".utf8ByteSize = 29 := by decide
  have number : (Json.natural payload.generation).size ≤ 20 := by
    apply size_natural_le (by decide)
    exact Nat.lt_of_le_of_lt counted (by decide)
  cases payload with
  | live schemaVersion generation record =>
      simp only [validateStoredPayload, check_bind_eq_ok_iff, require_eq_ok_iff] at valid
      obtain ⟨⟨rfl, -⟩, sound, -⟩ := valid
      have body := TemplateRecord.size_toJson_le sound
      have state : (ascii "live").length = 4 := by decide
      have last : "record".utf8ByteSize = 6 := by decide
      change (Json.natural generation).size ≤ 20 at number
      simp only [toJson, Json.size, Json.sizeMembers, state, dimension, textBound]
        at schema number ⊢
      omega
  | deleted schemaVersion generation owner =>
      simp only [validateStoredPayload, require_eq_ok_iff] at valid
      obtain ⟨rfl, -, rfl⟩ := valid
      have account : (Json.natural owner.toNat).size ≤ 10 := by
        apply size_natural_le (by decide)
        have bounded := owner.toNat_lt
        omega
      have state : (ascii "deleted").length = 7 := by decide
      have last : "uid".utf8ByteSize = 3 := by decide
      change (Json.natural generation).size ≤ 20 at number
      simp only [toJson, Json.size, Json.sizeMembers, state, dimension, textBound]
        at schema number account ⊢
      omega

/-! ## Text -/

/-- The writer and the parser of JSON text. The text of a value is no longer than its
parts, and parses as the value. -/
structure JsonText where
  write : Json → List UInt8
  parse : List UInt8 → Except String Json
  length_payload : ∀ payload uid, validateStoredPayload payload uid = .ok () →
    payload.generation ≤ U64_MAX → (write payload.toJson).length ≤ payload.toJson.size
  parse_payload : ∀ payload uid, validateStoredPayload payload uid = .ok () →
    payload.generation ≤ U64_MAX → parse (write payload.toJson) = .ok payload.toJson
  length_record : ∀ record : TemplateRecord, record.validate = .ok () →
    (write record.toJson).length ≤ record.toJson.size
  parse_record : ∀ record : TemplateRecord, record.validate = .ok () →
    parse (write record.toJson) = .ok record.toJson

/-- The derived encoders and decoders over a text format. -/
def JsonText.payloadText (json : JsonText) : PayloadText where
  toVec := fun payload => .ok (json.write payload.toJson)
  recordToVec := fun record => .ok (json.write record.toJson)
  payloadFromSlice := fun text => (json.parse text).toOption.bind StoredPayload.fromJson
  recordFromSlice := fun text => do
    let value ← json.parse text
    (TemplateRecord.fromJson value).elim (.error "invalid template record") .ok
  payload_reads_back := by
    intro payload uid valid counted
    refine ⟨_, rfl, ?_, ?_⟩
    · apply Nat.le_trans (json.length_payload payload uid valid counted)
      exact StoredPayload.size_toJson_le valid counted
    · rw [json.parse_payload payload uid valid counted]
      exact StoredPayload.fromJson_toJson valid counted
  record_reads_back := by
    intro record valid
    refine ⟨_, rfl, ?_, ?_, ?_⟩
    · have bound := TemplateRecord.size_toJson_le valid
      apply Nat.le_trans (json.length_record record valid)
      rw [textBound]
      omega
    · rw [json.parse_record record valid]
      exact StoredPayload.fromJson_record record
    · have version := TemplateRecord.schemaVersion_le valid
      rw [json.parse_record record valid, bind_eq_ok_iff]
      exact ⟨_, rfl, by rw [TemplateRecord.fromJson_toJson version]; rfl⟩

/-! ## A compact text

The compact layout of payloads as a text of their values. -/

/-- The compact layout of a payload or of a bare record, behind its tag. -/
def compactWrite (value : Json) : List UInt8 :=
  match StoredPayload.fromJson value with
  | some payload => payloadToBytes payload
  | none =>
      match TemplateRecord.fromJson value with
      | some record => 0 :: recordToBytes record
      | none => []

/-- Parse a payload, or the record in it. -/
def compactParse (bytes : List UInt8) : Except String Json :=
  match payloadFromBytes bytes with
  | some payload => .ok payload.toJson
  | none => (recordFromBytes bytes.tail).elim (.error "unexpected end of input")
      fun record => .ok record.toJson

theorem TemplateRecord.le_size_toJson {record : TemplateRecord} (valid : record.validate = .ok ()) :
    90 + 4 * record.embedding.length ≤ record.toJson.size := by
  have sha : record.modelCompatibilitySha256.length = 64 :=
    (TemplateRecord.schema_of_valid valid).2.1
  have name : "model_compatibility_sha256".utf8ByteSize = 26 := by decide
  simp only [toJson, Json.size, Json.sizeMembers, sizeItems_singles, sha, name]
  omega

theorem compactWrite_payload {payload : StoredPayload} {uid : UInt32}
    (valid : validateStoredPayload payload uid = .ok ())
    (counted : payload.generation ≤ U64_MAX) :
    compactWrite payload.toJson = payloadToBytes payload := by
  rw [compactWrite, StoredPayload.fromJson_toJson valid counted]

theorem compactWrite_record {record : TemplateRecord} (valid : record.validate = .ok ()) :
    compactWrite record.toJson = 0 :: recordToBytes record := by
  rw [compactWrite, StoredPayload.fromJson_record]
  dsimp only
  rw [TemplateRecord.fromJson_toJson (TemplateRecord.schemaVersion_le valid)]

/-- The JSON texts of compact bytes. -/
def compactJson : JsonText where
  write := compactWrite
  parse := compactParse
  length_payload := by
    intro payload uid valid counted
    rw [compactWrite_payload valid counted]
    cases payload with
    | live schemaVersion generation record =>
        simp only [validateStoredPayload, check_bind_eq_ok_iff] at valid
        have body := TemplateRecord.le_size_toJson valid.2.1
        rw [payloadToBytes, List.length_cons, List.length_append, length_toLeBytes,
          length_recordToBytes valid.2.1]
        simp only [StoredPayload.toJson, Json.size, Json.sizeMembers]
        omega
    | deleted schemaVersion generation owner =>
        have name : "schema_version".utf8ByteSize = 14 := by decide
        rw [payloadToBytes, List.length_cons, List.length_append, length_toLeBytes,
          length_toLeBytes]
        simp only [StoredPayload.toJson, Json.size, Json.sizeMembers, name]
        omega
  parse_payload := by
    intro payload uid valid counted
    rw [compactWrite_payload valid counted, compactParse, payloadFromBytes_toBytes valid counted]
  length_record := by
    intro record valid
    have body := TemplateRecord.le_size_toJson valid
    rw [compactWrite_record valid, List.length_cons, length_recordToBytes valid]
    omega
  parse_record := by
    intro record valid
    have untagged : payloadFromBytes (0 :: recordToBytes record) = none := rfl
    rw [compactWrite_record valid, compactParse, untagged, List.tail_cons,
      recordFromBytes_toBytes valid]
    rfl

end FaceAuth
