import FaceAuth.Core.Digest
import FaceAuth.Core.Io
import FaceAuth.Core.Policy

/-!
# Template records

The one kind of payload that is persisted for an account, and the failures of
the template store.
-/

namespace FaceAuth

open Foundation

/-- The version of a record's fields. -/
def TEMPLATE_RECORD_SCHEMA_VERSION : Nat := 2

/-- The version of the container's format. -/
def FORMAT_VERSION : Nat := TEMPLATE_RECORD_SCHEMA_VERSION

/-- The most numbers in an embedding. -/
def MAX_EMBEDDING_DIMENSION : Nat := 4096

/-- Key provider failure. -/
inductive KeyError where
  | invalidLength (expected actual : Nat)
  | invalidPath (path : String)
  | invalidBlob
  | tpm (detail : String)
  | unsafePermissions (path : String) (mode : Nat)
  | unsafeOwner (path : String) (expectedUid actualUid : UInt32)
  | unsafePathType (path : String)
  | symlink (path : String)
  | random (detail : String)
  | io (error : IoError)
deriving DecidableEq, Repr

/-- Storage or authenticated-encryption failure. -/
inductive StorageError where
  | key (error : KeyError)
  | invalidRecord (detail : String)
  | incompatibleTemplate
  | staleGeneration (expected actual : Nat)
  | templateNotPresent (lastGeneration : Option Nat)
  | generationExhausted
  | serialization (detail : String)
  | authenticationFailed
  | symlink (path : String)
  | unsafePermissions (path : String) (mode : Nat)
  | unsafeOwner (path : String) (expectedUid actualUid : UInt32)
  | unsafePathType (path : String)
  | random (detail : String)
  | io (error : IoError)
deriving DecidableEq, Repr

/-- One encrypted template payload. Raw camera frames are not represented here. -/
structure TemplateRecord where
  schemaVersion : Nat
  uid : UInt32
  modelCompatibilitySha256 : List UInt8
  embedding : List Float32
deriving DecidableEq

namespace TemplateRecord

/-- Validate record bounds and finite numeric data before encryption. -/
def validate (record : TemplateRecord) : Except StorageError Unit := do
  require (record.schemaVersion = FORMAT_VERSION ∧ ValidDigest record.modelCompatibilitySha256 ∧
    record.embedding ≠ [] ∧ record.embedding.length ≤ MAX_EMBEDDING_DIMENSION ∧
    record.embedding.all Float32.isFinite = true)
    (.invalidRecord "template bounds or digest are invalid")
  require (UnitNorm 1.0e-3 record.embedding)
    (.invalidRecord "template embedding is not normalized")

/-- A valid record has the current version and a digest. -/
theorem schema_of_valid {record : TemplateRecord} (valid : record.validate = .ok ()) :
    record.schemaVersion = FORMAT_VERSION ∧ ValidDigest record.modelCompatibilitySha256 := by
  simp only [validate, check_bind_eq_ok_iff, require_eq_ok_iff] at valid
  exact ⟨valid.1.1, valid.1.2.1⟩

/-- The embedding of a valid record is bounded. -/
theorem dimension_le {record : TemplateRecord} (valid : record.validate = .ok ()) :
    record.embedding.length ≤ MAX_EMBEDDING_DIMENSION := by
  simp only [validate, check_bind_eq_ok_iff, require_eq_ok_iff] at valid
  exact valid.1.2.2.2.1

/-- Require this template to match an active embedding manifest and dimension. -/
def requireCompatibility (record : TemplateRecord) (compatibilitySha256 : List UInt8)
    (dimension : Nat) : Except StorageError Unit := do
  record.validate
  require (record.modelCompatibilitySha256 = compatibilitySha256 ∧
    record.embedding.length = dimension) .incompatibleTemplate

theorem requireCompatibility_eq_ok_iff {record : TemplateRecord} {digest : List UInt8}
    {dimension : Nat} :
    record.requireCompatibility digest dimension = .ok () ↔
      record.validate = .ok () ∧ record.modelCompatibilitySha256 = digest ∧
        record.embedding.length = dimension := by
  simp only [requireCompatibility, check_bind_eq_ok_iff, require_eq_ok_iff]

/-- A record with the smallest embedding. -/
def test : TemplateRecord := ⟨FORMAT_VERSION, 1000, List.replicate 64 97, [1.0]⟩

theorem test_valid : test.validate = .ok () := by
  decide +kernel

end TemplateRecord

end FaceAuth
