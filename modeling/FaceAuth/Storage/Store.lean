import Mathlib.Logic.Function.Basic
import FaceAuth.Storage.Container

/-!
# The encrypted template store

One directory with a container for each account. Every mutation reads the
current payload, decides on the next generation and replaces the container as
its last action. Here the operating system carries out every step that it is asked
for.
-/

namespace FaceAuth

open Foundation

/-- The containers of the template directory by file name. -/
abbrev Directory := String → Option (List UInt8)

/-- The name of the container of an account. -/
def pathFor (uid : UInt32) : String := toString uid.toNat ++ ".template"

/-- The failure of opening a file that does not exist. -/
def FILE_NOT_FOUND : IoError := ⟨.notFound, "No such file or directory (os error 2)"⟩

/-- The error for an account without a template. -/
def templateNotFound (uid : UInt32) : StorageError :=
  .io ⟨.notFound, "template for UID " ++ toString uid.toNat ++ " is deleted or absent"⟩

/-- The generation after another, unless there is none. -/
def nextGeneration (current : Nat) : Except StorageError Nat :=
  (checkedAdd U64_MAX current 1).elim (.error .generationExhausted) .ok

/-- Authenticated template snapshot together with its storage generation. -/
structure VersionedTemplateRecord where
  generation : Nat
  record : TemplateRecord
deriving DecidableEq

section Operations

variable (text : PayloadText) (cipher : TemplateCipher) (directory : Directory)

/-- The payload of an account. -/
def readPayload (uid : UInt32) : Except StorageError StoredPayload := do
  let encoded ← (directory (pathFor uid)).elim (.error (.io FILE_NOT_FOUND)) .ok
  decodePayload text cipher uid encoded

/-- The payload of an account, or none when it has no container. -/
def readOptionalPayload (uid : UInt32) : Except StorageError (Option StoredPayload) :=
  match readPayload text cipher directory uid with
  | .ok payload => .ok (some payload)
  | .error (.io error) => if error.kind = .notFound then .ok none else .error (.io error)
  | .error error => .error error

/-- The directory with the container of a payload in it. -/
def writePayload (nonce : Nonce) (uid : UInt32) (payload : StoredPayload) :
    Except StorageError Directory := do
  validateStoredPayload payload uid
  let encoded ← encodePayload text cipher nonce uid payload
  .ok (Function.update directory (pathFor uid) (some encoded))

/-- The generation of a live payload. -/
def liveGeneration : Option StoredPayload → Except StorageError Nat
  | some (.live _ generation _) => .ok generation
  | some (.deleted _ generation _) => .error (.templateNotPresent (some generation))
  | none => .error (.templateNotPresent none)

/-- Save a record unconditionally and return its new authenticated generation. -/
def saveWithGeneration (nonce : Nonce) (record : TemplateRecord) :
    Except StorageError (Nat × Directory) := do
  record.validate
  let current ← readOptionalPayload text cipher directory record.uid
  let generation ← nextGeneration (current.elim 0 StoredPayload.generation)
  let written ← writePayload text cipher directory nonce record.uid
    (.live STORED_PAYLOAD_SCHEMA_VERSION generation record)
  .ok (generation, written)

/-- Save a record using authenticated encryption and atomic replacement. -/
def save (nonce : Nonce) (record : TemplateRecord) : Except StorageError Directory :=
  (saveWithGeneration text cipher directory nonce record).map Prod.snd

/-- Replace an existing live template only if its generation still matches. -/
def replaceIfGeneration (nonce : Nonce) (expectedGeneration : Nat) (record : TemplateRecord) :
    Except StorageError (Nat × Directory) := do
  record.validate
  let current ← readOptionalPayload text cipher directory record.uid
  let actualGeneration ← liveGeneration current
  require (actualGeneration = expectedGeneration)
    (.staleGeneration expectedGeneration actualGeneration)
  let generation ← nextGeneration actualGeneration
  let written ← writePayload text cipher directory nonce record.uid
    (.live STORED_PAYLOAD_SCHEMA_VERSION generation record)
  .ok (generation, written)

/-- Load a template together with the generation used for compare-and-swap. -/
def loadWithGeneration (uid : UInt32) : Except StorageError VersionedTemplateRecord := do
  match ← readPayload text cipher directory uid with
  | .live _ generation record => .ok ⟨generation, record⟩
  | .deleted _ _ _ => .error (templateNotFound uid)

/-- Load and authenticate a record for one UID. -/
def load (uid : UInt32) : Except StorageError TemplateRecord :=
  (loadWithGeneration text cipher directory uid).map VersionedTemplateRecord.record

/-- Replace a live template by a tombstone that keeps counting generations. -/
def deleteInner (nonce : Nonce) (uid : UInt32) (expectedGeneration : Option Nat) :
    Except StorageError (Nat × Directory) := do
  let current ← readOptionalPayload text cipher directory uid
  let actualGeneration ← liveGeneration current
  require (expectedGeneration.all (· = actualGeneration) = true)
    (.staleGeneration (expectedGeneration.getD actualGeneration) actualGeneration)
  let generation ← nextGeneration actualGeneration
  let written ← writePayload text cipher directory nonce uid
    (.deleted STORED_PAYLOAD_SCHEMA_VERSION generation uid)
  .ok (generation, written)

/-- Delete a live record of any generation. -/
def delete (nonce : Nonce) (uid : UInt32) : Except StorageError (Nat × Directory) :=
  deleteInner text cipher directory nonce uid none

/-- Delete a live record whose generation is the expected one. -/
def deleteIfGeneration (nonce : Nonce) (uid : UInt32) (expectedGeneration : Nat) :
    Except StorageError (Nat × Directory) :=
  deleteInner text cipher directory nonce uid (some expectedGeneration)

/-- Whether a UID has a fully authenticated, structurally valid template. -/
def hasAuthenticatedTemplate (uid : UInt32) : Except StorageError Bool :=
  match load text cipher directory uid with
  | .ok _ => .ok true
  | .error (.io error) => if error.kind = .notFound then .ok false else .error (.io error)
  | .error error => .error error

end Operations

/-! ## Paths and payloads -/

/-- A file name spells out its account in decimal. -/
theorem pathFor_injective : Function.Injective pathFor := by
  intro first second same
  have digits : toString first.toNat = toString second.toNat := by
    simpa [pathFor] using same
  have characters := congrArg String.toList digits
  rw [Nat.toString_eq_repr, Nat.toString_eq_repr, Nat.toList_repr, Nat.toList_repr] at characters
  have number := congrArg (Nat.ofDigitChars 10 · 0) characters
  rw [Nat.ofDigitChars_ten_toDigits, Nat.ofDigitChars_ten_toDigits] at number
  exact UInt32.toNat_inj.mp number

section Specs

variable {text : PayloadText} {cipher : TemplateCipher} {directory written : Directory}
  {uid : UInt32}

/-- A read depends on nothing but the container of the account. -/
theorem readPayload_congr {other : Directory}
    (same : other (pathFor uid) = directory (pathFor uid)) :
    readPayload text cipher other uid = readPayload text cipher directory uid := by
  rw [readPayload, readPayload, same]

/-- A valid payload is written to the container of its account, and to no other. -/
theorem writePayload_spec {payload : StoredPayload}
    (valid : validateStoredPayload payload uid = .ok ()) (counted : payload.generation ≤ U64_MAX)
    (nonce : Nonce) :
    ∃ written, writePayload text cipher directory nonce uid payload = .ok written ∧
      readPayload text cipher written uid = .ok payload ∧
      ∀ other, other ≠ uid → readPayload text cipher written other =
        readPayload text cipher directory other := by
  obtain ⟨encoded, stored, reads⟩ := decodePayload_encodePayload valid counted nonce
  refine ⟨_, check_bind_eq_ok_iff.mpr ⟨valid, bind_eq_ok_iff.mpr ⟨encoded, stored, rfl⟩⟩, ?_, ?_⟩
  · rw [readPayload, Function.update_self]
    exact reads
  · intro other foreign
    apply readPayload_congr
    exact Function.update_of_ne (fun same => foreign (pathFor_injective same)) _ _

end Specs

end FaceAuth
