import FaceAuth.Foundation.Bytes
import FaceAuth.Storage.Codec
import FaceAuth.Storage.KeyFile

/-!
# The sealed key

The machine key under the protection of a TPM. Any number of calls look for the
sealed blob at one path, and each that finds none creates a key of its own, seals
it and moves its blob to that path.
-/

namespace FaceAuth

open Foundation

/-- The bytes of `FATK`. -/
def BLOB_MAGIC : List UInt8 := [70, 65, 84, 75]

/-- The version of the blob's format. -/
def BLOB_VERSION : Nat := 1

/-- The bytes before the two parts of a blob. -/
def BLOB_HEADER_LENGTH : Nat := BLOB_MAGIC.length + 2 + 4 + 4

/-- The longest blob that is written or read. -/
def MAX_BLOB_LENGTH : Nat := 64 * 1024

/-- The sealed object of a TPM: its public and its private part. -/
structure SealedParts where
  publicPart : List UInt8
  privatePart : List UInt8
deriving DecidableEq

/-- The bytes of a blob file with these two parts. -/
def encodeBlob (parts : SealedParts) : Except KeyError (List UInt8) := do
  require (parts.publicPart.length < 4_294_967_296) .invalidBlob
  require (parts.privatePart.length < 4_294_967_296) .invalidBlob
  require (BLOB_HEADER_LENGTH + parts.publicPart.length + parts.privatePart.length ≤
    MAX_BLOB_LENGTH) .invalidBlob
  return BLOB_MAGIC ++ toLeBytes 2 BLOB_VERSION ++ toLeBytes 4 parts.publicPart.length ++
    toLeBytes 4 parts.privatePart.length ++ parts.publicPart ++ parts.privatePart

/-- The two parts of the bytes of a blob file. -/
def readBlob (encoded : List UInt8) : Except KeyError SealedParts := do
  require (BLOB_HEADER_LENGTH ≤ encoded.length ∧ encoded.length ≤ MAX_BLOB_LENGTH) .invalidBlob
  require (encoded.take BLOB_MAGIC.length = BLOB_MAGIC) .invalidBlob
  require (fromLeBytes ((encoded.drop BLOB_MAGIC.length).take 2) = BLOB_VERSION) .invalidBlob
  let publicLength := fromLeBytes ((encoded.drop (BLOB_MAGIC.length + 2)).take 4)
  let privateLength := fromLeBytes ((encoded.drop (BLOB_MAGIC.length + 6)).take 4)
  require (BLOB_HEADER_LENGTH + publicLength + privateLength = encoded.length) .invalidBlob
  return ⟨(encoded.drop BLOB_HEADER_LENGTH).take publicLength,
    (encoded.drop (BLOB_HEADER_LENGTH + publicLength)).take privateLength⟩

/-- What was encoded reads back. -/
theorem readBlob_encodeBlob {parts : SealedParts} {encoded : List UInt8}
    (written : encodeBlob parts = .ok encoded) : readBlob encoded = .ok parts := by
  obtain ⟨publicPart, privatePart⟩ := parts
  simp only [encodeBlob, check_bind_eq_ok_iff, require_eq_ok_iff] at written
  obtain ⟨publicFits, privateFits, fits, done⟩ := written
  cases done
  have publicLength : fromLeBytes (toLeBytes 4 publicPart.length) = publicPart.length :=
    fromLeBytes_toLeBytes publicFits
  have privateLength : fromLeBytes (toLeBytes 4 privatePart.length) = privatePart.length :=
    fromLeBytes_toLeBytes privateFits
  generalize sizes : toLeBytes 4 publicPart.length = publicSize at publicLength ⊢
  generalize sizes_ : toLeBytes 4 privatePart.length = privateSize at privateLength ⊢
  have publicSize_ : publicSize.length = 4 := by rw [← sizes, length_toLeBytes]
  have privateSize_ : privateSize.length = 4 := by rw [← sizes_, length_toLeBytes]
  have header : (BLOB_MAGIC ++ toLeBytes 2 BLOB_VERSION ++ publicSize ++ privateSize).length =
      BLOB_HEADER_LENGTH := by
    rw [List.length_append, List.length_append, publicSize_, privateSize_]
    rfl
  generalize file : BLOB_MAGIC ++ toLeBytes 2 BLOB_VERSION ++ publicSize ++ privateSize ++
    publicPart ++ privatePart = encoded
  have total : encoded.length = BLOB_HEADER_LENGTH + publicPart.length + privatePart.length := by
    rw [← file, List.length_append, List.length_append, header]
  have first : fromLeBytes ((encoded.drop (BLOB_MAGIC.length + 2)).take 4) =
      publicPart.length := by
    rw [← file]
    change fromLeBytes ((publicSize ++ privateSize ++ publicPart ++ privatePart).take 4) = _
    rw [List.append_assoc, List.append_assoc, List.take_left' publicSize_, publicLength]
  have second : fromLeBytes ((encoded.drop (BLOB_MAGIC.length + 6)).take 4) =
      privatePart.length := by
    have skip : encoded.drop (BLOB_MAGIC.length + 6) =
        privateSize ++ (publicPart ++ privatePart) := by
      rw [← file, List.append_assoc, List.append_assoc]
      refine List.drop_left' ?_
      rw [List.length_append, publicSize_]
      rfl
    rw [skip, List.take_left' privateSize_, privateLength]
  have body : encoded.drop BLOB_HEADER_LENGTH = publicPart ++ privatePart := by
    rw [← file, List.append_assoc, List.drop_left' header]
  have rest : encoded.drop (BLOB_HEADER_LENGTH + publicPart.length) = privatePart := by
    rw [← List.drop_drop, body, List.drop_left]
  have prefixed : encoded.take BLOB_MAGIC.length = BLOB_MAGIC ∧
      fromLeBytes ((encoded.drop BLOB_MAGIC.length).take 2) = BLOB_VERSION := by
    rw [← file]
    exact ⟨rfl, rfl⟩
  have checks : readBlob encoded = .ok ⟨(encoded.drop BLOB_HEADER_LENGTH).take publicPart.length,
      (encoded.drop (BLOB_HEADER_LENGTH + publicPart.length)).take privatePart.length⟩ := by
    simp only [readBlob, first, second, check_bind_eq_ok_iff, require_eq_ok_iff]
    refine ⟨⟨?_, ?_⟩, prefixed.1, prefixed.2, total.symm, rfl⟩ <;> omega
  rw [checks, body, rest, List.take_left, List.take_length]

/-- A TPM creates a sealed object around a key, and releases the key again. -/
structure Tpm where
  create : List UInt8 → Nat → SealedParts
  release : SealedParts → Except KeyError (List UInt8)
  release_create : ∀ key salt, release (create key salt) = .ok key

/-- The key that the bytes of a blob file unseal to. -/
def Tpm.unsealBlob (tpm : Tpm) (encoded : List UInt8) : Except KeyError SecretKey := do
  let parts ← readBlob encoded
  let key ← tpm.release parts
  SecretKey.fromSlice key

theorem Tpm.unsealBlob_encodeBlob (tpm : Tpm) {key : SecretKey} {salt : Nat}
    {encoded : List UInt8} (written : encodeBlob (tpm.create key.bytes salt) = .ok encoded) :
    tpm.unsealBlob encoded = .ok key := by
  rw [unsealBlob, readBlob_encodeBlob written]
  change tpm.release (tpm.create key.bytes salt) >>= SecretKey.fromSlice = _
  rw [tpm.release_create]
  exact key.fromSlice_bytes

/-! ## The calls -/

/-- The blob at the path of the key, and the temporary file of each call, whose name is a
fresh one. -/
structure SealedKeyFiles where
  blob : Option (List UInt8)
  temporary : Nat → Option (List UInt8)

/-- Where one call of `load_key` stands. -/
inductive SealedKeyCall where
  | idle
  | looking
  | opening
  | unsealing (encoded : List UInt8)
  | preparing
  | drawing
  | sealing (key : SecretKey)
  | creatingTemporary (key : SecretKey) (encoded : List UInt8)
  | writingTemporary (key : SecretKey) (encoded : List UInt8)
  | moving (key : SecretKey) (encoded : List UInt8)
  | synchronizing (key : SecretKey)
  | removing (key : SecretKey) (error : KeyError)
  | flushing (key : SecretKey) (written : Except KeyError Unit)
  | returned (result : Except KeyError SecretKey)
deriving DecidableEq

/-- What one step of a call finds: it succeeds, it is refused, a write stops short, or it
is given the bytes of a key or the randomness of a sealed object. -/
inductive SealedKeyChoice where
  | succeeds
  | refused (error : KeyError)
  | interrupted (written : Nat) (error : KeyError)
  | draws (key : SecretKey)
  | salts (salt : Nat)

namespace SealedKeyFiles

/-- A call begins. -/
def begin (files : SealedKeyFiles) : SealedKeyChoice → Option (SealedKeyFiles × SealedKeyCall)
  | .succeeds => some (files, .looking)
  | _ => none

/-- A step that only passes or is refused. -/
def pass (files : SealedKeyFiles) (next : SealedKeyCall) :
    SealedKeyChoice → Option (SealedKeyFiles × SealedKeyCall)
  | .succeeds => some (files, next)
  | .refused error => some (files, .returned (.error error))
  | _ => none

/-- Look for the blob. Without one the call creates a key of its own. -/
def look (files : SealedKeyFiles) : SealedKeyChoice → Option (SealedKeyFiles × SealedKeyCall)
  | .succeeds => some (files, if files.blob.isSome then .opening else .preparing)
  | .refused error => some (files, .returned (.error error))
  | _ => none

/-- Open and read the blob. -/
def openBlob (files : SealedKeyFiles) : SealedKeyChoice → Option (SealedKeyFiles × SealedKeyCall)
  | .succeeds => some (files, files.blob.elim
      (.returned (.error (.io ⟨.notFound, "No such file or directory (os error 2)"⟩))) .unsealing)
  | .refused error => some (files, .returned (.error error))
  | _ => none

/-- Draw the bytes of a new key. -/
def draw (files : SealedKeyFiles) : SealedKeyChoice → Option (SealedKeyFiles × SealedKeyCall)
  | .draws key => some (files, .sealing key)
  | .refused error => some (files, .returned (.error error))
  | _ => none

/-- Seal the key and encode the object. -/
def sealKey (tpm : Tpm) (files : SealedKeyFiles) (key : SecretKey) :
    SealedKeyChoice → Option (SealedKeyFiles × SealedKeyCall)
  | .salts salt => some (files,
      match encodeBlob (tpm.create key.bytes salt) with
      | .ok encoded => .creatingTemporary key encoded
      | .error error => .returned (.error error))
  | .refused error => some (files, .returned (.error error))
  | _ => none

/-- Create the temporary file, empty. -/
def createTemporary (index : Nat) (files : SealedKeyFiles) (key : SecretKey)
    (encoded : List UInt8) : SealedKeyChoice → Option (SealedKeyFiles × SealedKeyCall)
  | .succeeds => some ({ files with
      temporary := Function.update files.temporary index (some []) },
      .writingTemporary key encoded)
  | .refused error => some (files, .removing key error)
  | _ => none

/-- Write the blob to the temporary file, all of it or a part. -/
def writeTemporary (index : Nat) (files : SealedKeyFiles) (key : SecretKey)
    (encoded : List UInt8) : SealedKeyChoice → Option (SealedKeyFiles × SealedKeyCall)
  | .succeeds => some ({ files with
      temporary := Function.update files.temporary index (some encoded) }, .moving key encoded)
  | .interrupted written error => some ({ files with
      temporary := Function.update files.temporary index (some (encoded.take written)) },
      .removing key error)
  | _ => none

/-- Move the temporary file to the path of the key, whatever is there. -/
def rename (index : Nat) (files : SealedKeyFiles) (key : SecretKey) :
    SealedKeyChoice → Option (SealedKeyFiles × SealedKeyCall)
  | .succeeds => (files.temporary index).map fun content =>
      (⟨some content, Function.update files.temporary index none⟩, .synchronizing key)
  | .refused error => some (files, .removing key error)
  | _ => none

/-- Synchronize the directory of the key. -/
def synchronize (files : SealedKeyFiles) (key : SecretKey) :
    SealedKeyChoice → Option (SealedKeyFiles × SealedKeyCall)
  | .succeeds => some (files, .flushing key (.ok ()))
  | .refused error => some (files, .removing key error)
  | _ => none

/-- Remove the temporary file, if that is possible. -/
def removeTemporary (index : Nat) (files : SealedKeyFiles) (key : SecretKey) (error : KeyError) :
    SealedKeyChoice → Option (SealedKeyFiles × SealedKeyCall)
  | .succeeds => some ({ files with
      temporary := Function.update files.temporary index none }, .flushing key (.error error))
  | .refused _ => some (files, .flushing key (.error error))
  | _ => none

/-- Flush the primary object. The error of the write comes first. -/
def flush (files : SealedKeyFiles) (key : SecretKey) :
    Except KeyError Unit → SealedKeyChoice → Option (SealedKeyFiles × SealedKeyCall)
  | .ok (), .succeeds => some (files, .returned (SecretKey.fromSlice key.bytes))
  | .ok (), .refused error => some (files, .returned (.error error))
  | .error error, .succeeds => some (files, .returned (.error error))
  | .error error, .refused _ => some (files, .returned (.error error))
  | _, _ => none

/-- One step of a call. -/
def advance (tpm : Tpm) (index : Nat) (choice : SealedKeyChoice) (files : SealedKeyFiles) :
    SealedKeyCall → Option (SealedKeyFiles × SealedKeyCall)
  | .idle => files.begin choice
  | .looking => files.look choice
  | .opening => files.openBlob choice
  | .unsealing encoded => files.pass (.returned (tpm.unsealBlob encoded)) choice
  | .preparing => files.pass .drawing choice
  | .drawing => files.draw choice
  | .sealing key => files.sealKey tpm key choice
  | .creatingTemporary key encoded => files.createTemporary index key encoded choice
  | .writingTemporary key encoded => files.writeTemporary index key encoded choice
  | .moving key _ => files.rename index key choice
  | .synchronizing key => files.synchronize key choice
  | .removing key error => files.removeTemporary index key error choice
  | .flushing key written => files.flush key written choice
  | .returned _ => none

/-- The path without a blob, before the calls. -/
def start : Threads SealedKeyFiles SealedKeyCall := ⟨⟨none, fun _ => none⟩, fun _ => .idle⟩

/-- The key that the blob on disk unseals to. -/
def stored (tpm : Tpm) (files : SealedKeyFiles) : Except KeyError SecretKey :=
  files.blob.elim (.error (.io ⟨.notFound, "No such file or directory (os error 2)"⟩))
    tpm.unsealBlob

end SealedKeyFiles

/-- The calls on one path, with nothing else that touches it. -/
def sealedKeyProgram (tpm : Tpm) : Program SealedKeyFiles SealedKeyCall SealedKeyChoice Empty where
  advance := SealedKeyFiles.advance tpm
  occur event _ := nomatch event

/-- Every key that a call returned is the key of the blob on disk, and what was encrypted
under it can be read with the key of the blob. -/
structure SealedKeyAgreement (tpm : Tpm) (text : PayloadText) (cipher : SecretKey → TemplateCipher)
    (state : Threads SealedKeyFiles SealedKeyCall) : Prop where
  same : ∀ index key, state.thread index = .returned (.ok key) →
    state.shared.stored tpm = .ok key
  loadable : ∀ index key, state.thread index = .returned (.ok key) →
    ∀ (nonce : Nonce) (uid : UInt32) (payload : StoredPayload),
      validateStoredPayload payload uid = .ok () → payload.generation ≤ U64_MAX →
      ∃ encoded stored, encodePayload text (cipher key) nonce uid payload = .ok encoded ∧
        state.shared.stored tpm = .ok stored ∧
        decodePayload text (cipher stored) uid encoded = .ok payload

/-- The call goes on with the key of the blob on disk: it has returned it, has read the
blob, or has put it there itself. -/
def SealedKeyCall.Holds : SealedKeyCall → Prop
  | .unsealing _ | .synchronizing _ | .flushing _ (.ok ()) | .returned (.ok _) => True
  | _ => False

/-- A step that moves a blob over another one finds no other call that holds the key of the
blob that it replaces. -/
def SealedKeyFiles.Unheld (state : Threads SealedKeyFiles SealedKeyCall) :
    Turn SealedKeyChoice Empty → Prop
  | .thread index .succeeds =>
      match state.thread index with
      | .moving _ _ => state.shared.blob.isSome → ∀ other, ¬ (state.thread other).Holds
      | _ => True
  | _ => True

namespace SealedKeyFiles

variable {tpm : Tpm} {index other : Nat} {choice : SealedKeyChoice} {files after : SealedKeyFiles}
  {call next observer : SealedKeyCall}

/-- What a call knows of its key and of the files. -/
def Knows (tpm : Tpm) (index : Nat) (files : SealedKeyFiles) : SealedKeyCall → Prop
  | .unsealing encoded => files.blob = some encoded
  | .creatingTemporary key encoded => tpm.unsealBlob encoded = .ok key
  | .writingTemporary key encoded => tpm.unsealBlob encoded = .ok key
  | .moving key encoded =>
      tpm.unsealBlob encoded = .ok key ∧ files.temporary index = some encoded
  | .synchronizing key => files.stored tpm = .ok key
  | .flushing key (.ok ()) => files.stored tpm = .ok key
  | .returned (.ok key) => files.stored tpm = .ok key
  | _ => True

/-- What one step of a call can do: it changes no file, its temporary file, or the blob. -/
inductive Moved (tpm : Tpm) (index : Nat) (files : SealedKeyFiles) :
    SealedKeyChoice → SealedKeyCall → SealedKeyFiles → SealedKeyCall → Prop where
  | stays {choice : SealedKeyChoice} {call next : SealedKeyCall}
      (knows : Knows tpm index files call → Knows tpm index files next) :
      Moved tpm index files choice call files next
  | writes {choice : SealedKeyChoice} {call next : SealedKeyCall} {content : Option (List UInt8)}
      (knows : Knows tpm index files call →
        Knows tpm index ⟨files.blob, Function.update files.temporary index content⟩ next) :
      Moved tpm index files choice call
        ⟨files.blob, Function.update files.temporary index content⟩ next
  | renames {key : SecretKey} {encoded content : List UInt8}
      (found : files.temporary index = some content) :
      Moved tpm index files .succeeds (.moving key encoded)
        ⟨some content, Function.update files.temporary index none⟩ (.synchronizing key)

theorem pass_moved {target : SealedKeyCall}
    (knows : Knows tpm index files call → Knows tpm index files target)
    (passed : files.pass target choice = some (after, next)) :
    Moved tpm index files choice call after next := by
  cases choice <;> simp only [pass, reduceCtorEq, Option.some.injEq, Prod.mk.injEq] at passed
  · obtain ⟨rfl, rfl⟩ := passed
    exact .stays knows
  · obtain ⟨rfl, rfl⟩ := passed
    exact .stays fun _ => trivial

theorem flush_moved {key : SecretKey} {written : Except KeyError Unit}
    (flushed : files.flush key written choice = some (after, next)) :
    Moved tpm index files choice (.flushing key written) after next := by
  cases written with
  | ok done =>
      cases choice <;> simp only [flush, reduceCtorEq, Option.some.injEq, Prod.mk.injEq] at flushed
      · obtain ⟨rfl, rfl⟩ := flushed
        rw [key.fromSlice_bytes]
        exact .stays id
      · obtain ⟨rfl, rfl⟩ := flushed
        exact .stays fun _ => trivial
  | error error =>
      cases choice <;> simp only [flush, reduceCtorEq, Option.some.injEq, Prod.mk.injEq] at flushed
      all_goals obtain ⟨rfl, rfl⟩ := flushed
      all_goals exact .stays fun _ => trivial

/-- Every step of a call is one of these. -/
theorem advance_moved (advanced : advance tpm index choice files call = some (after, next)) :
    Moved tpm index files choice call after next := by
  cases call with
  | idle =>
      cases choice <;> simp only [advance, begin, reduceCtorEq, Option.some.injEq,
        Prod.mk.injEq] at advanced
      obtain ⟨rfl, rfl⟩ := advanced
      exact .stays id
  | looking =>
      cases choice <;> simp only [advance, look, reduceCtorEq, Option.some.injEq,
        Prod.mk.injEq] at advanced
      · obtain ⟨rfl, rfl⟩ := advanced
        split <;> exact .stays fun _ => trivial
      · obtain ⟨rfl, rfl⟩ := advanced
        exact .stays fun _ => trivial
  | opening =>
      cases choice <;> simp only [advance, openBlob, reduceCtorEq, Option.some.injEq,
        Prod.mk.injEq] at advanced
      · obtain ⟨rfl, rfl⟩ := advanced
        cases found : files.blob with
        | none =>
            rw [Option.elim_none]
            exact .stays fun _ => trivial
        | some encoded => exact .stays fun _ => found
      · obtain ⟨rfl, rfl⟩ := advanced
        exact .stays fun _ => trivial
  | unsealing encoded =>
      refine pass_moved (fun found => ?_) advanced
      cases released : tpm.unsealBlob encoded with
      | error error => trivial
      | ok key =>
          rw [Knows] at found
          rw [Knows, stored, found, Option.elim_some, released]
  | preparing =>
      refine pass_moved (fun _ => ?_) advanced
      trivial
  | drawing =>
      cases choice <;> simp only [advance, draw, reduceCtorEq, Option.some.injEq,
        Prod.mk.injEq] at advanced
      all_goals obtain ⟨rfl, rfl⟩ := advanced
      all_goals exact .stays fun _ => trivial
  | sealing key =>
      cases choice <;> simp only [advance, sealKey, reduceCtorEq, Option.some.injEq,
        Prod.mk.injEq] at advanced
      · obtain ⟨rfl, rfl⟩ := advanced
        exact .stays fun _ => trivial
      · obtain ⟨rfl, rfl⟩ := advanced
        split
        · rename_i encoded written
          exact .stays fun _ => tpm.unsealBlob_encodeBlob written
        · exact .stays fun _ => trivial
  | creatingTemporary key encoded =>
      cases choice <;> simp only [advance, createTemporary, reduceCtorEq, Option.some.injEq,
        Prod.mk.injEq] at advanced
      · obtain ⟨rfl, rfl⟩ := advanced
        exact .writes id
      · obtain ⟨rfl, rfl⟩ := advanced
        exact .stays fun _ => trivial
  | writingTemporary key encoded =>
      cases choice <;> simp only [advance, writeTemporary, reduceCtorEq, Option.some.injEq,
        Prod.mk.injEq] at advanced
      · obtain ⟨rfl, rfl⟩ := advanced
        exact .writes fun released => ⟨released, Function.update_self ..⟩
      · obtain ⟨rfl, rfl⟩ := advanced
        exact .writes fun _ => trivial
  | moving key encoded =>
      cases choice <;> simp only [advance, rename, reduceCtorEq, Option.some.injEq,
        Option.map_eq_some_iff, Prod.mk.injEq] at advanced
      · obtain ⟨content, found, rfl, rfl⟩ := advanced
        exact .renames found
      · obtain ⟨rfl, rfl⟩ := advanced
        exact .stays fun _ => trivial
  | synchronizing key =>
      cases choice <;> simp only [advance, synchronize, reduceCtorEq, Option.some.injEq,
        Prod.mk.injEq] at advanced
      · obtain ⟨rfl, rfl⟩ := advanced
        exact .stays id
      · obtain ⟨rfl, rfl⟩ := advanced
        exact .stays fun _ => trivial
  | removing key error =>
      cases choice <;> simp only [advance, removeTemporary, reduceCtorEq, Option.some.injEq,
        Prod.mk.injEq] at advanced
      · obtain ⟨rfl, rfl⟩ := advanced
        exact .writes fun _ => trivial
      · obtain ⟨rfl, rfl⟩ := advanced
        exact .stays fun _ => trivial
  | flushing key written => exact flush_moved advanced
  | returned result => cases advanced

theorem Moved.knows (moved : Moved tpm index files choice call after next)
    (mine : Knows tpm index files call) : Knows tpm index after next := by
  cases moved with
  | stays knows => exact knows mine
  | writes knows => exact knows mine
  | @renames key encoded content found =>
      obtain ⟨released, written⟩ := mine
      rw [found, Option.some.injEq] at written
      rw [Knows, stored, Option.elim_some, written, released]

/-- What another call knows depends on the blob and on its own temporary file. -/
theorem Knows.beside (knows : Knows tpm other files observer)
    (temporary : after.temporary other = files.temporary other)
    (blob : after.blob = files.blob ∨ ¬ observer.Holds) : Knows tpm other after observer := by
  cases observer with
  | moving key encoded => exact ⟨knows.1, temporary.trans knows.2⟩
  | unsealing encoded =>
      rcases blob with same | free
      · exact same.trans knows
      · exact (free trivial).elim
  | synchronizing key =>
      rcases blob with same | free
      · rwa [Knows, stored, same]
      · exact (free trivial).elim
  | flushing key written =>
      cases written with
      | error error => trivial
      | ok done =>
          rcases blob with same | free
          · rwa [Knows, stored, same]
          · exact (free trivial).elim
  | returned result =>
      cases result with
      | error error => trivial
      | ok key =>
          rcases blob with same | free
          · rwa [Knows, stored, same]
          · exact (free trivial).elim
  | _ => exact knows

/-- A call that holds a key knows of a blob. -/
theorem Knows.blob (knows : Knows tpm index files call) (absent : files.blob = none) :
    ¬ call.Holds := by
  intro holds
  cases call with
  | unsealing encoded => simp [Knows, absent] at knows
  | synchronizing key => simp [Knows, stored, absent] at knows
  | flushing key written =>
      cases written with
      | error error => exact holds
      | ok done => simp [Knows, stored, absent] at knows
  | returned result =>
      cases result with
      | error error => exact holds
      | ok key => simp [Knows, stored, absent] at knows
  | _ => exact holds

/-- No step takes from a call what it knows, as long as no held blob is replaced. -/
theorem knows_stable : (sealedKeyProgram tpm).Stable Unheld (fun _ => True)
    (fun index files call => Knows tpm index files call) where
  occurs := by
    intro state event
    cases event
  advances := by
    intro state index choice shared after _ knows fits advanced
    have moved := advance_moved advanced
    refine ⟨trivial, moved.knows (knows index), fun other different => ?_⟩
    have theirs : Knows tpm other state.shared (state.thread other) := knows other
    generalize call : state.thread index = current at moved
    cases moved with
    | stays => exact theirs
    | writes =>
        exact Knows.beside theirs (Function.update_of_ne different ..) (.inl rfl)
    | renames found =>
        refine Knows.beside theirs (Function.update_of_ne different ..) (.inr ?_)
        rw [Unheld, call] at fits
        cases blob : state.shared.blob with
        | none => exact Knows.blob theirs blob
        | some encoded => exact fits (by simp [blob]) other

end SealedKeyFiles

/-- In every run of any number of calls in which no blob is moved over one whose key another
call holds, every returned key is the key of the blob on disk from then on. -/
theorem sealedKey_agreement (tpm : Tpm) (text : PayloadText) (cipher : SecretKey → TemplateCipher)
    {state : Threads SealedKeyFiles SealedKeyCall}
    (reached : (sealedKeyProgram tpm).Reaches SealedKeyFiles.Unheld SealedKeyFiles.start state) :
    SealedKeyAgreement tpm text cipher state := by
  have start : ∀ index, SealedKeyFiles.Knows tpm index SealedKeyFiles.start.shared
      (SealedKeyFiles.start.thread index) := fun _ => trivial
  obtain ⟨-, knows⟩ := SealedKeyFiles.knows_stable.reaches trivial start reached
  have same : ∀ index key, state.thread index = .returned (.ok key) →
      state.shared.stored tpm = .ok key := by
    intro index key returned
    have known := knows index
    rw [returned] at known
    exact known
  refine ⟨same, fun index key returned nonce uid payload valid bounded => ?_⟩
  obtain ⟨encoded, written, reads⟩ :=
    decodePayload_encodePayload valid bounded nonce
  exact ⟨encoded, key, written, same index key returned, reads⟩

/-- The step moves no blob over another one. -/
def SealedKeyFiles.Places (state : Threads SealedKeyFiles SealedKeyCall) :
    Turn SealedKeyChoice Empty → Prop
  | .thread index .succeeds =>
      match state.thread index with
      | .moving _ _ => state.shared.blob = none
      | _ => True
  | _ => True

instance (state : Threads SealedKeyFiles SealedKeyCall) (turn : Turn SealedKeyChoice Empty) :
    Decidable (SealedKeyFiles.Places state turn) := by
  unfold SealedKeyFiles.Places
  split
  · split <;> infer_instance
  · infer_instance

theorem SealedKeyFiles.Places.unheld {state : Threads SealedKeyFiles SealedKeyCall}
    {turn : Turn SealedKeyChoice Empty} (places : SealedKeyFiles.Places state turn) :
    SealedKeyFiles.Unheld state turn := by
  unfold SealedKeyFiles.Places at places
  unfold SealedKeyFiles.Unheld
  split at places
  · split at places
    · simp [places]
    · trivial
  · trivial

/-- A TPM that protects nothing. -/
def plainTpm : Tpm where
  create key _ := ⟨[], key⟩
  release parts := .ok parts.privatePart
  release_create _ _ := rfl

/-- The steps of a call that creates a key. -/
def creatorTurns (index : Nat) (key : SecretKey) : List (Turn SealedKeyChoice Empty) :=
  [.thread index .succeeds, .thread index (.draws key), .thread index (.salts 0),
    .thread index .succeeds, .thread index .succeeds, .thread index .succeeds,
    .thread index .succeeds, .thread index .succeeds]

/-- A call creates the key and another one reads it. -/
def sharedBlobTurns : List (Turn SealedKeyChoice Empty) :=
  [.thread 0 .succeeds, .thread 0 .succeeds] ++ creatorTurns 0 testKey ++
    [.thread 1 .succeeds, .thread 1 .succeeds, .thread 1 .succeeds, .thread 1 .succeeds]

/-- A second call that comes after the blob is there unseals the same key. -/
theorem sealedKey_agreement_shared : ∃ state,
    (sealedKeyProgram plainTpm).execute SealedKeyFiles.start sharedBlobTurns = some state ∧
      state.thread 0 = .returned (.ok testKey) ∧ state.thread 1 = .returned (.ok testKey) ∧
      SealedKeyAgreement plainTpm compactJson.payloadText (fun _ => plainCipher) state := by
  have obeys : (sealedKeyProgram plainTpm).Obeys SealedKeyFiles.Places SealedKeyFiles.start
      sharedBlobTurns := by decide
  have reached := obeys.reaches.mono fun _ _ => SealedKeyFiles.Places.unheld
  exact ⟨_, (Program.execute_of_obeys obeys).1, by decide, by decide,
    sealedKey_agreement plainTpm compactJson.payloadText (fun _ => plainCipher) reached⟩

/-- A second key. -/
def otherKey : SecretKey := ⟨List.replicate 32 9, rfl⟩

/-- Two calls look for the blob before either has put its own there. -/
def twoCreatorTurns : List (Turn SealedKeyChoice Empty) :=
  [.thread 0 .succeeds, .thread 1 .succeeds, .thread 0 .succeeds, .thread 1 .succeeds] ++
    creatorTurns 0 testKey ++ creatorTurns 1 otherKey

/-- Both creations succeed, and the key of the first is lost. -/
theorem sealedKey_disagreement : ∃ state,
    (sealedKeyProgram plainTpm).execute SealedKeyFiles.start twoCreatorTurns = some state ∧
      state.thread 0 = .returned (.ok testKey) ∧ state.thread 1 = .returned (.ok otherKey) ∧
      state.shared.stored plainTpm = .ok otherKey ∧
      ¬ SealedKeyAgreement plainTpm compactJson.payloadText (fun _ => plainCipher) state := by
  have obeys : (sealedKeyProgram plainTpm).Obeys (fun _ _ => True) SealedKeyFiles.start
      twoCreatorTurns := by decide
  refine ⟨_, (Program.execute_of_obeys obeys).1, by decide, by decide, by decide,
    fun agreement => ?_⟩
  have same := agreement.same 0 testKey (by decide)
  revert same
  decide

end FaceAuth
