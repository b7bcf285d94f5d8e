import FaceAuth.Foundation.Stepwise
import FaceAuth.Storage.Generations

/-!
# The steps of a mutation

The store's operations with every step that the operating system may refuse:
the lock, the checks of paths and owners, the key, and the steps that replace a
container by way of a temporary file.
-/

namespace FaceAuth

open Foundation

/-- The name of the lock file of an account. -/
def lockPathFor (uid : UInt32) : String := "." ++ toString uid.toNat ++ ".template.lock"

/-- The failure of creating a file that exists. -/
def FILE_EXISTS : IoError := ⟨.alreadyExists, "File exists (os error 17)"⟩

/-- The error says that a file is not there. -/
def StorageError.isNotFound : StorageError → Bool
  | .io error => decide (error.kind = .notFound)
  | _ => false

/-- The refusal of a step that reads. A file that is not there is no refusal: the
directory says so itself. -/
abbrev ReadFailure := {error : StorageError // error.isNotFound = false}

/-- The steps of reading a container that may be refused. -/
inductive ReadStep where
  | verifyDirectory | verifyTarget | openTarget | verifyOpen | readToEnd | loadKey
deriving DecidableEq

/-- The steps of a mutation around that reading that may be refused. -/
inductive MutationStep where
  | prepareDirectory | verifyLock | openLock | verifyOpenLock | acquireLock | verifyDirectory
  | verifyLockAgain | loadKey | randomNonce | writeDirectory | writeTarget | createTemporary
  | verifyTemporary | writeAll | syncAll | rename | openDirectory | syncDirectory
  | removeTemporary
deriving DecidableEq

/-- What the operating system answers to one call: the steps it refuses, the portions
in which it takes the bytes of the container, and the name it gives the temporary file. -/
structure StoreAttempt where
  reading : ReadStep → Option ReadFailure
  failure : MutationStep → Option StorageError
  portions : List Nat
  uuid : String

/-- An absent container is no failure of a mutation. -/
def optionalPayload : Except StorageError StoredPayload →
    Except StorageError (Option StoredPayload)
  | .ok payload => .ok (some payload)
  | .error (.io error) => if error.kind = .notFound then .ok none else .error (.io error)
  | .error error => .error error

/-- A computation on the template directory. -/
abbrev StoreComputation := Stepwise Directory StorageError

namespace StoreAttempt

variable (attempt : StoreAttempt)

/-- Take a step that reads, unless it is refused. -/
def read (step : ReadStep) : StoreComputation Unit :=
  Stepwise.check ((attempt.reading step).map Subtype.val)

/-- Take a step that changes something, unless it is refused. -/
def take (step : MutationStep) : StoreComputation Unit := Stepwise.check (attempt.failure step)

/-- The name under which the bytes for a container are written first. -/
def temporary (uid : UInt32) : String := "." ++ pathFor uid ++ ".tmp-" ++ attempt.uuid

/-- Create a file that is not there yet. -/
def createNew (name : String) : StoreComputation Unit := do
  attempt.take .createTemporary
  Stepwise.ask fun directory =>
    if directory name = none then .ok () else .error (.io FILE_EXISTS)
  Stepwise.change fun directory => Function.update directory name (some [])

/-- Write the bytes in the portions that the operating system takes, of which the last
is what then remains. -/
def writeAll (name : String) (bytes : List UInt8) : List Nat → Nat → StoreComputation Unit
  | [], _ => do
      attempt.take .writeAll
      Stepwise.change fun directory => Function.update directory name (some bytes)
  | portion :: portions, written => do
      Stepwise.change fun directory =>
        Function.update directory name (some (bytes.take (written + portion)))
      writeAll name bytes portions (written + portion)

/-- Put the file in the place of another. -/
def rename (source target : String) (directory : Directory) : Directory :=
  Function.update (Function.update directory target (directory source)) source none

/-- Replace a container by way of a temporary file in the same directory. -/
def atomicWrite (uid : UInt32) (bytes : List UInt8) : StoreComputation Unit := do
  attempt.take .writeDirectory
  attempt.take .writeTarget
  Stepwise.cleanup
    (do
      attempt.createNew (attempt.temporary uid)
      attempt.take .verifyTemporary
      attempt.writeAll (attempt.temporary uid) bytes attempt.portions 0
      attempt.take .syncAll
      attempt.take .rename
      Stepwise.change (rename (attempt.temporary uid) (pathFor uid))
      attempt.take .openDirectory
      attempt.take .syncDirectory)
    (do
      attempt.take .removeTemporary
      Stepwise.change fun directory => Function.update directory (attempt.temporary uid) none)

section Operations

variable (text : PayloadText) (cipher : TemplateCipher)

/-- The payload of an account, with every check of its container. -/
def readPayload (uid : UInt32) : StoreComputation StoredPayload := do
  attempt.read .verifyDirectory
  attempt.read .verifyTarget
  attempt.read .openTarget
  let encoded ← Stepwise.ask fun directory =>
    (directory (pathFor uid)).elim (.error (.io FILE_NOT_FOUND)) .ok
  attempt.read .verifyOpen
  attempt.read .readToEnd
  Stepwise.ofExcept (checkHeader encoded)
  attempt.read .loadKey
  Stepwise.ofExcept (decodePayload text cipher uid encoded)

/-- The payload of an account, or none when it has no container. -/
def readOptionalPayload (uid : UInt32) : StoreComputation (Option StoredPayload) :=
  Stepwise.recover (attempt.readPayload text cipher uid) optionalPayload

/-- Seal a payload under a fresh nonce and write its container. -/
def writePayload (nonce : Nonce) (uid : UInt32) (payload : StoredPayload) :
    StoreComputation Unit := do
  Stepwise.ofExcept (validateStoredPayload payload uid)
  attempt.take .loadKey
  let plaintext ← Stepwise.ofExcept ((text.toVec payload).mapError .serialization)
  attempt.take .randomNonce
  let encoded ← Stepwise.ofExcept (encodeContainer cipher nonce uid plaintext)
  attempt.atomicWrite uid encoded

/-- Open the lock file, which stays behind, and hold its lock during the operation. -/
def withExclusiveUidLock {Value : Type} (uid : UInt32) (operation : StoreComputation Value) :
    StoreComputation Value := do
  attempt.take .prepareDirectory
  attempt.take .verifyLock
  attempt.take .openLock
  Stepwise.change fun directory =>
    Function.update directory (lockPathFor uid) (some ((directory (lockPathFor uid)).getD []))
  attempt.take .verifyOpenLock
  attempt.take .acquireLock
  attempt.take .verifyDirectory
  attempt.take .verifyLockAgain
  operation

/-- Save a record over whatever the account has. -/
def saveWithGeneration (nonce : Nonce) (record : TemplateRecord) : StoreComputation Nat := do
  Stepwise.ofExcept record.validate
  attempt.withExclusiveUidLock record.uid do
    let current ← attempt.readOptionalPayload text cipher record.uid
    let generation ← Stepwise.ofExcept
      (nextGeneration (current.elim 0 StoredPayload.generation))
    attempt.writePayload text cipher nonce record.uid
      (.live STORED_PAYLOAD_SCHEMA_VERSION generation record)
    pure generation

/-- Replace a live record whose generation is the expected one. -/
def replaceIfGeneration (nonce : Nonce) (expectedGeneration : Nat) (record : TemplateRecord) :
    StoreComputation Nat := do
  Stepwise.ofExcept record.validate
  attempt.withExclusiveUidLock record.uid do
    let current ← attempt.readOptionalPayload text cipher record.uid
    let actualGeneration ← Stepwise.ofExcept (liveGeneration current)
    Stepwise.ofExcept (require (actualGeneration = expectedGeneration)
      (.staleGeneration expectedGeneration actualGeneration))
    let generation ← Stepwise.ofExcept (nextGeneration actualGeneration)
    attempt.writePayload text cipher nonce record.uid
      (.live STORED_PAYLOAD_SCHEMA_VERSION generation record)
    pure generation

/-- Put a tombstone in place of a live record, of a certain generation or of any. -/
def deleteInner (nonce : Nonce) (uid : UInt32) (expectedGeneration : Option Nat) :
    StoreComputation Nat :=
  attempt.withExclusiveUidLock uid do
    let current ← attempt.readOptionalPayload text cipher uid
    let actualGeneration ← Stepwise.ofExcept (liveGeneration current)
    Stepwise.ofExcept (require (expectedGeneration.all (· = actualGeneration) = true)
      (.staleGeneration (expectedGeneration.getD actualGeneration) actualGeneration))
    let generation ← Stepwise.ofExcept (nextGeneration actualGeneration)
    attempt.writePayload text cipher nonce uid
      (.deleted STORED_PAYLOAD_SCHEMA_VERSION generation uid)
    pure generation

/-- The computation of an operation. -/
def perform : StoreOperation → StoreComputation Nat
  | .saveWithGeneration nonce record => attempt.saveWithGeneration text cipher nonce record
  | .replaceIfGeneration nonce expected record =>
      attempt.replaceIfGeneration text cipher nonce expected record
  | .delete nonce uid => attempt.deleteInner text cipher nonce uid none
  | .deleteIfGeneration nonce uid expected =>
      attempt.deleteInner text cipher nonce uid (some expected)

end Operations

end StoreAttempt

/-! ## Names -/

/-- A name is not one of its own extensions. -/
theorem ne_of_length_lt {first second : String} (shorter : first.length < second.length) :
    first ≠ second := by
  intro same
  rw [same] at shorter
  exact Nat.lt_irrefl _ shorter

theorem pathFor_ne_lockPathFor (uid : UInt32) : pathFor uid ≠ lockPathFor uid := by
  have suffix : ".template".length < ".template.lock".length := by decide
  apply ne_of_length_lt
  simp only [pathFor, lockPathFor, String.length_append]
  omega

namespace StoreAttempt

variable (attempt : StoreAttempt)

theorem pathFor_ne_temporary (uid : UInt32) : pathFor uid ≠ attempt.temporary uid := by
  have dot : 0 < ".".length := by decide
  apply ne_of_length_lt
  simp only [temporary, String.length_append]
  omega

theorem lockPathFor_ne_temporary (uid : UInt32) : lockPathFor uid ≠ attempt.temporary uid := by
  intro same
  have letters := congrArg String.toList same
  simp [lockPathFor, temporary, pathFor] at letters

/-! ## Conditions on the steps -/

variable (directory : Directory) (uid : UInt32)

/-- The reading of the container is not refused. A step that is not reached is not. -/
structure Reads : Prop where
  trusted : attempt.reading .verifyDirectory = none
  target : attempt.reading .verifyTarget = none
  opened : attempt.reading .openTarget = none
  verified : directory (pathFor uid) ≠ none → attempt.reading .verifyOpen = none
  read : directory (pathFor uid) ≠ none → attempt.reading .readToEnd = none
  key : ∀ encoded, directory (pathFor uid) = some encoded → checkHeader encoded = .ok () →
    attempt.reading .loadKey = none

/-- The account's lock is taken. -/
def Locks : Prop :=
  attempt.failure .prepareDirectory = none ∧ attempt.failure .verifyLock = none ∧
    attempt.failure .openLock = none ∧ attempt.failure .verifyOpenLock = none ∧
    attempt.failure .acquireLock = none ∧ attempt.failure .verifyDirectory = none ∧
    attempt.failure .verifyLockAgain = none

/-- The temporary file is created. -/
def Creates : Prop :=
  attempt.failure .writeDirectory = none ∧ attempt.failure .writeTarget = none ∧
    attempt.failure .createTemporary = none ∧ directory (attempt.temporary uid) = none

/-- A temporary file that was created is filled and takes the place of the container. -/
def Replaces : Prop :=
  attempt.failure .verifyTemporary = none ∧ attempt.failure .writeAll = none ∧
    attempt.failure .syncAll = none ∧ attempt.failure .rename = none

/-- The directory is synchronized after the rename. -/
def Synchronizes : Prop :=
  attempt.failure .openDirectory = none ∧ attempt.failure .syncDirectory = none

end StoreAttempt

/-! ## Replacing the container -/

section Replacement

variable {attempt : StoreAttempt} {directory : Directory} {uid : UInt32}

/-- A file is changed at most in its entirety, and no other file but the temporary one. -/
structure StoreAttempt.Intact (attempt : StoreAttempt) (directory : Directory) (uid : UInt32)
    (bytes : List UInt8) (point : Directory) : Prop where
  target : point (pathFor uid) = directory (pathFor uid) ∨ point (pathFor uid) = some bytes
  others : ∀ name, name ≠ pathFor uid → name ≠ attempt.temporary uid →
    point name = directory name

/-- The directory with the container replaced and without the temporary file. -/
def StoreAttempt.replaced (attempt : StoreAttempt) (directory : Directory) (uid : UInt32)
    (bytes : List UInt8) : Directory :=
  Function.update (Function.update directory (pathFor uid) (some bytes))
    (attempt.temporary uid) none

/-- How the replacement of a container ends. -/
inductive StoreAttempt.Ended (attempt : StoreAttempt) (directory : Directory) (uid : UInt32)
    (bytes : List UInt8) (leftover : Prop) : Except StorageError Unit → Directory → Prop where
  | refused (error : StorageError) (after : Directory)
      (uncreated : ¬ attempt.Creates directory uid)
      (others : ∀ name, name ≠ attempt.temporary uid → after name = directory name)
      (old : after (attempt.temporary uid) ≠ none → directory (attempt.temporary uid) ≠ none) :
      Ended attempt directory uid bytes leftover (.error error) after
  | stopped (error : StorageError) (after : Directory) (created : attempt.Creates directory uid)
      (unreplaced : ¬ attempt.Replaces)
      (others : ∀ name, name ≠ attempt.temporary uid → after name = directory name)
      (left : after (attempt.temporary uid) ≠ none ↔ leftover) :
      Ended attempt directory uid bytes leftover (.error error) after
  | late (error : StorageError) (created : attempt.Creates directory uid)
      (replaces : attempt.Replaces) (unsynced : ¬ attempt.Synchronizes) :
      Ended attempt directory uid bytes leftover (.error error)
        (attempt.replaced directory uid bytes)
  | done (created : attempt.Creates directory uid) (replaces : attempt.Replaces)
      (synced : attempt.Synchronizes) :
      Ended attempt directory uid bytes leftover (.ok ()) (attempt.replaced directory uid bytes)

theorem StoreAttempt.intact_update (bytes : List UInt8) (content : Option (List UInt8)) :
    attempt.Intact directory uid bytes
      (Function.update directory (attempt.temporary uid) content) where
  target := .inl (Function.update_of_ne (attempt.pathFor_ne_temporary uid) ..)
  others _ _ other := Function.update_of_ne other ..

theorem StoreAttempt.intact_replaced (bytes : List UInt8) :
    attempt.Intact directory uid bytes (attempt.replaced directory uid bytes) where
  target := by
    right
    rw [replaced, Function.update_of_ne (attempt.pathFor_ne_temporary uid), Function.update_self]
  others name path other := by
    rw [replaced, Function.update_of_ne other, Function.update_of_ne path]

/-- The rename puts a filled temporary file in the place of the container. -/
theorem StoreAttempt.rename_update (bytes : List UInt8) :
    rename (attempt.temporary uid) (pathFor uid)
        (Function.update directory (attempt.temporary uid) (some bytes)) =
      attempt.replaced directory uid bytes := by
  funext name
  by_cases moved : name = attempt.temporary uid
  · subst moved
    simp [rename, replaced]
  · by_cases path : name = pathFor uid
    · subst path
      simp [rename, replaced, attempt.pathFor_ne_temporary uid]
    · simp [rename, replaced, moved, path]

/-- Filling the temporary file changes nothing but its content. -/
theorem StoreAttempt.writeAll_spec (bytes : List UInt8) (portions : List Nat) :
    ∀ (written : Nat) (content : List UInt8),
      Stepwise.Ensures (attempt.writeAll (attempt.temporary uid) bytes portions written)
        (Function.update directory (attempt.temporary uid) (some content))
        (attempt.Intact directory uid bytes)
        fun result after =>
          match result with
          | .ok _ => attempt.failure .writeAll = none ∧
              after = Function.update directory (attempt.temporary uid) (some bytes)
          | .error _ => attempt.failure .writeAll ≠ none ∧
              ∃ content, after = Function.update directory (attempt.temporary uid)
                (some content) := by
  induction portions with
  | nil =>
      intro written content
      apply Stepwise.Ensures.check_bind
      · intro error refused
        refine ⟨?_, content, rfl⟩
        simp [refused]
      · intro passed
        apply Stepwise.Ensures.change
        · rw [Function.update_idem]
          exact intact_update bytes _
        · exact ⟨passed, Function.update_idem ..⟩
  | cons portion portions ih =>
      intro written content
      apply Stepwise.Ensures.change_bind
      · rw [Function.update_idem]
        exact intact_update bytes _
      · rw [Function.update_idem]
        exact ih _ _

theorem StoreAttempt.createNew_spec (bytes : List UInt8) :
    Stepwise.Ensures (attempt.createNew (attempt.temporary uid)) directory
      (attempt.Intact directory uid bytes)
      fun result after =>
        match result with
        | .ok _ => (attempt.failure .createTemporary = none ∧
            directory (attempt.temporary uid) = none) ∧
            after = Function.update directory (attempt.temporary uid) (some [])
        | .error _ => ¬ (attempt.failure .createTemporary = none ∧
            directory (attempt.temporary uid) = none) ∧ after = directory := by
  apply Stepwise.Ensures.check_bind
  · intro error refused
    refine ⟨fun passed => ?_, rfl⟩
    simp [passed.1] at refused
  intro passed
  by_cases free : directory (attempt.temporary uid) = none
  · apply Stepwise.Ensures.ask_bind
    · intro error exists_
      simp [free] at exists_
    · intro _ _
      apply Stepwise.Ensures.change
      · exact intact_update bytes _
      · exact ⟨⟨passed, free⟩, rfl⟩
  · apply Stepwise.Ensures.ask_bind
    · intro _ _
      exact ⟨fun both => free both.2, rfl⟩
    · intro value found
      simp [free] at found

/-- Before the cleaning, a temporary file that was created and not renamed is there. -/
theorem StoreAttempt.body_spec (bytes : List UInt8)
    (trusted : attempt.failure .writeDirectory = none)
    (target : attempt.failure .writeTarget = none) :
    Stepwise.Ensures
      (do
        attempt.createNew (attempt.temporary uid)
        attempt.take .verifyTemporary
        attempt.writeAll (attempt.temporary uid) bytes attempt.portions 0
        attempt.take .syncAll
        attempt.take .rename
        Stepwise.change (rename (attempt.temporary uid) (pathFor uid))
        attempt.take .openDirectory
        attempt.take .syncDirectory)
      directory (attempt.Intact directory uid bytes)
      (attempt.Ended directory uid bytes True) := by
  apply Stepwise.Ensures.bind (createNew_spec bytes)
  · rintro error _ ⟨uncreated, rfl⟩
    exact .refused error _ (fun created => uncreated created.2.2) (fun _ _ => rfl) id
  rintro _ _ ⟨⟨passed, free⟩, rfl⟩
  have created : attempt.Creates directory uid := ⟨trusted, target, passed, free⟩
  have stopped : ∀ error content, ¬ attempt.Replaces →
      attempt.Ended directory uid bytes True (.error error)
        (Function.update directory (attempt.temporary uid) (some content)) := by
    intro error content unreplaced
    apply Ended.stopped error _ created unreplaced
    · intro name other
      exact Function.update_of_ne other ..
    · simp
  apply Stepwise.Ensures.check_bind
  · intro error refused
    apply stopped
    intro replaces
    simp [replaces.1] at refused
  intro verified
  apply Stepwise.Ensures.bind (writeAll_spec bytes attempt.portions 0 [])
  · rintro error _ ⟨refused, content, rfl⟩
    apply stopped
    intro replaces
    exact refused replaces.2.1
  rintro _ _ ⟨filled, rfl⟩
  apply Stepwise.Ensures.check_bind
  · intro error refused
    apply stopped
    intro replaces
    simp [replaces.2.2.1] at refused
  intro synced
  apply Stepwise.Ensures.check_bind
  · intro error refused
    apply stopped
    intro replaces
    simp [replaces.2.2.2] at refused
  intro renamed
  have replaces : attempt.Replaces := ⟨verified, filled, synced, renamed⟩
  apply Stepwise.Ensures.change_bind
  · rw [rename_update]
    exact intact_replaced bytes
  rw [rename_update]
  apply Stepwise.Ensures.check_bind
  · intro error refused
    apply Ended.late error created replaces
    intro done
    simp [done.1] at refused
  intro opened
  apply Stepwise.Ensures.check
  · intro done
    exact .done created replaces ⟨opened, done⟩
  · intro error refused
    apply Ended.late error created replaces
    intro done
    simp [done.2] at refused

/-- The cleaning removes what a failure has left, unless it is refused itself. -/
theorem StoreAttempt.removal_spec (bytes : List UInt8) {error : StorageError} {after : Directory}
    (ended : attempt.Ended directory uid bytes True (.error error) after) :
    Stepwise.Ensures
      (do
        attempt.take .removeTemporary
        Stepwise.change fun directory =>
          Function.update directory (attempt.temporary uid) none)
      after (attempt.Intact directory uid bytes)
      fun _ final => attempt.Ended directory uid bytes
        (attempt.failure .removeTemporary ≠ none) (.error error) final := by
  cases ended with
  | refused _ _ uncreated others old =>
      apply Stepwise.Ensures.check_bind
      · intro _ _
        exact .refused error after uncreated others old
      · intro _
        have removed : ∀ name, name ≠ attempt.temporary uid →
            Function.update after (attempt.temporary uid) none name = directory name := by
          intro name other
          rw [Function.update_of_ne other, others name other]
        apply Stepwise.Ensures.change
        · exact ⟨.inl (removed _ (attempt.pathFor_ne_temporary uid)), fun name _ => removed name⟩
        · apply Ended.refused error _ uncreated removed
          simp
  | stopped _ _ created unreplaced others left =>
      apply Stepwise.Ensures.check_bind
      · intro _ refused
        apply Ended.stopped error after created unreplaced others
        simp [left, refused]
      · intro passed
        have removed : ∀ name, name ≠ attempt.temporary uid →
            Function.update after (attempt.temporary uid) none name = directory name := by
          intro name other
          rw [Function.update_of_ne other, others name other]
        apply Stepwise.Ensures.change
        · exact ⟨.inl (removed _ (attempt.pathFor_ne_temporary uid)), fun name _ => removed name⟩
        · apply Ended.stopped error _ created unreplaced removed
          simp [passed]
  | late _ created replaces unsynced =>
      have nothing : Function.update (attempt.replaced directory uid bytes)
          (attempt.temporary uid) none = attempt.replaced directory uid bytes := by
        rw [replaced, Function.update_idem]
      apply Stepwise.Ensures.check_bind
      · intro _ _
        exact .late error created replaces unsynced
      · intro _
        apply Stepwise.Ensures.change
        · rw [nothing]
          exact intact_replaced bytes
        · rw [nothing]
          exact .late error created replaces unsynced

/-- A replacement ends in one of four ways, and the container is whole throughout. -/
theorem StoreAttempt.atomicWrite_spec (bytes : List UInt8) :
    Stepwise.Ensures (attempt.atomicWrite uid bytes) directory
      (attempt.Intact directory uid bytes)
      (attempt.Ended directory uid bytes (attempt.failure .removeTemporary ≠ none)) := by
  apply Stepwise.Ensures.check_bind
  · intro error refused
    refine .refused error directory (fun created => ?_) (fun _ _ => rfl) id
    simp [created.1] at refused
  intro trusted
  apply Stepwise.Ensures.check_bind
  · intro error refused
    refine .refused error directory (fun created => ?_) (fun _ _ => rfl) id
    simp [created.2.1] at refused
  intro target
  apply Stepwise.Ensures.cleanup (body_spec bytes trusted target)
  · intro value after ended
    cases ended with
    | done created replaces synced => exact .done created replaces synced
  · intro error after ended
    exact removal_spec bytes ended

end Replacement

end FaceAuth
