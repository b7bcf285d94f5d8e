import FaceAuth.Storage.AtomicWrite

/-!
# Calls step by step

How a call of a mutation ends when any of its steps may be refused. A call that
nothing refuses is one step of the store.
-/

namespace FaceAuth

open Foundation
open Foundation.Versioned (Cell Mutation Refusal Enabled next_eq_ok_iff)

/-! ## Reading the container -/

section Reading

variable {attempt : StoreAttempt} {text : PayloadText} {cipher : TemplateCipher}
  {directory : Directory} {uid : UInt32}

theorem optionalPayload_of_failure {error : StorageError} (other : error.isNotFound = false) :
    optionalPayload (.error error) = .error error := by
  cases error with
  | io failure =>
      simp only [StorageError.isNotFound, decide_eq_false_iff_not] at other
      rw [optionalPayload, if_neg other]
  | _ => rfl

/-- A reading that is not refused finds what the directory holds. -/
theorem StoreAttempt.readPayload_spec {always : Directory → Prop} :
    Stepwise.Ensures (attempt.readPayload text cipher uid) directory always
      fun result after => after = directory ∧
        ((attempt.Reads directory uid ∧
            result = FaceAuth.readPayload text cipher directory uid) ∨
          (¬ attempt.Reads directory uid ∧
            ∃ error, result = .error error ∧ error.isNotFound = false)) := by
  have stopped : ∀ step error, (attempt.reading step).map Subtype.val = some error →
      ¬ attempt.Reads directory uid →
        directory = directory ∧
        ((attempt.Reads directory uid ∧ (.error error : Except StorageError StoredPayload) =
            FaceAuth.readPayload text cipher directory uid) ∨
          (¬ attempt.Reads directory uid ∧
            ∃ failure, (.error error : Except StorageError StoredPayload) = .error failure ∧
              failure.isNotFound = false)) := by
    intro step error refused unread
    obtain ⟨failure, -, rfl⟩ := Option.map_eq_some_iff.mp refused
    exact ⟨rfl, .inr ⟨unread, failure.val, rfl, failure.property⟩⟩
  apply Stepwise.Ensures.check_bind
  · intro error refused
    refine stopped _ error refused fun reads => ?_
    simp [reads.trusted] at refused
  intro trusted
  apply Stepwise.Ensures.check_bind
  · intro error refused
    refine stopped _ error refused fun reads => ?_
    simp [reads.target] at refused
  intro target
  apply Stepwise.Ensures.check_bind
  · intro error refused
    refine stopped _ error refused fun reads => ?_
    simp [reads.opened] at refused
  intro opened
  simp only [Option.map_eq_none_iff] at trusted target opened
  cases held : directory (pathFor uid) with
  | none =>
      apply Stepwise.Ensures.ask_bind
      · intro error absent
        refine ⟨rfl, .inl ⟨⟨trusted, target, opened, ?_, ?_, ?_⟩, ?_⟩⟩
        · intro present
          exact absurd held present
        · intro present
          exact absurd held present
        · intro encoded present
          rw [held] at present
          cases present
        · rw [FaceAuth.readPayload, absent]
          rfl
      · intro encoded present
        simp [held] at present
  | some encoded =>
      have present : directory (pathFor uid) ≠ none := by simp [held]
      have found : FaceAuth.readPayload text cipher directory uid =
          decodePayload text cipher uid encoded := by
        rw [FaceAuth.readPayload, held]
        rfl
      apply Stepwise.Ensures.ask_bind
      · intro error absent
        simp [held] at absent
      intro value same
      simp only [held, Option.elim_some, Except.ok.injEq] at same
      subst same
      apply Stepwise.Ensures.check_bind
      · intro error refused
        refine stopped _ error refused fun reads => ?_
        simp [reads.verified present] at refused
      intro verified
      apply Stepwise.Ensures.check_bind
      · intro error refused
        refine stopped _ error refused fun reads => ?_
        simp [reads.read present] at refused
      intro read
      simp only [Option.map_eq_none_iff] at verified read
      have reads : (checkHeader encoded = .ok () → attempt.reading .loadKey = none) →
          attempt.Reads directory uid := by
        intro key
        refine ⟨trusted, target, opened, fun _ => verified, fun _ => read, ?_⟩
        intro other same
        rw [held, Option.some.injEq] at same
        exact same ▸ key
      apply Stepwise.Ensures.ask_bind
      · intro error refused
        refine ⟨rfl, .inl ⟨reads fun passed => ?_, ?_⟩⟩
        · rw [refused] at passed
          cases passed
        · rw [found, decodePayload_of_header refused]
      intro _ passed
      apply Stepwise.Ensures.check_bind
      · intro error refused
        refine stopped _ error refused fun reads => ?_
        simp [reads.key encoded held passed] at refused
      intro key
      apply Stepwise.Ensures.ask
      exact ⟨rfl, .inl ⟨reads fun _ => Option.map_eq_none_iff.mp key, found.symm⟩⟩

theorem StoreAttempt.readOptionalPayload_spec {always : Directory → Prop} :
    Stepwise.Ensures (attempt.readOptionalPayload text cipher uid) directory always
      fun result after => after = directory ∧
        match result with
        | .ok current => attempt.Reads directory uid ∧
            FaceAuth.readOptionalPayload text cipher directory uid = .ok current
        | .error _ => ¬ (attempt.Reads directory uid ∧
            ∃ current, FaceAuth.readOptionalPayload text cipher directory uid = .ok current) := by
  apply Stepwise.Ensures.recover readPayload_spec
  rintro result after ⟨rfl, found⟩
  refine ⟨rfl, ?_⟩
  cases found with
  | inl read =>
      obtain ⟨reads, rfl⟩ := read
      have same : optionalPayload (FaceAuth.readPayload text cipher after uid) =
          FaceAuth.readOptionalPayload text cipher after uid := rfl
      rw [same]
      cases answer : FaceAuth.readOptionalPayload text cipher after uid with
      | ok current => exact ⟨reads, rfl⟩
      | error error => simp
  | inr refused =>
      obtain ⟨unread, error, rfl, other⟩ := refused
      rw [optionalPayload_of_failure other]
      exact fun both => unread both.1

end Reading

/-! ## Deciding on a mutation -/

namespace StoreOperation

/-- The check of the record that comes before the lock. -/
def check : StoreOperation → Except StorageError Unit
  | .saveWithGeneration _ record => record.validate
  | .replaceIfGeneration _ _ record => record.validate
  | .delete _ _ => .ok ()
  | .deleteIfGeneration _ _ _ => .ok ()

/-- The generation of the tombstone that a deletion writes. -/
def deletion (current : Option StoredPayload) (expectedGeneration : Option Nat) :
    Except StorageError Nat := do
  let actual ← liveGeneration current
  require (expectedGeneration.all (· = actual) = true)
    (.staleGeneration (expectedGeneration.getD actual) actual)
  nextGeneration actual

/-- The generation that the operation gives to its payload. -/
def decision (current : Option StoredPayload) : StoreOperation → Except StorageError Nat
  | .saveWithGeneration _ _ => nextGeneration (current.elim 0 StoredPayload.generation)
  | .replaceIfGeneration _ expected _ => do
      let actual ← liveGeneration current
      require (actual = expected) (.staleGeneration expected actual)
      nextGeneration actual
  | .delete _ _ => deletion current none
  | .deleteIfGeneration _ _ expected => deletion current (some expected)

variable {operation : StoreOperation} {current : Option StoredPayload}

theorem next_eq :
    (Versioned.next U64_MAX TemplateRecord.validate (cellOf current)
        operation.mutation).mapError refusalError = (do
      operation.check
      let generation ← operation.decision current
      .ok (generation, operation.mutation.result generation)) := by
  have opened : ∀ record : TemplateRecord,
      ((record.validate).mapError Refusal.rejected).mapError refusalError = record.validate :=
    fun record => mapError_mapError_cancel _ _ (fun _ => rfl) _
  cases operation with
  | saveWithGeneration nonce record =>
      simp only [mutation, Versioned.next, mapError_bind, opened, version_cellOf,
        ← nextGeneration_eq, mapError_ok, check, decision]
      rfl
  | replaceIfGeneration nonce expected record =>
      simp only [mutation, Versioned.next, mapError_bind, opened, ← liveGeneration_eq,
        mapError_require, ← nextGeneration_eq, mapError_ok, check, decision, bind_assoc]
      rfl
  | delete nonce uid =>
      simp only [mutation, Versioned.next, mapError_bind, ← liveGeneration_eq,
        mapError_require, ← nextGeneration_eq, mapError_ok, check, decision, deletion, bind_assoc]
      rfl
  | deleteIfGeneration nonce uid expected =>
      simp only [mutation, Versioned.next, mapError_bind, ← liveGeneration_eq,
        mapError_require, ← nextGeneration_eq, mapError_ok, check, decision, deletion, bind_assoc]
      rfl

/-- The check and the decision succeed on the cells that enable the operation. -/
theorem decided_iff {generation : Nat} :
    operation.check = .ok () ∧ operation.decision current = .ok generation ↔
      Enabled U64_MAX TemplateRecord.validate (cellOf current) operation.mutation ∧
        generation = (cellOf current).version + 1 := by
  have answer : ∀ result,
      Versioned.next U64_MAX TemplateRecord.validate (cellOf current) operation.mutation =
          .ok (generation, result) ↔
        (operation.check = .ok () ∧ operation.decision current = .ok generation) ∧
          operation.mutation.result generation = result := by
    intro result
    rw [← @mapError_eq_ok_iff _ _ _ refusalError, next_eq]
    rw [check_bind_eq_ok_iff]
    simp only [bind_eq_ok_iff, Except.ok.injEq, Prod.mk.injEq]
    constructor
    · rintro ⟨checked, _, decided, rfl, same⟩
      exact ⟨⟨checked, decided⟩, same⟩
    · rintro ⟨⟨checked, decided⟩, same⟩
      exact ⟨checked, generation, decided, rfl, same⟩
  constructor
  · intro decided
    obtain ⟨enabled, counted, -⟩ := next_eq_ok_iff.mp ((answer _).mpr ⟨decided, rfl⟩)
    exact ⟨enabled, counted⟩
  · rintro ⟨enabled, counted⟩
    exact ((answer _).mp (next_eq_ok_iff.mpr ⟨enabled, counted, rfl⟩)).1

variable (operation) in
/-- Every operation is one decision on what it reads, followed by its write. -/
theorem perform_eq (attempt : StoreAttempt) (text : PayloadText) (cipher : TemplateCipher) :
    attempt.perform text cipher operation = (do
      Stepwise.ofExcept operation.check
      attempt.withExclusiveUidLock operation.uid do
        let current ← attempt.readOptionalPayload text cipher operation.uid
        let generation ← Stepwise.ofExcept (operation.decision current)
        attempt.writePayload text cipher operation.nonce operation.uid
          (operation.payload generation)
        pure generation) := by
  cases operation with
  | saveWithGeneration nonce record => rfl
  | replaceIfGeneration nonce expected record =>
      simp only [decision, Stepwise.ofExcept_bind_bind]
      rfl
  | delete nonce uid =>
      simp only [check, Stepwise.ofExcept_ok_bind, decision, deletion,
        Stepwise.ofExcept_bind_bind]
      rfl
  | deleteIfGeneration nonce uid expected =>
      simp only [check, Stepwise.ofExcept_ok_bind, decision, deletion,
        Stepwise.ofExcept_bind_bind]
      rfl

end StoreOperation

/-! ## Mutations -/

section Mutations

variable (attempt : StoreAttempt) (text : PayloadText) (cipher : TemplateCipher)
  (directory : Directory) (operation : StoreOperation)

/-- The directory once the account's lock file was opened. -/
def locked (directory : Directory) (uid : UInt32) : Directory :=
  Function.update directory (lockPathFor uid) (some ((directory (lockPathFor uid)).getD []))

/-- The call comes to replace the container: nothing before is refused, and the
container opens as a cell that enables the operation. -/
structure StoreAttempt.Writes : Prop where
  locks : attempt.Locks
  reads : attempt.Reads directory operation.uid
  key : attempt.failure .loadKey = none
  random : attempt.failure .randomNonce = none
  admitted : ∃ cell, Holds text cipher directory operation.uid cell ∧
    Enabled U64_MAX TemplateRecord.validate cell operation.mutation

/-- The complete container that the operation writes over a cell. -/
def NewContainer (cell : Cell TemplateRecord) (encoded : List UInt8) : Prop :=
  Holds text cipher directory operation.uid cell ∧
    encodePayload text cipher operation.nonce operation.uid
      (operation.payload (cell.version + 1)) = .ok encoded

/-- The account's file is the complete old container or the complete new one. -/
def Whole (point : Directory) : Prop :=
  point (pathFor operation.uid) = directory (pathFor operation.uid) ∨
    ∃ cell encoded, NewContainer text cipher directory operation cell encoded ∧
      point (pathFor operation.uid) = some encoded

/-- How a call ends: before its write, or with the replacement of the container. -/
inductive StoreAttempt.Performed : Except StorageError Nat → Directory → Prop where
  | refused (error : StorageError) (after : Directory)
      (unwritten : ¬ attempt.Writes text cipher directory operation)
      (others : ∀ name, name ≠ lockPathFor operation.uid → after name = directory name) :
      Performed (.error error) after
  | written (cell : Cell TemplateRecord) (encoded : List UInt8)
      (outcome : Except StorageError Unit) (after : Directory)
      (writes : attempt.Writes text cipher directory operation)
      (new : NewContainer text cipher directory operation cell encoded)
      (ended : attempt.Ended (locked directory operation.uid) operation.uid encoded
        (attempt.failure .removeTemporary ≠ none) outcome after) :
      Performed (outcome.map fun _ => cell.version + 1) after

variable {attempt text cipher directory operation}

theorem locked_of_ne {uid : UInt32} {name : String} (other : name ≠ lockPathFor uid) :
    locked directory uid name = directory name :=
  Function.update_of_ne other ..

theorem locked_path (uid : UInt32) :
    locked directory uid (pathFor uid) = directory (pathFor uid) :=
  locked_of_ne (pathFor_ne_lockPathFor uid)

theorem StoreAttempt.reads_congr {uid : UInt32} {other : Directory}
    (same : other (pathFor uid) = directory (pathFor uid)) (reads : attempt.Reads other uid) :
    attempt.Reads directory uid where
  trusted := reads.trusted
  target := reads.target
  opened := reads.opened
  verified := same ▸ reads.verified
  read := same ▸ reads.read
  key := same ▸ reads.key

theorem StoreAttempt.creates_locked (uid : UInt32) :
    attempt.Creates (locked directory uid) uid ↔ attempt.Creates directory uid := by
  rw [Creates, Creates, locked_of_ne (attempt.lockPathFor_ne_temporary uid).symm]

theorem readOptionalPayload_locked (uid : UInt32) :
    readOptionalPayload text cipher (locked directory uid) uid =
      readOptionalPayload text cipher directory uid :=
  readOptionalPayload_congr (readPayload_congr (locked_path uid))

/-- An enabled operation seals its payload. -/
theorem sealed_of_enabled {cell : Cell TemplateRecord}
    (enabled : Enabled U64_MAX TemplateRecord.validate cell operation.mutation) :
    validateStoredPayload (operation.payload (cell.version + 1)) operation.uid = .ok () ∧
      ∃ encoded, encodePayload text cipher operation.nonce operation.uid
          (operation.payload (cell.version + 1)) = .ok encoded ∧
        decodePayload text cipher operation.uid encoded =
          .ok (operation.payload (cell.version + 1)) := by
  have valid := @payload_valid operation enabled.1 _ (Nat.succ_ne_zero cell.version)
  refine ⟨valid, decodePayload_encodePayload valid ?_ operation.nonce⟩
  rw [generation_payload]
  exact enabled.2.1

/-- The write of an enabled operation seals its payload and replaces the container. -/
theorem StoreAttempt.writePayload_ensures {cell : Cell TemplateRecord}
    (holds : Holds text cipher directory operation.uid cell)
    (enabled : Enabled U64_MAX TemplateRecord.validate cell operation.mutation)
    (locks : attempt.Locks) (reads : attempt.Reads directory operation.uid) :
    Stepwise.Ensures (do
        attempt.writePayload text cipher operation.nonce operation.uid
          (operation.payload (cell.version + 1))
        pure (cell.version + 1))
      (locked directory operation.uid) (Whole text cipher directory operation)
      (attempt.Performed text cipher directory operation) := by
  obtain ⟨valid, encoded, sealed, -⟩ := @sealed_of_enabled text cipher operation cell enabled
  obtain ⟨plaintext, written, whole⟩ := bind_eq_ok_iff.mp sealed
  have refused : ∀ error, ¬ attempt.Writes text cipher directory operation →
      attempt.Performed text cipher directory operation (.error error)
        (locked directory operation.uid) := by
    intro error unwritten
    exact .refused error _ unwritten fun name other => locked_of_ne other
  refine @Stepwise.Ensures.bind _ _ _ _ _ _ _
    (fun result after => attempt.Performed text cipher directory operation
      (result.map fun _ => cell.version + 1) after) _ _ ?_ ?_ ?_
  · rw [writePayload, valid, Stepwise.ofExcept_ok_bind]
    apply Stepwise.Ensures.check_bind
    · intro error failed
      apply refused error
      intro writes
      simp [writes.key] at failed
    intro key
    rw [written, Stepwise.ofExcept_ok_bind]
    apply Stepwise.Ensures.check_bind
    · intro error failed
      apply refused error
      intro writes
      simp [writes.random] at failed
    intro random
    rw [whole, Stepwise.ofExcept_ok_bind]
    have new : NewContainer text cipher directory operation cell encoded := ⟨holds, sealed⟩
    apply (atomicWrite_spec encoded).mono
    · intro point intact
      cases intact.target with
      | inl old => exact .inl (old.trans (locked_path _))
      | inr stored => exact .inr ⟨cell, encoded, new, stored⟩
    · intro outcome after ended
      exact .written cell encoded outcome after ⟨locks, reads, key, random, cell, holds, enabled⟩
        new ended
  · intro error after performed
    exact performed
  · intro _ after performed
    exact .pure performed

/-- What happens under the lock: the reading, the decision and the write. -/
theorem StoreAttempt.locked_ensures (checked : operation.check = .ok ()) (locks : attempt.Locks) :
    Stepwise.Ensures (do
        let current ← attempt.readOptionalPayload text cipher operation.uid
        let generation ← Stepwise.ofExcept (operation.decision current)
        attempt.writePayload text cipher operation.nonce operation.uid
          (operation.payload generation)
        pure generation)
      (locked directory operation.uid) (Whole text cipher directory operation)
      (attempt.Performed text cipher directory operation) := by
  have refused : ∀ error, ¬ attempt.Writes text cipher directory operation →
      attempt.Performed text cipher directory operation (.error error)
        (locked directory operation.uid) := by
    intro error unwritten
    exact .refused error _ unwritten fun name other => locked_of_ne other
  apply Stepwise.Ensures.bind readOptionalPayload_spec
  · rintro error _ ⟨rfl, unread⟩
    apply refused error
    intro writes
    obtain ⟨cell, ⟨current, read, -⟩, -⟩ := writes.admitted
    exact unread ⟨reads_congr (locked_path _).symm writes.reads, current,
      (readOptionalPayload_locked _).trans read⟩
  rintro current _ ⟨rfl, reads, read⟩
  rw [readOptionalPayload_locked] at read
  have holds : Holds text cipher directory operation.uid (cellOf current) := ⟨current, read, rfl⟩
  apply Stepwise.Ensures.ask_bind
  · intro error undecided
    apply refused error
    intro writes
    obtain ⟨cell, found, enabled⟩ := writes.admitted
    rw [← holds_unique holds found] at enabled
    have decided := (StoreOperation.decided_iff.mpr ⟨enabled, rfl⟩).2
    rw [undecided] at decided
    cases decided
  intro generation decided
  obtain ⟨enabled, rfl⟩ := StoreOperation.decided_iff.mp ⟨checked, decided⟩
  exact writePayload_ensures holds enabled locks (reads_congr (locked_path _) reads)

/-- **How a mutation ends.** It is refused before its write, or it ends as the
replacement of the container does, which is whole throughout. -/
theorem StoreAttempt.perform_spec :
    Stepwise.Ensures (attempt.perform text cipher operation) directory
      (Whole text cipher directory operation)
      (attempt.Performed text cipher directory operation) := by
  rw [StoreOperation.perform_eq]
  apply Stepwise.Ensures.ask_bind
  · intro error unchecked
    refine .refused error _ (fun writes => ?_) fun _ _ => rfl
    obtain ⟨cell, ⟨current, -, rfl⟩, enabled⟩ := writes.admitted
    have checked := (StoreOperation.decided_iff.mpr ⟨enabled, rfl⟩).1
    rw [unchecked] at checked
    cases checked
  intro _ checked
  have before : ∀ error, ¬ attempt.Locks →
      attempt.Performed text cipher directory operation (.error error) directory := by
    intro error free
    exact .refused error _ (fun writes => free writes.locks) fun _ _ => rfl
  have after : ∀ error, ¬ attempt.Locks →
      attempt.Performed text cipher directory operation (.error error)
        (locked directory operation.uid) := by
    intro error free
    exact .refused error _ (fun writes => free writes.locks) fun name other => locked_of_ne other
  apply Stepwise.Ensures.check_bind
  · intro error refused
    exact before error fun locks => (by simp [locks.1] at refused)
  intro prepared
  apply Stepwise.Ensures.check_bind
  · intro error refused
    exact before error fun locks => (by simp [locks.2.1] at refused)
  intro verified
  apply Stepwise.Ensures.check_bind
  · intro error refused
    exact before error fun locks => (by simp [locks.2.2.1] at refused)
  intro opened
  apply Stepwise.Ensures.change_bind
  · exact .inl (locked_path _)
  apply Stepwise.Ensures.check_bind
  · intro error refused
    exact after error fun locks => (by simp [locks.2.2.2.1] at refused)
  intro verifiedOpen
  apply Stepwise.Ensures.check_bind
  · intro error refused
    exact after error fun locks => (by simp [locks.2.2.2.2.1] at refused)
  intro acquired
  apply Stepwise.Ensures.check_bind
  · intro error refused
    exact after error fun locks => (by simp [locks.2.2.2.2.2.1] at refused)
  intro directoryVerified
  apply Stepwise.Ensures.check_bind
  · intro error refused
    exact after error fun locks => (by simp [locks.2.2.2.2.2.2] at refused)
  intro again
  cases checked_ : operation.check with
  | error error =>
      rw [checked_] at checked
      cases checked
  | ok value =>
      exact locked_ensures checked_
        ⟨prepared, verified, opened, verifiedOpen, acquired, directoryVerified, again⟩

/-- What a load finds of a cell. -/
theorem loadWithGeneration_eq_ok_iff {uid : UInt32} {cell : Cell TemplateRecord}
    (holds : Holds text cipher directory uid cell) {versioned : VersionedTemplateRecord} :
    loadWithGeneration text cipher directory uid = .ok versioned ↔
      cell = .live versioned.generation versioned.record := by
  obtain ⟨payload, read, rfl⟩ := holds
  unfold readOptionalPayload at read
  cases found : readPayload text cipher directory uid with
  | ok stored =>
      rw [found, Except.ok.injEq] at read
      subst read
      cases stored with
      | live schemaVersion generation record =>
          have loaded : loadWithGeneration text cipher directory uid =
            .ok ⟨generation, record⟩ := by
            rw [loadWithGeneration, found]
            rfl
          obtain ⟨version, value⟩ := versioned
          simp [loaded, cellOf]
      | deleted schemaVersion generation owner =>
          have absent : loadWithGeneration text cipher directory uid =
              .error (templateNotFound uid) := by
            rw [loadWithGeneration, found]
            rfl
          simp [absent, cellOf]
  | error error =>
      have absent : loadWithGeneration text cipher directory uid = .error error := by
        rw [loadWithGeneration, found]
        rfl
      rw [found] at read
      cases payload with
      | none => simp [absent, cellOf]
      | some stored =>
          cases error with
          | io failure =>
              dsimp only at read
              split at read <;> cases read
          | _ => cases read

theorem loadWithGeneration_congr {uid : UInt32} {other : Directory}
    (same : other (pathFor uid) = directory (pathFor uid)) :
    loadWithGeneration text cipher other uid = loadWithGeneration text cipher directory uid := by
  rw [loadWithGeneration, loadWithGeneration, readPayload_congr same]

/-- A container that was replaced loads as something else. -/
theorem loadWithGeneration_changes {cell : Cell TemplateRecord} {encoded : List UInt8}
    {after : Directory} (new : NewContainer text cipher directory operation cell encoded)
    (enabled : Enabled U64_MAX TemplateRecord.validate cell operation.mutation)
    (stored : after (pathFor operation.uid) = some encoded) :
    loadWithGeneration text cipher after operation.uid ≠
      loadWithGeneration text cipher directory operation.uid := by
  obtain ⟨-, found, sealed, opened⟩ := @sealed_of_enabled text cipher operation cell enabled
  obtain rfl : found = encoded := by
    rw [new.2, Except.ok.injEq] at sealed
    exact sealed.symm
  have result : Holds text cipher after operation.uid
      (operation.mutation.result (cell.version + 1)) := by
    rw [← cellOf_payload]
    exact holds_of_decoded stored opened
  intro same
  cases value : operation.mutation.value with
  | some record =>
      have live : operation.mutation.result (cell.version + 1) =
          .live (cell.version + 1) record := by
        cases mutation : operation.mutation <;> simp_all [Mutation.value, Mutation.result]
      have loaded := (@loadWithGeneration_eq_ok_iff _ _ _ _ _ result
        ⟨cell.version + 1, record⟩).mpr live
      rw [same, loadWithGeneration_eq_ok_iff new.1] at loaded
      have counted := congrArg Cell.version loaded
      simp at counted
  | none =>
      obtain ⟨version, record, live⟩ : ∃ version record, cell = .live version record := by
        cases mutation : operation.mutation with
        | put record => simp [mutation, Mutation.value] at value
        | replace expected record => simp [mutation, Mutation.value] at value
        | remove expected =>
            have present := enabled.2.2
            rw [mutation] at present
            cases expected with
            | none => exact present
            | some version => exact ⟨version, present⟩
      have loaded := (@loadWithGeneration_eq_ok_iff _ _ _ _ _ new.1 ⟨version, record⟩).mpr live
      rw [← same, loadWithGeneration_eq_ok_iff result,
        Mutation.result_of_value_none value] at loaded
      cases loaded

end Mutations

/-! ## Calls that nothing refuses -/

section Calm

variable {attempt : StoreAttempt} {text : PayloadText} {cipher : TemplateCipher}
  {directory : Directory} {operation : StoreOperation}

/-- No step of the call is refused. -/
structure StoreAttempt.Calm (attempt : StoreAttempt) : Prop where
  reading : ∀ step, attempt.reading step = none
  failure : ∀ step, attempt.failure step = none

/-- The operation without its steps: one decision on what it reads, and its write. -/
theorem StoreOperation.perform_eq_decision :
    operation.perform text cipher directory = (do
      operation.check
      let current ← readOptionalPayload text cipher directory operation.uid
      let generation ← operation.decision current
      let written ← writePayload text cipher directory operation.nonce operation.uid
        (operation.payload generation)
      .ok (generation, written)) := by
  cases operation with
  | saveWithGeneration nonce record => rfl
  | replaceIfGeneration nonce expected record =>
      simp only [decision, bind_assoc]
      rfl
  | delete nonce uid =>
      simp only [decision, deletion, bind_assoc]
      rfl
  | deleteIfGeneration nonce uid expected =>
      simp only [decision, deletion, bind_assoc]
      rfl

theorem storeStep_of_perform_error {error : StorageError}
    (failed : operation.perform text cipher directory = .error error) :
    storeStep text cipher directory operation = (.error error, directory) := by
  rw [storeStep, failed]

/-- A replacement that nothing refuses leaves the new container and nothing else. -/
theorem StoreAttempt.Calm.atomicWrite_ensures (calm : attempt.Calm) {uid : UInt32}
    (free : directory (attempt.temporary uid) = none) (bytes : List UInt8) :
    Stepwise.Ensures (attempt.atomicWrite uid bytes) (locked directory uid) (fun _ => True)
      fun result after => result = .ok () ∧ ∀ name, name ≠ lockPathFor uid →
        after name = Function.update directory (pathFor uid) (some bytes) name := by
  have created : attempt.Creates (locked directory uid) uid :=
    (creates_locked uid).mpr ⟨calm.failure _, calm.failure _, calm.failure _, free⟩
  have replaces : attempt.Replaces :=
    ⟨calm.failure _, calm.failure _, calm.failure _, calm.failure _⟩
  apply (atomicWrite_spec bytes).mono
  · intro _ _
    trivial
  · intro result after ended
    cases ended with
    | refused _ _ uncreated _ _ => exact absurd created uncreated
    | stopped _ _ _ unreplaced _ _ => exact absurd replaces unreplaced
    | late _ _ _ unsynced => exact absurd ⟨calm.failure _, calm.failure _⟩ unsynced
    | done _ _ _ =>
        refine ⟨rfl, fun name unlocked => ?_⟩
        by_cases moved : name = attempt.temporary uid
        · subst moved
          rw [replaced, Function.update_self,
            Function.update_of_ne (attempt.pathFor_ne_temporary uid).symm, free]
        · rw [replaced, Function.update_of_ne moved]
          by_cases path : name = pathFor uid
          · subst path
            rw [Function.update_self, Function.update_self]
          · rw [Function.update_of_ne path, Function.update_of_ne path, locked_of_ne unlocked]

/-- A write that nothing refuses is the write of one step of the store. -/
theorem StoreAttempt.Calm.writePayload_ensures (calm : attempt.Calm) {uid : UInt32}
    (free : directory (attempt.temporary uid) = none) (nonce : Nonce) (payload : StoredPayload) :
    Stepwise.Ensures (attempt.writePayload text cipher nonce uid payload) (locked directory uid)
      (fun _ => True) fun result after =>
        match FaceAuth.writePayload text cipher directory nonce uid payload with
        | .error error => result = .error error ∧
            ∀ name, name ≠ lockPathFor uid → after name = directory name
        | .ok written => result = .ok () ∧
            ∀ name, name ≠ lockPathFor uid → after name = written name := by
  have same : ∀ name, name ≠ lockPathFor uid → locked directory uid name = directory name :=
    fun name other => locked_of_ne other
  rw [FaceAuth.writePayload, encodePayload, writePayload]
  cases validateStoredPayload payload uid with
  | error error =>
      rw [Stepwise.ofExcept_error_bind]
      exact .ask ⟨rfl, same⟩
  | ok value =>
      rw [Stepwise.ofExcept_ok_bind, take, calm.failure, Stepwise.check_none_bind]
      cases (text.toVec payload).mapError StorageError.serialization with
      | error error =>
          rw [Stepwise.ofExcept_error_bind]
          exact .ask ⟨rfl, same⟩
      | ok plaintext =>
          rw [Stepwise.ofExcept_ok_bind, take, calm.failure, Stepwise.check_none_bind]
          cases sealed : encodeContainer cipher nonce uid plaintext with
          | error error =>
              rw [Stepwise.ofExcept_error_bind]
              refine .ask ?_
              simp only [bind, Except.bind, sealed]
              exact ⟨trivial, same⟩
          | ok encoded =>
              rw [Stepwise.ofExcept_ok_bind]
              apply (calm.atomicWrite_ensures free encoded).mono (fun _ => id)
              intro result after ended
              simp only [bind, Except.bind, sealed]
              exact ended

theorem StoreAttempt.Calm.readOptionalPayload_ensures (calm : attempt.Calm) {uid : UInt32}
    {always : Directory → Prop} :
    Stepwise.Ensures (attempt.readOptionalPayload text cipher uid) directory always
      fun result after => after = directory ∧
        result = FaceAuth.readOptionalPayload text cipher directory uid := by
  have reads : attempt.Reads directory uid :=
    ⟨calm.reading _, calm.reading _, calm.reading _, fun _ => calm.reading _,
      fun _ => calm.reading _, fun _ _ _ => calm.reading _⟩
  apply Stepwise.Ensures.recover readPayload_spec
  rintro result after ⟨rfl, found⟩
  cases found with
  | inl read => exact ⟨rfl, read.2 ▸ rfl⟩
  | inr refused => exact absurd reads refused.1

/-- **The steps refine the store.** A call that nothing refuses answers as one step of
the store, and leaves the same files beside its lock. -/
theorem StoreAttempt.Calm.refines (calm : attempt.Calm)
    (free : directory (attempt.temporary operation.uid) = none) :
    Stepwise.Ensures (attempt.perform text cipher operation) directory (fun _ => True)
      fun result after => result = (storeStep text cipher directory operation).1 ∧
        ∀ name, name ≠ lockPathFor operation.uid →
          after name = (storeStep text cipher directory operation).2 name := by
  have same : ∀ name, name ≠ lockPathFor operation.uid →
      locked directory operation.uid name = directory name := fun name other => locked_of_ne other
  have whole := @StoreOperation.perform_eq_decision text cipher directory operation
  have failing : ∀ (error : StorageError) (after : Directory),
      operation.perform text cipher directory = .error error →
      (∀ name, name ≠ lockPathFor operation.uid → after name = directory name) →
        (.error error : Except StorageError Nat) =
            (storeStep text cipher directory operation).1 ∧
          ∀ name, name ≠ lockPathFor operation.uid →
            after name = (storeStep text cipher directory operation).2 name := by
    intro error after failed others
    rw [storeStep_of_perform_error failed]
    exact ⟨rfl, others⟩
  rw [StoreOperation.perform_eq]
  cases checked : operation.check with
  | error error =>
      rw [Stepwise.ofExcept_error_bind]
      exact .ask (failing error _ (by rw [whole, checked]; rfl) fun _ _ => rfl)
  | ok value =>
      rw [Stepwise.ofExcept_ok_bind]
      simp only [withExclusiveUidLock, take, calm.failure, Stepwise.check_none_bind]
      apply Stepwise.Ensures.change_bind trivial
      change Stepwise.Ensures _ (locked directory operation.uid) _ _
      rw [checked] at whole
      apply Stepwise.Ensures.bind calm.readOptionalPayload_ensures
      · rintro error _ ⟨rfl, read⟩
        rw [readOptionalPayload_locked] at read
        exact failing error _ (by rw [whole, ← read]; rfl) same
      rintro current _ ⟨rfl, read⟩
      rw [readOptionalPayload_locked] at read
      rw [← read] at whole
      cases decided : operation.decision current with
      | error error =>
          rw [Stepwise.ofExcept_error_bind]
          refine .ask (failing error _ ?_ same)
          rw [whole]
          simp only [bind, Except.bind, decided]
      | ok generation =>
          rw [Stepwise.ofExcept_ok_bind]
          apply Stepwise.Ensures.bind (calm.writePayload_ensures free operation.nonce
            (operation.payload generation))
          · intro error after ended
            cases stored : FaceAuth.writePayload text cipher directory operation.nonce
                operation.uid (operation.payload generation) with
            | ok written =>
                rw [stored] at ended
                cases ended.1
            | error failure =>
                rw [stored] at ended
                obtain ⟨equal, others⟩ := ended
                cases equal
                refine failing error _ ?_ others
                rw [whole]
                simp only [bind, Except.bind, decided, stored]
          · intro value after ended
            cases stored : FaceAuth.writePayload text cipher directory operation.nonce
                operation.uid (operation.payload generation) with
            | error failure =>
                rw [stored] at ended
                cases ended.1
            | ok written =>
                rw [stored] at ended
                have step : storeStep text cipher directory operation =
                    (.ok generation, written) := by
                  rw [storeStep, whole]
                  simp only [bind, Except.bind, decided, stored]
                apply Stepwise.Ensures.pure
                rw [step]
                exact ⟨rfl, ended.2⟩

end Calm

end FaceAuth
