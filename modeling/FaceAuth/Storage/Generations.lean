import FaceAuth.Foundation.Run
import FaceAuth.Foundation.Versioned
import FaceAuth.Storage.Store

/-!
# Generations of the template store

Every account's container is a versioned cell: a mutation counts one generation,
a deletion leaves a tombstone, and a conditional mutation insists on the
generation it was told. The store's operations, in any order, answer as that
cell does.
-/

namespace FaceAuth

open Foundation
open Foundation.Versioned (Cell Mutation Refusal Enabled next_eq_ok_iff enabled_iff_of_expected)

/-- The cell that a payload stands for. A bare record stands at generation zero. -/
def cellOf : Option StoredPayload → Cell TemplateRecord
  | none => .vacant
  | some (.live _ generation record) => .live generation record
  | some (.deleted _ generation _) => .removed generation

/-- A refusal of the abstract cell as an error of the store. -/
def refusalError : Refusal StorageError → StorageError
  | .rejected error => error
  | .stale expected actual => .staleGeneration expected actual
  | .absent last => .templateNotPresent last
  | .exhausted => .generationExhausted

/-- One call of a mutation, made by any client under the account's lock. -/
inductive StoreOperation where
  | saveWithGeneration (nonce : Nonce) (record : TemplateRecord)
  | replaceIfGeneration (nonce : Nonce) (expectedGeneration : Nat) (record : TemplateRecord)
  | delete (nonce : Nonce) (uid : UInt32)
  | deleteIfGeneration (nonce : Nonce) (uid : UInt32) (expectedGeneration : Nat)

namespace StoreOperation

/-- The account that an operation is on. -/
def uid : StoreOperation → UInt32
  | .saveWithGeneration _ record => record.uid
  | .replaceIfGeneration _ _ record => record.uid
  | .delete _ uid => uid
  | .deleteIfGeneration _ uid _ => uid

/-- The nonce that an operation seals with. -/
def nonce : StoreOperation → Nonce
  | .saveWithGeneration nonce _ => nonce
  | .replaceIfGeneration nonce _ _ => nonce
  | .delete nonce _ => nonce
  | .deleteIfGeneration nonce _ _ => nonce

/-- What the operation asks of the account's cell. -/
def mutation : StoreOperation → Mutation TemplateRecord
  | .saveWithGeneration _ record => .put record
  | .replaceIfGeneration _ expected record => .replace expected record
  | .delete _ _ => .remove none
  | .deleteIfGeneration _ _ expected => .remove (some expected)

/-- The payload that the operation writes at a generation. -/
def payload (generation : Nat) : StoreOperation → StoredPayload
  | .saveWithGeneration _ record => .live STORED_PAYLOAD_SCHEMA_VERSION generation record
  | .replaceIfGeneration _ _ record => .live STORED_PAYLOAD_SCHEMA_VERSION generation record
  | .delete _ uid => .deleted STORED_PAYLOAD_SCHEMA_VERSION generation uid
  | .deleteIfGeneration _ uid _ => .deleted STORED_PAYLOAD_SCHEMA_VERSION generation uid

/-- The record that the operation writes, if any, passes its validation. -/
def Valid (operation : StoreOperation) : Prop :=
  ∀ record, operation.mutation.value = some record → record.validate = .ok ()

variable (text : PayloadText) (cipher : TemplateCipher)

/-- The generation and the directory that an operation leaves. -/
def perform (directory : Directory) : StoreOperation → Except StorageError (Nat × Directory)
  | .saveWithGeneration nonce record =>
      FaceAuth.saveWithGeneration text cipher directory nonce record
  | .replaceIfGeneration nonce expected record =>
      FaceAuth.replaceIfGeneration text cipher directory nonce expected record
  | .delete nonce uid => FaceAuth.delete text cipher directory nonce uid
  | .deleteIfGeneration nonce uid expected =>
      FaceAuth.deleteIfGeneration text cipher directory nonce uid expected

end StoreOperation

section Refinement

variable (text : PayloadText) (cipher : TemplateCipher)

/-- One operation on the directory. A refused one has not come to replace a file. -/
def storeStep (directory : Directory) (operation : StoreOperation) :
    Except StorageError Nat × Directory :=
  match operation.perform text cipher directory with
  | .ok (generation, written) => (.ok generation, written)
  | .error error => (.error error, directory)

/-- The account's container stands for the cell. -/
def Holds (directory : Directory) (uid : UInt32) (cell : Cell TemplateRecord) : Prop :=
  ∃ payload, readOptionalPayload text cipher directory uid = .ok payload ∧ cellOf payload = cell

/-- Every account's container is absent, or opens as a bare record, a live
template or a tombstone. -/
def Readable (directory : Directory) : Prop := ∀ uid, ∃ cell, Holds text cipher directory uid cell

variable {text cipher} {directory : Directory} {uid : UInt32}

theorem holds_unique {first second : Cell TemplateRecord}
    (one : Holds text cipher directory uid first) (two : Holds text cipher directory uid second) :
    first = second := by
  obtain ⟨payload, read, rfl⟩ := one
  obtain ⟨other, again, rfl⟩ := two
  rw [read, Except.ok.injEq] at again
  rw [again]

theorem readOptionalPayload_congr {other : Directory}
    (same : readPayload text cipher other uid = readPayload text cipher directory uid) :
    readOptionalPayload text cipher other uid = readOptionalPayload text cipher directory uid := by
  rw [readOptionalPayload, readOptionalPayload, same]

theorem holds_congr {other : Directory} {cell : Cell TemplateRecord}
    (same : readPayload text cipher other uid = readPayload text cipher directory uid) :
    Holds text cipher other uid cell ↔ Holds text cipher directory uid cell := by
  rw [Holds, Holds, readOptionalPayload_congr same]

theorem nextGeneration_eq (generation : Nat) :
    nextGeneration generation =
      (Versioned.advance U64_MAX generation : Except (Refusal StorageError) Nat).mapError
        refusalError := by
  rw [nextGeneration, Versioned.advance]
  cases checkedAdd U64_MAX generation 1 <;> rfl

theorem liveGeneration_eq (current : Option StoredPayload) :
    liveGeneration current =
      (Versioned.held (cellOf current) : Except (Refusal StorageError) Nat).mapError
        refusalError := by
  match current with
  | none => rfl
  | some (.live _ _ _) => rfl
  | some (.deleted _ _ _) => rfl

theorem version_cellOf (current : Option StoredPayload) :
    (cellOf current).version = current.elim 0 StoredPayload.generation := by
  match current with
  | none => rfl
  | some (.live _ _ _) => rfl
  | some (.deleted _ _ _) => rfl

/-- An operation asks the account's cell first, and writes its own payload last. -/
theorem perform_eq (operation : StoreOperation) {current : Option StoredPayload}
    (read : readOptionalPayload text cipher directory operation.uid = .ok current) :
    operation.perform text cipher directory = (do
      let answer ← (Versioned.next U64_MAX TemplateRecord.validate (cellOf current)
        operation.mutation).mapError refusalError
      let written ← writePayload text cipher directory operation.nonce operation.uid
        (operation.payload answer.1)
      .ok (answer.1, written)) := by
  have opened : ∀ record : TemplateRecord,
      ((record.validate).mapError Refusal.rejected).mapError refusalError = record.validate :=
    fun record => mapError_mapError_cancel _ _ (fun _ => rfl) _
  cases operation with
  | saveWithGeneration nonce record =>
      change readOptionalPayload text cipher directory record.uid = .ok current at read
      simp only [StoreOperation.perform, saveWithGeneration, read, StoreOperation.mutation,
        Versioned.next, mapError_bind, opened, version_cellOf, ← nextGeneration_eq, mapError_ok,
        bind_assoc]
      rfl
  | replaceIfGeneration nonce expected record =>
      change readOptionalPayload text cipher directory record.uid = .ok current at read
      simp only [StoreOperation.perform, replaceIfGeneration, read, StoreOperation.mutation,
        Versioned.next, mapError_bind, opened, ← liveGeneration_eq, mapError_require,
        ← nextGeneration_eq, mapError_ok, bind_assoc]
      rfl
  | delete nonce uid =>
      change readOptionalPayload text cipher directory uid = .ok current at read
      simp only [StoreOperation.perform, FaceAuth.delete, deleteInner, read,
        StoreOperation.mutation, Versioned.next, mapError_bind, ← liveGeneration_eq,
        mapError_require, ← nextGeneration_eq, mapError_ok, bind_assoc]
      rfl
  | deleteIfGeneration nonce uid expected =>
      change readOptionalPayload text cipher directory uid = .ok current at read
      simp only [StoreOperation.perform, FaceAuth.deleteIfGeneration, deleteInner, read,
        StoreOperation.mutation, Versioned.next, mapError_bind, ← liveGeneration_eq,
        mapError_require, ← nextGeneration_eq, mapError_ok, bind_assoc]
      rfl

theorem cellOf_payload (operation : StoreOperation) (generation : Nat) :
    cellOf (some (operation.payload generation)) = operation.mutation.result generation := by
  cases operation <;> rfl

theorem generation_payload (operation : StoreOperation) (generation : Nat) :
    (operation.payload generation).generation = generation := by
  cases operation <;> rfl

/-- What an enabled operation writes is a valid payload of its account. -/
theorem payload_valid {operation : StoreOperation} (valid : operation.Valid) {generation : Nat}
    (positive : generation ≠ 0) :
    validateStoredPayload (operation.payload generation) operation.uid = .ok () := by
  have live : ∀ record : TemplateRecord, record.validate = .ok () →
      validateStoredPayload (.live STORED_PAYLOAD_SCHEMA_VERSION generation record) record.uid =
        .ok () := by
    intro record sound
    simp only [validateStoredPayload, check_bind_eq_ok_iff, require_eq_ok_iff]
    exact ⟨⟨trivial, positive⟩, sound, trivial⟩
  have deleted : ∀ uid : UInt32, validateStoredPayload
      (.deleted STORED_PAYLOAD_SCHEMA_VERSION generation uid) uid = .ok () := by
    intro uid
    simp only [validateStoredPayload, require_eq_ok_iff]
    exact ⟨trivial, positive, trivial⟩
  cases operation with
  | saveWithGeneration nonce record => exact live record (valid record rfl)
  | replaceIfGeneration nonce expected record => exact live record (valid record rfl)
  | delete nonce uid => exact deleted uid
  | deleteIfGeneration nonce uid expected => exact deleted uid

/-- An enabled operation writes the next generation into its own container. -/
theorem storeStep_of_ok {operation : StoreOperation} {cell result : Cell TemplateRecord}
    {generation : Nat} (holds : Holds text cipher directory operation.uid cell)
    (done : Versioned.next U64_MAX TemplateRecord.validate cell operation.mutation =
      .ok (generation, result)) :
    ∃ written, storeStep text cipher directory operation = (.ok generation, written) ∧
      Holds text cipher written operation.uid result ∧
      ∀ other, other ≠ operation.uid →
        readPayload text cipher written other = readPayload text cipher directory other := by
  obtain ⟨current, read, rfl⟩ := holds
  obtain ⟨⟨valid, room, -⟩, rfl, rfl⟩ := next_eq_ok_iff.mp done
  have counted : (operation.payload ((cellOf current).version + 1)).generation ≤ U64_MAX := by
    rw [generation_payload]
    exact room
  obtain ⟨written, stored, reads, frame⟩ := writePayload_spec
    (payload_valid valid (Nat.succ_ne_zero _)) counted operation.nonce
  refine ⟨written, ?_, ⟨some (operation.payload _), ?_, cellOf_payload operation _⟩, frame⟩
  · rw [storeStep, perform_eq operation read, done, mapError_ok]
    change (match (writePayload text cipher directory operation.nonce operation.uid
      (operation.payload ((cellOf current).version + 1)) >>= fun written =>
        .ok ((cellOf current).version + 1, written)) with
      | .ok (generation, written) => (Except.ok generation, written)
      | .error error => (Except.error error, directory)) = _
    rw [stored]
    rfl
  · rw [readOptionalPayload, reads]

/-- An operation that is not enabled is refused and replaces nothing. -/
theorem storeStep_of_error {operation : StoreOperation} {cell : Cell TemplateRecord}
    {refusal : Refusal StorageError} (holds : Holds text cipher directory operation.uid cell)
    (refused : Versioned.next U64_MAX TemplateRecord.validate cell operation.mutation =
      .error refusal) :
    storeStep text cipher directory operation = (.error (refusalError refusal), directory) := by
  obtain ⟨current, read, rfl⟩ := holds
  rw [storeStep, perform_eq operation read, refused]
  rfl

variable (text cipher) in
/-- Every account's container stands for the account's cell. -/
def Represents (directory : Directory) (cells : UInt32 → Cell TemplateRecord) : Prop :=
  ∀ uid, Holds text cipher directory uid (cells uid)

/-- **The store refines versioned cells.** An operation answers as the cell of its
account does, and leaves containers that stand for the cells afterwards. -/
theorem storeStep_refines {cells : UInt32 → Cell TemplateRecord}
    (represents : Represents text cipher directory cells) (operation : StoreOperation) :
    (storeStep text cipher directory operation).1 =
      (Versioned.step U64_MAX TemplateRecord.validate cells
        (operation.uid, operation.mutation)).1.mapError refusalError ∧
    Represents text cipher (storeStep text cipher directory operation).2
      (Versioned.step U64_MAX TemplateRecord.validate cells
        (operation.uid, operation.mutation)).2 := by
  cases answer : Versioned.next U64_MAX TemplateRecord.validate (cells operation.uid)
      operation.mutation with
  | error refusal =>
      rw [storeStep_of_error (represents operation.uid) answer, Versioned.step_of_error answer]
      exact ⟨rfl, represents⟩
  | ok done =>
      obtain ⟨generation, result⟩ := done
      obtain ⟨written, taken, own, frame⟩ := storeStep_of_ok (represents operation.uid) answer
      rw [taken, Versioned.step_of_ok answer]
      refine ⟨rfl, fun uid => ?_⟩
      change Holds text cipher written uid (Function.update cells operation.uid result uid)
      by_cases same : uid = operation.uid
      · subst same
        rw [Function.update_self]
        exact own
      · rw [Function.update_of_ne same]
        exact (holds_congr (frame uid same)).mpr (represents uid)

/-! ## Starting payloads -/

theorem holds_absent (missing : directory (pathFor uid) = none) :
    Holds text cipher directory uid .vacant := by
  refine ⟨none, ?_, rfl⟩
  rw [readOptionalPayload, readPayload, missing]
  rfl

theorem holds_of_decoded {encoded : List UInt8} {payload : StoredPayload}
    (present : directory (pathFor uid) = some encoded)
    (decoded : decodePayload text cipher uid encoded = .ok payload) :
    Holds text cipher directory uid (cellOf (some payload)) := by
  have read : readPayload text cipher directory uid = .ok payload := by
    rw [readPayload, present]
    exact decoded
  exact ⟨some payload, by rw [readOptionalPayload, read], rfl⟩

variable (text cipher directory uid) in
/-- What an account's file may hold before the first operation. -/
inductive Starting : Prop where
  | absent (missing : directory (pathFor uid) = none)
  | legacy (nonce : Nonce) (record : TemplateRecord) (encoded : List UInt8)
      (valid : record.validate = .ok ()) (owner : record.uid = uid)
      (sealed : encodeLegacyRecord text cipher nonce record = .ok encoded)
      (present : directory (pathFor uid) = some encoded)
  | stored (nonce : Nonce) (payload : StoredPayload) (encoded : List UInt8)
      (valid : validateStoredPayload payload uid = .ok ())
      (counted : payload.generation ≤ U64_MAX)
      (sealed : encodePayload text cipher nonce uid payload = .ok encoded)
      (present : directory (pathFor uid) = some encoded)

/-- An absent file, a bare record, a live template and a tombstone all open. -/
theorem readable_of_starting (starting : ∀ uid, Starting text cipher directory uid) :
    Readable text cipher directory := by
  intro uid
  cases starting uid with
  | absent missing => exact ⟨_, holds_absent missing⟩
  | legacy nonce record encoded valid owner sealed present =>
      subst owner
      obtain ⟨found, again, opened⟩ := decodePayload_encodeLegacyRecord valid nonce
      rw [sealed, Except.ok.injEq] at again
      subst again
      exact ⟨_, holds_of_decoded present opened⟩
  | stored nonce payload encoded valid counted sealed present =>
      obtain ⟨found, again, opened⟩ := decodePayload_encodePayload valid counted nonce
      rw [sealed, Except.ok.injEq] at again
      subst again
      exact ⟨_, holds_of_decoded present opened⟩

/-- What the read-only operations report about a cell. -/
theorem load_of_holds {cell : Cell TemplateRecord} (holds : Holds text cipher directory uid cell) :
    (∀ record, load text cipher directory uid = .ok record ↔ cell.value = some record) ∧
      hasAuthenticatedTemplate text cipher directory uid = .ok cell.value.isSome := by
  obtain ⟨payload, read, rfl⟩ := holds
  unfold readOptionalPayload at read
  cases found : readPayload text cipher directory uid with
  | ok stored =>
      rw [found, Except.ok.injEq] at read
      subst read
      cases stored with
      | live schemaVersion generation record =>
          have loaded : load text cipher directory uid = .ok record := by
            rw [load, loadWithGeneration, found]
            rfl
          refine ⟨fun other => ?_, ?_⟩
          · rw [loaded, Except.ok.injEq, cellOf, Cell.value, Option.some.injEq]
          · rw [hasAuthenticatedTemplate, loaded]
            rfl
      | deleted schemaVersion generation owner =>
          have absent : load text cipher directory uid = .error (templateNotFound uid) := by
            rw [load, loadWithGeneration, found]
            rfl
          refine ⟨fun other => ?_, ?_⟩
          · rw [absent]
            exact ⟨fun same => (by cases same), fun same => (by cases same)⟩
          · rw [hasAuthenticatedTemplate, absent]
            rfl
  | error error =>
      have absent : load text cipher directory uid = .error error := by
        rw [load, loadWithGeneration, found]
        rfl
      rw [found] at read
      cases error with
      | io failure =>
          by_cases missing : failure.kind = .notFound
          · simp only [missing, if_true, Except.ok.injEq] at read
            subst read
            refine ⟨fun other => ?_, ?_⟩
            · rw [absent]
              exact ⟨fun same => (by cases same), fun same => (by cases same)⟩
            · simp only [hasAuthenticatedTemplate, absent, missing, if_true]
              rfl
          · simp only [missing, if_false] at read
            cases read
      | _ => cases read

end Refinement

/-! ## Runs -/

section Runs

variable {text : PayloadText} {cipher : TemplateCipher} {directory : Directory}
  {operation : StoreOperation}

/-- A success found an enabled cell, counted one generation and touched no other
account. -/
theorem storeStep_success (readable : Readable text cipher directory) {generation : Nat}
    (succeeded : (storeStep text cipher directory operation).1 = .ok generation) :
    ∃ cell, Holds text cipher directory operation.uid cell ∧
      Enabled U64_MAX TemplateRecord.validate cell operation.mutation ∧
      generation = cell.version + 1 ∧
      Holds text cipher (storeStep text cipher directory operation).2 operation.uid
        (operation.mutation.result generation) ∧
      ∀ other, other ≠ operation.uid →
        readPayload text cipher (storeStep text cipher directory operation).2 other =
          readPayload text cipher directory other := by
  obtain ⟨cell, holds⟩ := readable operation.uid
  cases answer : Versioned.next U64_MAX TemplateRecord.validate cell operation.mutation with
  | error refusal =>
      rw [storeStep_of_error holds answer] at succeeded
      cases succeeded
  | ok done =>
      obtain ⟨found, result⟩ := done
      obtain ⟨written, taken, own, frame⟩ := storeStep_of_ok holds answer
      obtain ⟨enabled, counted, rfl⟩ := next_eq_ok_iff.mp answer
      rw [taken] at succeeded ⊢
      cases succeeded
      exact ⟨cell, holds, enabled, counted, own, frame⟩

/-- An operation that its cell enables succeeds. -/
theorem storeStep_of_enabled {cell : Cell TemplateRecord}
    (holds : Holds text cipher directory operation.uid cell)
    (enabled : Enabled U64_MAX TemplateRecord.validate cell operation.mutation) :
    (storeStep text cipher directory operation).1 = .ok (cell.version + 1) := by
  obtain ⟨written, taken, -⟩ := storeStep_of_ok holds (next_eq_ok_iff.mpr ⟨enabled, rfl, rfl⟩)
  rw [taken]

/-- A refusal leaves the directory as it was. -/
theorem storeStep_refused {error : StorageError}
    (refused : (storeStep text cipher directory operation).1 = .error error) :
    (storeStep text cipher directory operation).2 = directory := by
  unfold storeStep at refused ⊢
  split
  · rename_i done
    rw [done] at refused
    cases refused
  · rfl

/-- The version of an account's cell never decreases. -/
theorem storeStep_version (readable : Readable text cipher directory) {uid : UInt32}
    {cell : Cell TemplateRecord} (holds : Holds text cipher directory uid cell)
    (operation : StoreOperation) :
    ∃ next, Holds text cipher (storeStep text cipher directory operation).2 uid next ∧
      cell.version ≤ next.version := by
  cases output : (storeStep text cipher directory operation).1 with
  | error error => exact ⟨cell, by rw [storeStep_refused output]; exact holds, Nat.le_refl _⟩
  | ok generation =>
      obtain ⟨found, before, -, counted, after, frame⟩ := storeStep_success readable output
      by_cases same : uid = operation.uid
      · subst same
        refine ⟨_, after, ?_⟩
        rw [holds_unique holds before, Mutation.version_result, counted]
        exact Nat.le_succ _
      · exact ⟨cell, (holds_congr (frame uid same)).mpr holds, Nat.le_refl _⟩

theorem readable_preserved : Preserved (storeStep text cipher) (Readable text cipher) := by
  intro directory operation readable uid
  obtain ⟨cell, holds⟩ := readable uid
  obtain ⟨next, after, -⟩ := storeStep_version readable holds operation
  exact ⟨next, after⟩

variable {initial : Directory} {operations : List StoreOperation}
  {entry : Entry Directory StoreOperation (Except StorageError Nat)}

theorem run_increments (readable : Readable text cipher initial)
    (member : entry ∈ run (storeStep text cipher) initial operations) {generation : Nat}
    (output : entry.output = .ok generation) :
    ∃ cell, Holds text cipher entry.before entry.action.uid cell ∧
      generation = cell.version + 1 ∧
      Holds text cipher entry.after entry.action.uid
        (entry.action.mutation.result generation) := by
  obtain ⟨answer, after⟩ := run_entry _ member
  have sound := readable_preserved.before readable member
  obtain ⟨cell, before, -, counted, own, -⟩ := storeStep_success sound (answer.symm.trans output)
  exact ⟨cell, before, counted, after ▸ own⟩

theorem run_conditional (readable : Readable text cipher initial)
    (member : entry ∈ run (storeStep text cipher) initial operations) {expected : Nat}
    (insists : entry.action.mutation.expected = some expected) (valid : entry.action.Valid) :
    (∃ generation, entry.output = .ok generation) ↔
      expected < U64_MAX ∧
        ∃ record, Holds text cipher entry.before entry.action.uid (.live expected record) := by
  obtain ⟨answer, -⟩ := run_entry _ member
  have sound := readable_preserved.before readable member
  rw [answer]
  constructor
  · rintro ⟨generation, output⟩
    obtain ⟨cell, before, enabled, -⟩ := storeStep_success sound output
    obtain ⟨room, record, rfl⟩ := (enabled_iff_of_expected insists valid).mp enabled
    exact ⟨room, record, before⟩
  · rintro ⟨room, record, before⟩
    have enabled := (enabled_iff_of_expected insists valid).mpr ⟨room, record, rfl⟩
    exact ⟨_, storeStep_of_enabled before enabled⟩

theorem run_isolated (readable : Readable text cipher initial)
    (member : entry ∈ run (storeStep text cipher) initial operations) {uid : UInt32}
    (foreign : uid ≠ entry.action.uid) :
    readPayload text cipher entry.after uid = readPayload text cipher entry.before uid := by
  obtain ⟨answer, after⟩ := run_entry _ member
  have sound := readable_preserved.before readable member
  rw [after]
  cases output : (storeStep text cipher entry.before entry.action).1 with
  | error error => rw [storeStep_refused output]
  | ok generation =>
      obtain ⟨cell, -, -, -, -, frame⟩ := storeStep_success sound output
      exact frame uid foreign

/-- A conditional success is given the successor of what it expected. -/
theorem run_expected (readable : Readable text cipher initial)
    (member : entry ∈ run (storeStep text cipher) initial operations) {expected generation : Nat}
    (insists : entry.action.mutation.expected = some expected)
    (output : entry.output = .ok generation) : generation = expected + 1 := by
  obtain ⟨answer, -⟩ := run_entry _ member
  have sound := readable_preserved.before readable member
  obtain ⟨cell, -, enabled, counted, -⟩ := storeStep_success sound (answer.symm.trans output)
  obtain ⟨-, record, live⟩ := (enabled_iff_of_expected insists enabled.1).mp enabled
  rw [counted, live, Cell.version_live]

variable (text cipher) in
/-- A state in which the entry's generation, if it was given one, is counted. -/
def Counted (entry : Entry Directory StoreOperation (Except StorageError Nat))
    (directory : Directory) : Prop :=
  ∀ generation, entry.output = .ok generation →
    ∃ cell, Holds text cipher directory entry.action.uid cell ∧ generation ≤ cell.version

/-- Two successes for one account come with increasing generations, and the later one
does not expect less than the earlier one was given. -/
theorem run_ordered (readable : Readable text cipher initial)
    (operations : List StoreOperation) :
    (run (storeStep text cipher) initial operations).Pairwise fun earlier later =>
      ∀ first second, earlier.action.uid = later.action.uid → earlier.output = .ok first →
        later.output = .ok second → first < second ∧
          ∀ expected, later.action.mutation.expected = some expected → first ≤ expected := by
  have opens : ∀ directory operation, Readable text cipher directory →
      Counted text cipher (entryAt (storeStep text cipher) directory operation)
        (storeStep text cipher directory operation).2 := by
    intro directory operation sound generation output
    obtain ⟨cell, -, -, -, after, -⟩ := storeStep_success sound output
    exact ⟨_, after, Nat.le_of_eq (Mutation.version_result _ _).symm⟩
  have kept : ∀ entry directory operation, Readable text cipher directory →
      Counted text cipher entry directory →
        Counted text cipher entry (storeStep text cipher directory operation).2 := by
    intro entry directory operation sound counted generation output
    obtain ⟨cell, holds, bound⟩ := counted generation output
    obtain ⟨next, after, grows⟩ := storeStep_version sound holds operation
    exact ⟨next, after, Nat.le_trans bound grows⟩
  refine run_pairwise readable_preserved opens kept ?_ readable operations
  intro entry directory operation sound counted first second same one two
  obtain ⟨cell, holds, bound⟩ := counted first one
  obtain ⟨found, before, enabled, more, -⟩ := storeStep_success sound two
  have agree : cell = found := holds_unique (same ▸ holds) before
  rw [agree] at bound
  refine ⟨by omega, ?_⟩
  intro expected insists
  obtain ⟨-, record, live⟩ := (enabled_iff_of_expected insists enabled.1).mp enabled
  rw [live] at bound
  exact bound

end Runs

/-- What a store promises over any interleaving of its mutations. -/
structure GenerationContract (text : PayloadText) (cipher : TemplateCipher)
    (initial : Directory) (operations : List StoreOperation) : Prop where
  /-- The answers are those of one versioned cell for each account, in the same order. -/
  linearizable : ∀ cells, Represents text cipher initial cells →
    List.Forall₂ (fun answer answer' => answer = answer'.mapError refusalError)
      ((run (storeStep text cipher) initial operations).map Entry.output)
      ((run (Versioned.step U64_MAX TemplateRecord.validate) cells
        (operations.map fun operation => (operation.uid, operation.mutation))).map Entry.output)
  /-- A success raises the generation of its account by exactly one. -/
  increments : ∀ entry ∈ run (storeStep text cipher) initial operations, ∀ generation,
    entry.output = .ok generation →
      ∃ cell, Holds text cipher entry.before entry.action.uid cell ∧
        generation = cell.version + 1 ∧
        Holds text cipher entry.after entry.action.uid
          (entry.action.mutation.result generation)
  /-- A conditional operation with a valid record succeeds exactly when the template
  is live at the expected generation, which has a successor. -/
  conditional : ∀ entry ∈ run (storeStep text cipher) initial operations, ∀ expected,
    entry.action.mutation.expected = some expected → entry.action.Valid →
      ((∃ generation, entry.output = .ok generation) ↔
        expected < U64_MAX ∧
          ∃ record, Holds text cipher entry.before entry.action.uid (.live expected record))
  /-- Of the conditional operations that expect one generation at most one succeeds. -/
  singleWinner : (run (storeStep text cipher) initial operations).Pairwise
    fun earlier later => ∀ expected,
      earlier.action.uid = later.action.uid →
      earlier.action.mutation.expected = some expected →
      later.action.mutation.expected = some expected →
        ¬ ((∃ generation, earlier.output = .ok generation) ∧
          ∃ generation, later.output = .ok generation)
  /-- A deletion leaves a tombstone with its generation and no record. -/
  tombstone : ∀ entry ∈ run (storeStep text cipher) initial operations, ∀ generation,
    entry.output = .ok generation → entry.action.mutation.value = none →
      Holds text cipher entry.after entry.action.uid (.removed generation)
  /-- No generation of an account is given out twice. -/
  noReuse : (run (storeStep text cipher) initial operations).Pairwise
    fun earlier later => ∀ first second,
      earlier.action.uid = later.action.uid →
      earlier.output = .ok first → later.output = .ok second → first < second
  /-- A refused operation leaves every container as it was. -/
  refused : ∀ entry ∈ run (storeStep text cipher) initial operations, ∀ error,
    entry.output = .error error → entry.after = entry.before
  /-- An operation never changes what another account loads. -/
  isolated : ∀ entry ∈ run (storeStep text cipher) initial operations, ∀ uid,
    uid ≠ entry.action.uid →
      loadWithGeneration text cipher entry.after uid =
        loadWithGeneration text cipher entry.before uid
  /-- In every state reached a template is reported exactly when it is live. -/
  reported : ∀ first second, operations = first ++ second → ∀ uid,
    ∃ cell, Holds text cipher (final (storeStep text cipher) initial first) uid cell ∧
      (∀ record, load text cipher (final (storeStep text cipher) initial first) uid = .ok record ↔
        cell.value = some record) ∧
      hasAuthenticatedTemplate text cipher (final (storeStep text cipher) initial first) uid =
        .ok cell.value.isSome

/-- **Generations over any interleaving.** From containers that open, every sequence
of mutations by any number of clients keeps the generation contract. -/
theorem generation_contract (text : PayloadText) (cipher : TemplateCipher) (initial : Directory)
    (readable : Readable text cipher initial) (operations : List StoreOperation) :
    GenerationContract text cipher initial operations where
  linearizable := by
    intro cells represents
    have follows : ∀ directory cells operation, Represents text cipher directory cells → _ :=
      fun directory cells operation related => storeStep_refines related operation
    exact (run_simulation follows represents operations).1
  increments := fun entry member generation => run_increments readable member
  conditional := fun entry member expected => run_conditional readable member
  singleWinner := by
    refine (run_ordered readable operations).imp_of_mem ?_
    rintro earlier later member - ordered expected same first second ⟨⟨one, won⟩, two, also⟩
    have bound := (ordered one two same won also).2 expected second
    have given := run_expected readable member first won
    omega
  tombstone := by
    intro entry member generation output deletes
    obtain ⟨cell, -, -, after⟩ := run_increments readable member output
    rwa [Mutation.result_of_value_none deletes] at after
  noReuse := by
    apply (run_ordered readable operations).imp
    intro earlier later ordered first second same one two
    exact (ordered first second same one two).1
  refused := by
    intro entry member error output
    obtain ⟨answer, after⟩ := run_entry _ member
    rw [after]
    exact storeStep_refused (answer.symm.trans output)
  isolated := by
    intro entry member uid foreign
    rw [loadWithGeneration, loadWithGeneration, run_isolated readable member foreign]
  reported := by
    rintro first second rfl uid
    obtain ⟨cell, holds⟩ := readable_preserved.final readable first uid
    exact ⟨cell, holds, load_of_holds holds⟩

/-- A nonce of equal bytes. -/
def Nonce.test : Nonce := ⟨List.replicate NONCE_LENGTH 7, rfl⟩

/-- Two replacements race for a bare record, which is then deleted and enrolled
again. -/
theorem generation_contract_legacy :
    ∃ encoded, encodeLegacyRecord compactText plainCipher Nonce.test TemplateRecord.test =
        .ok encoded ∧
      GenerationContract compactText plainCipher
        (Function.update (fun _ => none) (pathFor 1000) (some encoded))
        [.replaceIfGeneration Nonce.test 0 TemplateRecord.test,
          .replaceIfGeneration Nonce.test 0 TemplateRecord.test,
          .deleteIfGeneration Nonce.test 1000 1,
          .saveWithGeneration Nonce.test TemplateRecord.test] := by
  obtain ⟨encoded, sealed, -⟩ :=
    decodePayload_encodeLegacyRecord TemplateRecord.test_valid Nonce.test
  refine ⟨encoded, sealed, generation_contract compactText plainCipher _ ?_ _⟩
  apply readable_of_starting
  intro uid
  by_cases same : uid = 1000
  · subst same
    exact .legacy Nonce.test TemplateRecord.test encoded TemplateRecord.test_valid rfl sealed
      (Function.update_self _ _ _)
  · apply Starting.absent
    exact Function.update_of_ne (fun equal => same (pathFor_injective equal)) _ _

end FaceAuth
