import FaceAuth.Foundation.Threads
import FaceAuth.Storage.Record

/-!
# The file key

Any number of calls load the machine key from one path at the same time. The
first that finds no file creates it and then fills it, and each step of each
call may be refused.
-/

namespace FaceAuth

open Foundation

/-- The bytes of a key. -/
def KEY_LENGTH : Nat := 32

/-- Secret key held for the duration of one storage operation. -/
structure SecretKey where
  bytes : List UInt8
  length : bytes.length = KEY_LENGTH
deriving DecidableEq

namespace SecretKey

/-- Construct a key from exactly 32 bytes. -/
def fromSlice (bytes : List UInt8) : Except KeyError SecretKey :=
  if length : bytes.length = KEY_LENGTH then .ok ⟨bytes, length⟩
  else .error (.invalidLength KEY_LENGTH bytes.length)

theorem fromSlice_bytes (key : SecretKey) : fromSlice key.bytes = .ok key := dif_pos key.length

theorem fromSlice_eq_ok_iff {bytes : List UInt8} {key : SecretKey} :
    fromSlice bytes = .ok key ↔ bytes = key.bytes := by
  constructor
  · intro made
    unfold fromSlice at made
    split at made
    · cases made
      rfl
    · cases made
  · rintro rfl
    exact key.fromSlice_bytes

theorem fromSlice_eq_error_iff {bytes : List UInt8} {error : KeyError} :
    fromSlice bytes = .error error ↔
      bytes.length ≠ KEY_LENGTH ∧ error = .invalidLength KEY_LENGTH bytes.length := by
  unfold fromSlice
  split <;> simp_all [eq_comm]

end SecretKey

/-- Why a key path is not trusted or cannot be used. -/
inductive KeyPathError where
  | io (error : IoError)
  | unsafeOwner (path : String) (expectedUid actualUid : UInt32)
  | unsafePermissions (path : String) (mode : Nat)
  | unsafePathType (path : String)
  | symlink (path : String)
deriving DecidableEq

/-- The same violation as an error of the key. -/
def KeyPathError.keyError : KeyPathError → KeyError
  | .io error => .io error
  | .unsafeOwner path expectedUid actualUid => .unsafeOwner path expectedUid actualUid
  | .unsafePermissions path mode => .unsafePermissions path mode
  | .unsafePathType path => .unsafePathType path
  | .symlink path => .symlink path

theorem KeyPathError.keyError_ne (error : KeyPathError) (expected actual : Nat) :
    error.keyError ≠ .invalidLength expected actual := by
  cases error <;> simp [keyError]

/-- The key file, if there is one, and the call that created it, if one of the calls did. -/
structure KeyFile where
  content : Option (List UInt8)
  creator : Option Nat
deriving DecidableEq

/-- Where one call of `load_key` stands. -/
inductive KeyFileCall where
  | idle
  | verifyingPath
  | opening
  | verifyingOpen
  | reading (bytes : List UInt8)
  | drawing
  | creating (key : SecretKey)
  | verifyingCreated (key : SecretKey)
  | writing (key : SecretKey) (written : Nat)
  | synchronizing (key : SecretKey)
  | returned (result : Except KeyError SecretKey)
deriving DecidableEq

/-- What one step of a call finds: it succeeds, it is refused, the random source gives
bytes, or so many bytes are read or written. -/
inductive KeyFileChoice where
  | succeeds
  | refused (error : KeyPathError)
  | exhausted (detail : String)
  | draws (key : SecretKey)
  | moves (count : Nat)

namespace KeyFile

/-- A call begins. -/
def begin (file : KeyFile) : KeyFileChoice → Option (KeyFile × KeyFileCall)
  | .succeeds => some (file, .verifyingPath)
  | _ => none

/-- A step that only passes or is refused. -/
def pass (file : KeyFile) (next : KeyFileCall) : KeyFileChoice → Option (KeyFile × KeyFileCall)
  | .succeeds => some (file, next)
  | .refused error => some (file, .returned (.error error.keyError))
  | _ => none

/-- Open the key file. A file that is not there is to be created. -/
def openRead (file : KeyFile) : KeyFileChoice → Option (KeyFile × KeyFileCall)
  | .succeeds => some (file, if file.content.isSome then .verifyingOpen else .drawing)
  | .refused (.io error) =>
      some (file, if error.kind = .notFound then .drawing else .returned (.error (.io error)))
  | _ => none

/-- Read what comes next, up to the end of the file. -/
def readOn (file : KeyFile) (bytes : List UInt8) : KeyFileChoice → Option (KeyFile × KeyFileCall)
  | .moves count =>
      let rest := (file.content.getD []).drop bytes.length
      if rest = [] then some (file, .returned (SecretKey.fromSlice bytes))
      else if count = 0 then none
      else some (file, .reading (bytes ++ rest.take count))
  | .refused error => some (file, .returned (.error error.keyError))
  | _ => none

/-- Draw the bytes of a new key. -/
def draw (file : KeyFile) : KeyFileChoice → Option (KeyFile × KeyFileCall)
  | .draws key => some (file, .creating key)
  | .exhausted detail => some (file, .returned (.error (.random detail)))
  | _ => none

/-- Create the key file. If it is there by now, the call begins again. -/
def createNew (index : Nat) (file : KeyFile) (key : SecretKey) :
    KeyFileChoice → Option (KeyFile × KeyFileCall)
  | .succeeds =>
      some (if file.content.isSome then (file, .verifyingPath)
        else (⟨some [], some index⟩, .verifyingCreated key))
  | .refused (.io error) => some (file,
      if error.kind = .alreadyExists then .verifyingPath else .returned (.error (.io error)))
  | _ => none

/-- Write the next bytes of the key behind those that are written. -/
def writeOn (file : KeyFile) (key : SecretKey) (written : Nat) :
    KeyFileChoice → Option (KeyFile × KeyFileCall)
  | .moves count =>
      if count = 0 then none
      else
        let written' := min (written + count) KEY_LENGTH
        some ({ file with
            content := file.content.map (· ++ (key.bytes.drop written).take count) },
          if written' = KEY_LENGTH then .synchronizing key else .writing key written')
  | .refused error => some (file, .returned (.error error.keyError))
  | _ => none

/-- One step of a call. -/
def advance (index : Nat) (choice : KeyFileChoice) (file : KeyFile) :
    KeyFileCall → Option (KeyFile × KeyFileCall)
  | .idle => file.begin choice
  | .verifyingPath => file.pass .opening choice
  | .opening => file.openRead choice
  | .verifyingOpen => file.pass (.reading []) choice
  | .reading bytes => file.readOn bytes choice
  | .drawing => file.draw choice
  | .creating key => file.createNew index key choice
  | .verifyingCreated key => file.pass (.writing key 0) choice
  | .writing key written => file.writeOn key written choice
  | .synchronizing key => file.pass (.returned (SecretKey.fromSlice key.bytes)) choice
  | .returned _ => none

end KeyFile

/-- The calls on one path, with nothing else that touches it. -/
def keyFileProgram : Program KeyFile KeyFileCall KeyFileChoice Empty where
  advance := KeyFile.advance
  occur event _ := nomatch event

/-- The path as it is before the calls. -/
def KeyFile.start (content : Option (List UInt8)) : Threads KeyFile KeyFileCall :=
  ⟨⟨content, none⟩, fun _ => .idle⟩

/-- The call has created the key file, and not written all of it. -/
def KeyFileCall.Filling : KeyFileCall → Prop
  | .verifyingCreated _ | .writing _ _ => True
  | _ => False

/-- What the calls agree on: every key that was returned is the key in the file; a file
that one of the calls created is full or still being filled, and no call has found it
too short. -/
structure KeyFileAgreement (state : Threads KeyFile KeyFileCall) : Prop where
  full : ∀ index key, state.thread index = .returned (.ok key) →
    state.shared.content = some key.bytes
  length : ∀ index expected actual,
    state.thread index = .returned (.error (.invalidLength expected actual)) →
      state.shared.creator = none
  whole : ∀ content creator, state.shared.content = some content →
    state.shared.creator = some creator →
      content.length = KEY_LENGTH ∨ (state.thread creator).Filling

namespace KeyFile

/-- The step neither finds the end of a file that its creator has not filled, nor gives up
on a file before it is full. -/
def Gentle (file : KeyFile) : KeyFileCall → KeyFileChoice → Prop
  | .reading bytes, .moves _ => file.creator = none ∨
      (file.content.getD []).length = KEY_LENGTH ∨ (file.content.getD []).drop bytes.length ≠ []
  | .verifyingCreated _, .refused _ => False
  | .writing _ _, .refused _ => False
  | _, _ => True

instance (file : KeyFile) (call : KeyFileCall) (choice : KeyFileChoice) :
    Decidable (file.Gentle call choice) := by
  unfold Gentle
  split <;> infer_instance

/-! ## One step -/

/-- What one step of a call can do. -/
inductive Moved (index : Nat) (choice : KeyFileChoice) (file : KeyFile) :
    KeyFileCall → KeyFile → KeyFileCall → Prop where
  | passes {call next : KeyFileCall} (gentle : file.Gentle call choice)
      (running : ∀ result, call ≠ .returned result)
      (idle : ¬ call.Filling) (idleNext : ¬ next.Filling)
      (noKey : ∀ key, next ≠ .synchronizing key ∧ next ≠ .returned (.ok key))
      (noLength : ∀ expected actual, next ≠ .returned (.error (.invalidLength expected actual)))
      (known : ∀ bytes, next = .reading bytes → bytes = [] ∧ call = .verifyingOpen ∨
        ∃ earlier count, call = .reading earlier ∧
          bytes = earlier ++ ((file.content.getD []).drop earlier.length).take count)
      (there : next = .verifyingOpen → file.content.isSome) : Moved index choice file call file next
  | finishes {bytes : List UInt8} {count : Nat} (read : choice = .moves count)
      (ends : (file.content.getD []).drop bytes.length = []) :
      Moved index choice file (.reading bytes) file (.returned (SecretKey.fromSlice bytes))
  | creates {key : SecretKey} (absent : file.content = none)
      (gentle : file.Gentle (.creating key) choice) :
      Moved index choice file (.creating key) ⟨some [], some index⟩ (.verifyingCreated key)
  | verified {key : SecretKey} (gentle : file.Gentle (.verifyingCreated key) choice) :
      Moved index choice file (.verifyingCreated key) file (.writing key 0)
  | writes {key : SecretKey} {written count : Nat} (positive : 0 < count)
      (gentle : file.Gentle (.writing key written) choice) :
      Moved index choice file (.writing key written)
        { file with content := file.content.map (· ++ (key.bytes.drop written).take count) }
        (if min (written + count) KEY_LENGTH = KEY_LENGTH then .synchronizing key
          else .writing key (min (written + count) KEY_LENGTH))
  | abandons {call : KeyFileCall} {error : KeyPathError} (filling : call.Filling)
      (rough : ¬ file.Gentle call choice) :
      Moved index choice file call file (.returned (.error error.keyError))
  | synchronized {key : SecretKey} (gentle : file.Gentle (.synchronizing key) choice) :
      Moved index choice file (.synchronizing key) file (.returned (.ok key))

/-- A step of a call that has not created the file only passes or is refused. -/
theorem pass_moved {index : Nat} {choice : KeyFileChoice} {file after : KeyFile}
    {call target next : KeyFileCall} (gentle : file.Gentle call choice)
    (running : ∀ result, call ≠ .returned result) (idle : ¬ call.Filling)
    (targets : Moved index choice file call file target)
    (passed : file.pass target choice = some (after, next)) :
    Moved index choice file call after next := by
  cases choice <;> simp only [pass, reduceCtorEq, Option.some.injEq, Prod.mk.injEq] at passed
  · obtain ⟨rfl, rfl⟩ := passed
    exact targets
  · obtain ⟨rfl, rfl⟩ := passed
    apply Moved.passes gentle running idle <;> simp [KeyFileCall.Filling, KeyPathError.keyError_ne]

theorem openRead_moved {index : Nat} {choice : KeyFileChoice} {file after : KeyFile}
    {next : KeyFileCall} (opened : file.openRead choice = some (after, next)) :
    Moved index choice file .opening after next := by
  cases choice with
  | succeeds =>
      simp only [openRead, Option.some.injEq, Prod.mk.injEq] at opened
      obtain ⟨rfl, rfl⟩ := opened
      split
      · apply Moved.passes <;> simp_all [Gentle, KeyFileCall.Filling]
      · apply Moved.passes <;> simp [Gentle, KeyFileCall.Filling]
  | refused error =>
      cases error <;> simp only [openRead, reduceCtorEq, Option.some.injEq, Prod.mk.injEq] at opened
      obtain ⟨rfl, rfl⟩ := opened
      split <;> apply Moved.passes <;> simp [Gentle, KeyFileCall.Filling]
  | exhausted detail => cases opened
  | draws key => cases opened
  | moves count => cases opened

theorem readOn_moved {index : Nat} {choice : KeyFileChoice} {file after : KeyFile}
    {bytes : List UInt8} {next : KeyFileCall}
    (read : file.readOn bytes choice = some (after, next)) :
    Moved index choice file (.reading bytes) after next := by
  cases choice with
  | moves count =>
      simp only [readOn] at read
      split at read
      · rename_i ends
        simp only [Option.some.injEq, Prod.mk.injEq] at read
        obtain ⟨rfl, rfl⟩ := read
        exact .finishes rfl ends
      · rename_i more
        split at read
        · cases read
        · simp only [Option.some.injEq, Prod.mk.injEq] at read
          obtain ⟨rfl, rfl⟩ := read
          refine .passes (.inr (.inr more)) (by simp) id id (by simp) (by simp) ?_ (by simp)
          intro longer same
          cases same
          exact .inr ⟨bytes, count, rfl, rfl⟩
  | refused error =>
      simp only [readOn, Option.some.injEq, Prod.mk.injEq] at read
      obtain ⟨rfl, rfl⟩ := read
      apply Moved.passes <;> simp [Gentle, KeyFileCall.Filling, KeyPathError.keyError_ne]
  | succeeds => cases read
  | exhausted detail => cases read
  | draws key => cases read

/-- Drawing a key is a legal move. -/
theorem draw_moved {index : Nat} {choice : KeyFileChoice} {file after : KeyFile}
    {next : KeyFileCall} (drawn : file.draw choice = some (after, next)) :
    Moved index choice file .drawing after next := by
  cases choice <;> simp only [draw, reduceCtorEq, Option.some.injEq, Prod.mk.injEq] at drawn
  all_goals obtain ⟨rfl, rfl⟩ := drawn
  all_goals apply Moved.passes <;> simp [Gentle, KeyFileCall.Filling]

theorem createNew_moved {index : Nat} {choice : KeyFileChoice} {file after : KeyFile}
    {key : SecretKey} {next : KeyFileCall}
    (created : createNew index file key choice = some (after, next)) :
    Moved index choice file (.creating key) after next := by
  cases choice with
  | succeeds =>
      simp only [createNew, Option.some.injEq] at created
      split at created
      · cases created
        apply Moved.passes <;> simp [Gentle, KeyFileCall.Filling]
      · rename_i absent
        cases created
        exact .creates (Option.not_isSome_iff_eq_none.mp absent) trivial
  | refused error =>
      cases error <;> simp only [createNew, reduceCtorEq, Option.some.injEq,
        Prod.mk.injEq] at created
      obtain ⟨rfl, rfl⟩ := created
      split <;> apply Moved.passes <;> simp [Gentle, KeyFileCall.Filling]
  | exhausted detail => cases created
  | draws key => cases created
  | moves count => cases created

theorem writeOn_moved {index : Nat} {choice : KeyFileChoice} {file after : KeyFile}
    {key : SecretKey} {written : Nat} {next : KeyFileCall}
    (wrote : file.writeOn key written choice = some (after, next)) :
    Moved index choice file (.writing key written) after next := by
  cases choice with
  | moves count =>
      simp only [writeOn] at wrote
      split at wrote
      · cases wrote
      · rename_i positive
        simp only [Option.some.injEq, Prod.mk.injEq] at wrote
        obtain ⟨rfl, rfl⟩ := wrote
        exact .writes (Nat.pos_of_ne_zero positive) trivial
  | refused error =>
      simp only [writeOn, Option.some.injEq, Prod.mk.injEq] at wrote
      obtain ⟨rfl, rfl⟩ := wrote
      exact .abandons trivial id
  | succeeds => cases wrote
  | exhausted detail => cases wrote
  | draws key => cases wrote

/-- Every step of a call is one of these. -/
theorem advance_moved {index : Nat} {choice : KeyFileChoice} {file after : KeyFile}
    {call next : KeyFileCall} (advanced : advance index choice file call = some (after, next)) :
    Moved index choice file call after next := by
  cases call with
  | idle =>
      cases choice <;> simp only [advance, begin, reduceCtorEq, Option.some.injEq,
        Prod.mk.injEq] at advanced
      obtain ⟨rfl, rfl⟩ := advanced
      apply Moved.passes <;> simp [Gentle, KeyFileCall.Filling]
  | verifyingPath =>
      refine pass_moved trivial (by simp) id ?_ advanced
      apply Moved.passes <;> simp [Gentle, KeyFileCall.Filling]
  | opening => exact openRead_moved advanced
  | verifyingOpen =>
      refine pass_moved trivial (by simp) id ?_ advanced
      apply Moved.passes <;> simp [Gentle, KeyFileCall.Filling]
  | reading bytes => exact readOn_moved advanced
  | drawing => exact draw_moved advanced
  | creating key => exact createNew_moved advanced
  | verifyingCreated key =>
      cases choice <;> simp only [advance, pass, reduceCtorEq, Option.some.injEq,
        Prod.mk.injEq] at advanced
      · obtain ⟨rfl, rfl⟩ := advanced
        exact .verified trivial
      · obtain ⟨rfl, rfl⟩ := advanced
        exact .abandons trivial id
  | writing key written => exact writeOn_moved advanced
  | synchronizing key =>
      rw [advance, key.fromSlice_bytes] at advanced
      refine pass_moved trivial (by simp) id ?_ advanced
      exact .synchronized trivial
  | returned result => cases advanced

/-! ## What a call knows -/

/-- What a call has seen of the file, or put there. -/
def Knows (index : Nat) (file : KeyFile) : KeyFileCall → Prop
  | .verifyingOpen => file.content.isSome
  | .reading bytes => ∃ content, file.content = some content ∧ bytes <+: content
  | .verifyingCreated _ => file = ⟨some [], some index⟩
  | .writing key written =>
      written < KEY_LENGTH ∧ file = ⟨some (key.bytes.take written), some index⟩
  | .synchronizing key => file.content = some key.bytes
  | .returned (.ok key) => file.content = some key.bytes
  | .returned (.error (.invalidLength _ _)) => file.content.isSome
  | _ => True

theorem Knows.of_some {index : Nat} {file : KeyFile} {call : KeyFileCall}
    (knows : Knows index file call) (absent : file.content = none) : ¬ call.Filling ∧
      (∀ key, call ≠ .returned (.ok key)) ∧
      ∀ expected actual, call ≠ .returned (.error (.invalidLength expected actual)) := by
  refine ⟨fun filling => ?_, fun key same => ?_, fun expected actual same => ?_⟩
  · cases call <;> simp_all [Knows, KeyFileCall.Filling]
  · subst same
    simp_all [Knows]
  · subst same
    simp_all [Knows]

/-- A call knows nothing that the creation of an absent file would change. -/
theorem Knows.created {index creator : Nat} {file : KeyFile} {call : KeyFileCall}
    (knows : Knows index file call) (absent : file.content = none) :
    Knows index ⟨some [], some creator⟩ call := by
  unfold Knows at knows ⊢
  split <;> simp_all

/-- What the other calls know stays true when the creator writes on. -/
theorem Knows.written {index creator written : Nat} {key : SecretKey} {file : KeyFile}
    {call : KeyFileCall} {more : List UInt8} (knows : Knows index file call)
    (other : index ≠ creator) (partly : written < KEY_LENGTH)
    (same : file = ⟨some (key.bytes.take written), some creator⟩) :
    Knows index { file with content := file.content.map (· ++ more) } call := by
  have short : ∀ full : SecretKey, key.bytes.take written ≠ full.bytes := by
    intro full equal
    have lengths := congrArg List.length equal
    rw [List.length_take, key.length, full.length] at lengths
    omega
  subst same
  unfold Knows at knows ⊢
  split <;> simp_all [Ne.symm other]
  exact knows.trans (List.prefix_append _ _)

theorem Moved.knows {index : Nat} {choice : KeyFileChoice} {file after : KeyFile}
    {call next : KeyFileCall} (moved : Moved index choice file call after next)
    (knows : Knows index file call) : Knows index after next := by
  cases moved with
  | passes gentle running idle idleNext noKey noLength known there =>
      cases next with
      | verifyingOpen => exact there rfl
      | reading bytes =>
          rcases known bytes rfl with ⟨rfl, rfl⟩ | ⟨earlier, count, rfl, rfl⟩
          · obtain ⟨content, found⟩ := Option.isSome_iff_exists.mp knows
            exact ⟨content, found, List.nil_prefix⟩
          · obtain ⟨content, found, rest, rfl⟩ := knows
            refine ⟨earlier ++ rest, found, ?_⟩
            rw [found, Option.getD_some, List.drop_left]
            exact (List.prefix_append_right_inj earlier).mpr (List.take_prefix count rest)
      | verifyingCreated key => exact (idleNext trivial).elim
      | writing key written => exact (idleNext trivial).elim
      | synchronizing key => exact ((noKey key).1 rfl).elim
      | returned result =>
          cases result with
          | ok key => exact ((noKey key).2 rfl).elim
          | error error =>
              cases error with
              | invalidLength expected actual => exact (noLength expected actual rfl).elim
              | _ => trivial
      | _ => trivial
  | @finishes bytes count read ends =>
      obtain ⟨content, found, rest, rfl⟩ := knows
      rw [found, Option.getD_some, List.drop_left] at ends
      subst ends
      rw [List.append_nil] at found
      cases result : SecretKey.fromSlice bytes with
      | ok key =>
          rw [SecretKey.fromSlice_eq_ok_iff.mp result] at found
          exact found
      | error error =>
          obtain ⟨-, rfl⟩ := SecretKey.fromSlice_eq_error_iff.mp result
          exact Option.isSome_iff_exists.mpr ⟨bytes, found⟩
  | creates absent gentle => rfl
  | verified gentle => exact ⟨by decide, knows⟩
  | @writes key written count positive gentle =>
      obtain ⟨partly, same⟩ := knows
      have longer : (file.content.map (· ++ (key.bytes.drop written).take count)) =
          some (key.bytes.take (min (written + count) KEY_LENGTH)) := by
        rw [same, Option.map_some, ← List.take_add, ← key.length, ← List.take_take,
          List.take_length]
      split
      · rename_i full
        change file.content.map _ = some key.bytes
        rw [longer, full, ← key.length, List.take_length]
      · rename_i short
        refine ⟨by omega, ?_⟩
        rw [longer, same]
  | @abandons call error filling rough => cases error <;> trivial
  | synchronized gentle => exact knows

/-- What a call knows of the file is not undone by the step of another call. -/
theorem Moved.knows_other {index other : Nat} {choice : KeyFileChoice} {file after : KeyFile}
    {call next observer : KeyFileCall} (moved : Moved index choice file call after next)
    (mine : Knows index file call) (different : other ≠ index)
    (knows : Knows other file observer) : Knows other after observer := by
  cases moved with
  | creates absent gentle => exact knows.created absent
  | writes positive gentle => exact knows.written different mine.1 mine.2
  | passes | finishes | verified | abandons | synchronized => exact knows

/-- The creator is named as soon as there is a file of one of the calls. -/
theorem Moved.creator {index : Nat} {choice : KeyFileChoice} {file after : KeyFile}
    {call next : KeyFileCall} (moved : Moved index choice file call after next)
    (there : file.creator.isSome → file.content.isSome) :
    after.creator.isSome → after.content.isSome := by
  cases moved with
  | creates absent gentle => simp
  | writes positive gentle => simpa using there
  | passes | finishes | verified | abandons | synchronized => exact there

end KeyFile

/-- What every call knows, and that a creator stands for a file. -/
def KeyFileKnown (state : Threads KeyFile KeyFileCall) : Prop :=
  (state.shared.creator.isSome → state.shared.content.isSome) ∧
    ∀ index, KeyFile.Knows index state.shared (state.thread index)

theorem keyFile_known_step {state next : Threads KeyFile KeyFileCall}
    {turn : Turn KeyFileChoice Empty} (known : KeyFileKnown state)
    (taken : keyFileProgram.step state turn = some next) : KeyFileKnown next := by
  cases turn with
  | event event => cases event
  | thread index choice =>
      obtain ⟨shared, own, advanced, rfl⟩ := Program.step_thread_eq_some_iff.mp taken
      have moved := KeyFile.advance_moved advanced
      refine ⟨moved.creator known.1, fun other => ?_⟩
      dsimp only
      by_cases same : other = index
      · subst same
        rw [Function.update_self]
        exact moved.knows (known.2 other)
      · rw [Function.update_of_ne same]
        exact moved.knows_other (known.2 index) same (known.2 other)

/-- A step is gentle by what its call finds in the file. -/
def KeyFile.GentleTurn (state : Threads KeyFile KeyFileCall) : Turn KeyFileChoice Empty → Prop
  | .thread index choice => state.shared.Gentle (state.thread index) choice
  | .event event => nomatch event

instance (state : Threads KeyFile KeyFileCall) : DecidablePred (KeyFile.GentleTurn state)
  | .thread index choice =>
      inferInstanceAs (Decidable (state.shared.Gentle (state.thread index) choice))
  | .event event => nomatch event

/-- The two parts of the agreement that a step can break. -/
structure KeyFileIntact (file : KeyFile) (thread : Nat → KeyFileCall) : Prop where
  length : ∀ index expected actual,
    thread index = .returned (.error (.invalidLength expected actual)) → file.creator = none
  whole : ∀ content creator, file.content = some content → file.creator = some creator →
    content.length = KEY_LENGTH ∨ (thread creator).Filling

theorem keyFileAgreement_iff {state : Threads KeyFile KeyFileCall} (known : KeyFileKnown state) :
    KeyFileAgreement state ↔ KeyFileIntact state.shared state.thread := by
  refine ⟨fun agreement => ⟨agreement.length, agreement.whole⟩, fun intact => ?_⟩
  refine ⟨fun index key returned => ?_, intact.length, intact.whole⟩
  have knows := known.2 index
  rw [returned] at knows
  exact knows

section Step

open KeyFile

variable {file : KeyFile} {thread : Nat → KeyFileCall} {index : Nat} {next : KeyFileCall}

/-- A step that neither reports a length nor has to do with filling breaks nothing. -/
theorem KeyFileIntact.update_iff
    (length : ∀ expected actual, next ≠ .returned (.error (.invalidLength expected actual)))
    (lengthBefore : ∀ expected actual,
      thread index ≠ .returned (.error (.invalidLength expected actual)))
    (filling : next.Filling ↔ (thread index).Filling) :
    KeyFileIntact file (Function.update thread index next) ↔ KeyFileIntact file thread := by
  have fills : ∀ creator, (Function.update thread index next creator).Filling ↔
      (thread creator).Filling := by
    intro creator
    by_cases same : creator = index
    · rw [same, Function.update_self, filling]
    · rw [Function.update_of_ne same]
  have reports : ∀ other expected actual,
      Function.update thread index next other =
          .returned (.error (.invalidLength expected actual)) ↔
        thread other = .returned (.error (.invalidLength expected actual)) := by
    intro other expected actual
    by_cases same : other = index
    · rw [same, Function.update_self]
      exact iff_of_false (length expected actual) (lengthBefore expected actual)
    · rw [Function.update_of_ne same]
  constructor
  · intro intact
    exact ⟨fun other expected actual reported =>
        intact.length other expected actual ((reports other expected actual).mpr reported),
      fun content creator found created =>
        (intact.whole content creator found created).imp_right (fills creator).mp⟩
  · intro intact
    exact ⟨fun other expected actual reported =>
        intact.length other expected actual ((reports other expected actual).mp reported),
      fun content creator found created =>
        (intact.whole content creator found created).imp_right (fills creator).mpr⟩

/-- As long as there is no file, nothing is broken. -/
theorem KeyFileIntact.absent (absent : file.content = none)
    (knows : ∀ index, Knows index file (thread index)) : KeyFileIntact file thread where
  length index expected actual reported :=
    (((knows index).of_some absent).2.2 expected actual reported).elim
  whole content creator found _ := by
    rw [absent] at found
    cases found

/-- A file from before the calls is none of theirs. -/
theorem KeyFileIntact.unowned (unowned : file.creator = none) : KeyFileIntact file thread where
  length _ _ _ _ := unowned
  whole content creator _ created := by
    rw [unowned] at created
    cases created

/-- A call that is filling the file is its creator, and has not written all of it. -/
theorem KeyFile.Knows.filling {call : KeyFileCall} (knows : Knows index file call)
    (filling : call.Filling) : ∃ content, file.content = some content ∧
      file.creator = some index ∧ content.length < KEY_LENGTH := by
  cases call with
  | verifyingCreated key =>
      rw [Knows] at knows
      subst knows
      exact ⟨[], rfl, rfl, by decide⟩
  | writing key written =>
      obtain ⟨partly, rfl⟩ := knows
      refine ⟨_, rfl, rfl, ?_⟩
      rw [List.length_take]
      omega
  | _ => exact filling.elim

/-- The agreement survives a step exactly when the step is gentle. -/
theorem KeyFile.Moved.intact_iff {choice : KeyFileChoice} {after : KeyFile}
    (moved : Moved index choice file (thread index) after next)
    (knows : ∀ index, Knows index file (thread index))
    (knowsAfter : ∀ other, Knows other after (Function.update thread index next other)) :
    KeyFileIntact after (Function.update thread index next) ↔
      KeyFileIntact file thread ∧ file.Gentle (thread index) choice := by
  have mine := knows index
  generalize call : thread index = current at moved mine ⊢
  cases moved with
  | passes gentle running idle idleNext noKey noLength known there =>
      have before : ∀ expected actual,
          thread index ≠ .returned (.error (.invalidLength expected actual)) := by
        rw [call]
        exact fun expected actual => running _
      rw [KeyFileIntact.update_iff noLength before (iff_of_false idleNext (call ▸ idle))]
      exact (and_iff_left gentle).symm
  | @finishes bytes count read ends =>
      obtain ⟨content, found, rest, rfl⟩ := mine
      rw [found, Option.getD_some, List.drop_left] at ends
      subst ends
      rw [List.append_nil] at found
      have before : ∀ expected actual,
          thread index ≠ .returned (.error (.invalidLength expected actual)) := by
        simp [call]
      subst read
      cases result : SecretKey.fromSlice bytes with
      | ok key =>
          rw [KeyFileIntact.update_iff (by simp) before (by simp [call, KeyFileCall.Filling])]
          refine (and_iff_left (.inr (.inl ?_))).symm
          rw [found, Option.getD_some, SecretKey.fromSlice_eq_ok_iff.mp result, key.length]
      | error error =>
          obtain ⟨short, rfl⟩ := SecretKey.fromSlice_eq_error_iff.mp result
          have gentle : file.Gentle (.reading bytes) (.moves count) ↔ file.creator = none := by
            simp [Gentle, found, short]
          rw [gentle]
          refine ⟨fun intact => ?_, fun intact => .unowned intact.2⟩
          have unowned := intact.length index _ _ (Function.update_self ..)
          exact ⟨.unowned unowned, unowned⟩
  | creates absent gentle =>
      refine iff_of_true ⟨fun other expected actual reported => ?_, ?_⟩
        ⟨.absent absent knows, gentle⟩
      · by_cases same : other = index
        · rw [same, Function.update_self] at reported
          cases reported
        · rw [Function.update_of_ne same] at reported
          exact (((knows other).of_some absent).2.2 expected actual reported).elim
      · rintro content creator found created
        cases created
        exact .inr (by rw [Function.update_self]; trivial)
  | verified gentle =>
      rw [KeyFileIntact.update_iff (by simp) (by simp [call]) (by simp [call, KeyFileCall.Filling])]
      exact (and_iff_left gentle).symm
  | writes positive gentle =>
      obtain ⟨partly, same⟩ := mine
      have owned : file.creator = some index := by rw [same]
      have full := knowsAfter index
      rw [Function.update_self] at full
      refine ⟨fun intact => ⟨⟨fun other expected actual reported => ?_, ?_⟩, gentle⟩, fun intact =>
        ⟨fun other expected actual reported => ?_, ?_⟩⟩
      · refine intact.length other expected actual ?_
        rw [Function.update_of_ne (fun mine => by simp [mine, call] at reported)]
        exact reported
      · intro content creator found created
        rw [owned] at created
        cases created
        exact .inr (by rw [call]; trivial)
      · by_cases mine : other = index
        · rw [mine, Function.update_self] at reported
          split at reported <;> cases reported
        · rw [Function.update_of_ne mine] at reported
          exact intact.1.length other expected actual reported
      · intro content creator found created
        rw [owned] at created
        cases created
        rw [Function.update_self]
        split at full
        · rw [full] at found
          cases found
          exact .inl (SecretKey.length _)
        · rename_i short
          rw [if_neg short]
          exact .inr trivial
  | abandons filling rough =>
      refine iff_of_false (fun intact => ?_) fun intact => rough intact.2
      obtain ⟨content, found, owned, short⟩ := mine.filling filling
      rcases intact.whole content index found owned with full | stillFilling
      · omega
      · rw [Function.update_self] at stillFilling
        exact stillFilling
  | synchronized gentle =>
      rw [KeyFileIntact.update_iff (by simp) (by simp [call]) (by simp [call, KeyFileCall.Filling])]
      exact (and_iff_left gentle).symm

end Step

theorem keyFileKnown_start (content : Option (List UInt8)) :
    KeyFileKnown (KeyFile.start content) := ⟨by simp [KeyFile.start], fun _ => trivial⟩

/-- Whatever order the steps of any number of calls come in and whichever of them are refused,
the calls agree exactly when no step of theirs finds the end of a file that its creator has
not filled, or gives up on filling it. -/
theorem keyFile_agreement_iff {content : Option (List UInt8)}
    {turns : List (Turn KeyFileChoice Empty)} {state : Threads KeyFile KeyFileCall}
    (executed : keyFileProgram.execute (KeyFile.start content) turns = some state) :
    KeyFileAgreement state ↔
      keyFileProgram.Obeys KeyFile.GentleTurn (KeyFile.start content) turns := by
  have start : KeyFileAgreement (KeyFile.start content) :=
    ⟨by simp [KeyFile.start], by simp [KeyFile.start], by simp [KeyFile.start]⟩
  have kept : ∀ state turn next, KeyFileKnown state →
      keyFileProgram.step state turn = some next →
        KeyFileKnown next ∧
          (KeyFileAgreement next ↔ KeyFileAgreement state ∧ KeyFile.GentleTurn state turn) := by
    intro state turn next known taken
    have knownNext := keyFile_known_step known taken
    refine ⟨knownNext, ?_⟩
    rw [keyFileAgreement_iff known, keyFileAgreement_iff knownNext]
    cases turn with
    | event event => cases event
    | thread index choice =>
        obtain ⟨shared, own, advanced, rfl⟩ := Program.step_thread_eq_some_iff.mp taken
        exact (KeyFile.advance_moved advanced).intact_iff known.2 knownNext.2
  rw [Program.iff_obeys_of_execute kept (keyFileKnown_start content) executed]
  exact and_iff_right start

/-- A key of equal bytes. -/
def testKey : SecretKey := ⟨List.replicate 32 7, rfl⟩

/-- A call creates the key and fills the file in two portions. Another opens the file in
between and reads it when it is full. -/
def filledTurns : List (Turn KeyFileChoice Empty) :=
  [.thread 0 .succeeds, .thread 0 .succeeds, .thread 0 .succeeds, .thread 0 (.draws testKey),
    .thread 0 .succeeds, .thread 0 .succeeds, .thread 0 (.moves 20), .thread 1 .succeeds,
    .thread 1 .succeeds, .thread 1 .succeeds, .thread 1 .succeeds, .thread 1 (.moves 32),
    .thread 0 (.moves 32), .thread 0 .succeeds, .thread 1 (.moves 32), .thread 1 (.moves 32)]

theorem keyFile_agreement_filled : ∃ state,
    keyFileProgram.execute (KeyFile.start none) filledTurns = some state ∧
      state.thread 0 = .returned (.ok testKey) ∧ state.thread 1 = .returned (.ok testKey) ∧
      KeyFileAgreement state := by
  have obeys : keyFileProgram.Obeys KeyFile.GentleTurn (KeyFile.start none) filledTurns := by
    decide
  have executed := (Program.execute_of_obeys obeys).1
  exact ⟨_, executed, by decide, by decide, (keyFile_agreement_iff executed).mpr obeys⟩

/-- A call reads the file between its creation and its first byte. -/
def racedTurns : List (Turn KeyFileChoice Empty) :=
  [.thread 0 .succeeds, .thread 0 .succeeds, .thread 0 .succeeds, .thread 0 (.draws testKey),
    .thread 0 .succeeds, .thread 1 .succeeds, .thread 1 .succeeds, .thread 1 .succeeds,
    .thread 1 .succeeds, .thread 1 (.moves 32)]

/-- A call fails after ten bytes, and another one finds what it leaves. -/
def abandonedKeyTurns : List (Turn KeyFileChoice Empty) :=
  [.thread 0 .succeeds, .thread 0 .succeeds, .thread 0 .succeeds, .thread 0 (.draws testKey),
    .thread 0 .succeeds, .thread 0 .succeeds, .thread 0 (.moves 10),
    .thread 0 (.refused (.io ⟨.other, "No space left on device (os error 28)"⟩)),
    .thread 1 .succeeds, .thread 1 .succeeds, .thread 1 .succeeds, .thread 1 .succeeds,
    .thread 1 (.moves 32), .thread 1 (.moves 32)]

/-- Either way a call reports a length, and a failed creation leaves a short file behind. -/
theorem keyFile_disagreement :
    (∃ state, keyFileProgram.execute (KeyFile.start none) racedTurns = some state ∧
      state.thread 1 = .returned (.error (.invalidLength 32 0)) ∧ ¬ KeyFileAgreement state) ∧
    ∃ state, keyFileProgram.execute (KeyFile.start none) abandonedKeyTurns = some state ∧
      state.shared.content = some (List.replicate 10 7) ∧
      state.thread 1 = .returned (.error (.invalidLength 32 10)) ∧ ¬ KeyFileAgreement state := by
  have raced : keyFileProgram.Obeys (fun _ _ => True) (KeyFile.start none) racedTurns := by decide
  have abandoned : keyFileProgram.Obeys (fun _ _ => True) (KeyFile.start none)
      abandonedKeyTurns := by decide
  refine ⟨⟨_, (Program.execute_of_obeys raced).1, by decide, fun agreement => ?_⟩,
    ⟨_, (Program.execute_of_obeys abandoned).1, by decide, by decide, fun agreement => ?_⟩⟩
  · have unowned := agreement.length 1 32 0 (by decide)
    revert unowned
    decide
  · have unowned := agreement.length 1 32 10 (by decide)
    revert unowned
    decide

end FaceAuth
