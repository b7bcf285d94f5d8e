import FaceAuth.Core.Io
import FaceAuth.Foundation.SystemCalls

/-!
# Files of the machine

Paths as the programs write them, and the failures of calls on files as the standard library
reports them.
-/

namespace FaceAuth

open Foundation

/-- The text of a path, whose last name comes first. -/
def pathText (path : List String) : String := "/" ++ "/".intercalate path.reverse

/-- What the operating system reports when a call fails. -/
def IoError.ofFailure : CallFailure IoError → IoError
  | .notFound => ⟨.notFound, "No such file or directory (os error 2)"⟩
  | .alreadyExists => ⟨.alreadyExists, "File exists (os error 17)"⟩
  | .notDirectory => ⟨.other, "Not a directory (os error 20)"⟩
  | .isDirectory => ⟨.other, "Is a directory (os error 21)"⟩
  | .tooManyLinks => ⟨.other, "Too many levels of symbolic links (os error 40)"⟩
  | .noSpace => ⟨.other, "No space left on device (os error 28)"⟩
  | .refused error => error

/-- A computation on the files of the machine. -/
abbrev FileComputation (Inode : Type) := Stepwise (FileWorld Inode String)

section Refusals

variable {Inode : Type} [DecidableEq Inode] {owner : UInt32}
  {others : Others Inode String IoError owner}

/-- A computation fails only because a call is refused. -/
def OnlyRefused (others : Others Inode String IoError owner) {Failure : Type}
    (io : IoError → Failure) (failure : Failure) (_ : Filesystem Inode String) : Prop :=
  ∃ error, others.Refuses error ∧ failure = io error

/-- A refusal that is reported in other words is still one. -/
theorem keeps_relabel_refused {Failure Label Value : Type} {io : IoError → Failure}
    {label : Failure → Label} {before always : Filesystem Inode String → Prop}
    {computation : FileComputation Inode Failure Value}
    {returns : Value → Filesystem Inode String → Prop}
    (holds : KeepsFiles before computation always returns (OnlyRefused others io)) :
    KeepsFiles before (computation.relabel label) always returns
      (OnlyRefused others (label ∘ io)) := by
  refine holds.relabel ?_
  rintro failure files ⟨error, refused, rfl⟩
  exact ⟨error, refused, rfl⟩

end Refusals

section Reading

variable {Inode : Type} [DecidableEq Inode] {owner : UInt32}
  (others : Others Inode String IoError owner)

/-- One call that reads from an open file. -/
def readSome (file : Inode) (pick : List UInt8 → List UInt8) :
    FileComputation Inode IoError (List UInt8) :=
  (others.look fun files => .ok (pick (files.content file))).relabel .ofFailure

/-- Read on to the end of a file, of which the kernel gives at least one byte in each call. -/
def readToEnd (file : Inode) :
    List Nat → List UInt8 → FileComputation Inode IoError (List UInt8)
  | [], read => do
      let chunk ← readSome others file fun content => content.drop read.length
      pure (read ++ chunk)
  | portion :: portions, read => do
      let chunk ← readSome others file fun content =>
        (content.drop read.length).take (portion + 1)
      if chunk = [] then pure read else readToEnd file portions (read ++ chunk)

variable {others} {holds : Filesystem Inode String → Prop} {inode : Inode} {bytes : List UInt8}

/-- One read of a file gives the chosen part of its bytes. -/
theorem readSome_keeps (stable : StableFiles owner holds)
    (content : ∀ files, holds files → files.content inode = bytes)
    (pick : List UInt8 → List UInt8) :
    KeepsFiles holds (readSome others inode pick) holds
      (fun value files => holds files ∧ value = pick bytes) (OnlyRefused others id) := by
  refine KeepsFiles.relabel (keeps_look stable (fun _ held => held)
    (fun _ error refused _ => ⟨error, refused, rfl⟩) ?_) fun _ _ failed => failed
  intro files held
  exact ⟨held, congrArg pick (content files held)⟩

/-- However many bytes the kernel gives at a time, reading a file that others cannot change
ends with all of them. -/
theorem readToEnd_keeps (stable : StableFiles owner holds)
    (content : ∀ files, holds files → files.content inode = bytes) (portions : List Nat)
    (read rest : List UInt8) (split : read ++ rest = bytes) :
    KeepsFiles holds (readToEnd others inode portions read) holds
      (fun value files => holds files ∧ value = bytes) (OnlyRefused others id) := by
  induction portions generalizing read rest with
  | nil =>
      unfold readToEnd
      refine (readSome_keeps stable content fun content => content.drop read.length).bind
        fun chunk => ?_
      apply KeepsFiles.pure
      rintro files ⟨held, rfl⟩
      have remaining : bytes.drop read.length = rest := by rw [← split, List.drop_left]
      exact ⟨held, by rw [remaining, split]⟩
  | cons portion portions ih =>
      have remaining : bytes.drop read.length = rest := by rw [← split, List.drop_left]
      unfold readToEnd
      refine (readSome_keeps stable content fun content =>
        (content.drop read.length).take (portion + 1)).bind fun chunk => ?_
      rintro start ⟨held, rfl⟩
      rw [remaining]
      by_cases ended : rest.take (portion + 1) = []
      · rw [if_pos ended]
        have whole : rest = [] := by simpa using ended
        refine .pure ⟨held, ?_⟩
        rw [← split, whole, List.append_nil]
      · rw [if_neg ended]
        refine ih (read ++ rest.take (portion + 1)) (rest.drop (portion + 1)) ?_ start held
        rw [List.append_assoc, List.take_append_drop, split]

end Reading

/-- A root directory with one directory in it. -/
def testFiles (label : String) : Filesystem Nat String where
  root := 0
  metadata inode := if inode = 0 ∨ inode = 1 then some ⟨.directory, 0, 0o755⟩ else none
  entry directory name := if directory = 0 ∧ name = label then some 1 else none
  content _ := []
  reads _ _ := False
  writes _ _ := False

/-- Nobody interferes, and there is room for one file. -/
def testOthers : Others Nat String IoError 0 where
  between _ files := files
  untrusted _ _ := .refl
  links _ _ := .error .notFound
  fault _ := none
  vacant files := if files.metadata 2 = none then some 2 else none
  unused := by
    intro files inode found
    rw [Option.ite_none_right_eq_some, Option.some.injEq] at found
    exact found.2 ▸ found.1

end FaceAuth
