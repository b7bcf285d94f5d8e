import FaceAuth.Storage.DirectoryTrust

/-!
# Containers among other users

A container is replaced and read with one system call after the other, and other users act
between them. What they can never do is see its bytes, change them, or have the store read
anything else.
-/

namespace FaceAuth

open Foundation

/-- What the operating system makes of one replacement of a container: the text of the
random part of the temporary name, the bits it takes from new files, and in which portions it
takes the bytes. -/
structure WriteAttempt where
  uuid : String
  umask : UInt32
  portions : List Nat

namespace TrustPolicy

variable {Inode : Type} (trust : TrustPolicy)

section Calls

variable [DecidableEq Inode] (others : Others Inode String IoError trust.ownerUid)

/-- A new regular file that asks for no bits for others. -/
def newFile (umask : UInt32) : Metadata := ⟨.regular, trust.ownerUid, 0o600 &&& ~~~ umask⟩

/-- Create a file that is not there, with the mode of a new file. -/
def createNew (umask : UInt32) (path : List String) : FileComputation Inode IoError Inode :=
  (others.call fun files =>
    files.createNew others.links trust.ownerUid (others.vacant files) (trust.newFile umask)
      path).relabel .ofFailure

/-- Write a portion of bytes at a position of an open file. -/
def write (file : Inode) (position : Nat) (chunk : List UInt8) :
    FileComputation Inode IoError Unit :=
  (others.call fun files => (.ok (), files.writeAt file position chunk)).relabel .ofFailure

/-- Write all the bytes, of which the kernel takes at least one in each call. -/
def writeAll (file : Inode) : List Nat → Nat → List UInt8 → FileComputation Inode IoError Unit
  | [], position, rest =>
      if rest = [] then pure () else trust.write others file position rest
  | portion :: portions, position, rest =>
      if rest = [] then pure ()
      else do
        trust.write others file position (rest.take (portion + 1))
        writeAll file portions (position + (rest.take (portion + 1)).length)
          (rest.drop (portion + 1))

/-- Synchronize an open file or directory, which changes nothing that can be read. -/
def syncAll : FileComputation Inode IoError Unit :=
  (others.look fun _ => .ok ()).relabel .ofFailure

/-- Give a file another name in its directory. -/
def rename (source target : String) (directory : List String) :
    FileComputation Inode IoError Unit :=
  (others.call fun files => files.rename others.links source target directory).relabel .ofFailure

/-- Remove a file. -/
def removeFile (path : List String) : FileComputation Inode IoError Unit :=
  (others.call fun files => files.unlink others.links path).relabel .ofFailure

/-- Open a directory by way of its path. -/
def openDirectory (path : List String) : FileComputation Inode IoError Inode :=
  (others.look fun files => files.reach others.links path).relabel .ofFailure

/-- The name under which the bytes for a file are written first. -/
def temporaryName (name uuid : String) : String := "." ++ name ++ ".tmp-" ++ uuid

/-- Write the bytes into a new file and put it in the place of the old one. -/
def replaceFile (directory : List String) (name : String) (attempt : WriteAttempt)
    (bytes : List UInt8) : FileComputation Inode StorageError Unit := do
  let temporary := temporaryName name attempt.uuid
  let file ← (trust.createNew others attempt.umask (temporary :: directory)).relabel .io
  trust.verifyOpenStorageFile others file (temporary :: directory)
  (trust.writeAll others file attempt.portions 0 bytes).relabel .io
  (trust.syncAll others).relabel .io
  (trust.rename others temporary name directory).relabel .io
  let _ ← (trust.openDirectory others directory).relabel StorageError.io
  (trust.syncAll others).relabel .io

/-- Write bytes under a temporary name and give them their name when all is written. -/
def atomicWrite (directory : List String) (name : String) (attempt : WriteAttempt)
    (bytes : List UInt8) : FileComputation Inode StorageError Unit := do
  trust.verifyDirectoryStorage others directory
  trust.verifyReplaceTargetStorage others (name :: directory)
  Stepwise.cleanup (trust.replaceFile others directory name attempt bytes)
    ((trust.removeFile others (temporaryName name attempt.uuid :: directory)).relabel .io)

/-- The part of reading a payload that comes before its bytes are looked at. -/
def readContainer (directory : List String) (name : String) (portions : List Nat) :
    FileComputation Inode StorageError (List UInt8) := do
  trust.verifyDirectoryStorage others directory
  trust.verifyReplaceTargetStorage others (name :: directory)
  let file ← (trust.openReadNofollow others (name :: directory)).relabel .io
  trust.verifyOpenStorageFile others file (name :: directory)
  (readToEnd others file portions []).relabel .io

end Calls

/-! ## Writing -/

section Assertions

variable (owner : UInt32) (directory : List String) (name temporary : String)
  (content : Option (List UInt8))

/-- What a name in a directory stands for: nothing, or a sealed file with these bytes. -/
def Contains : Option (List UInt8) → Filesystem Inode String → Prop
  | none, files => files.securedEntry owner name directory = none
  | some bytes, files =>
      ∃ inode, files.Sealed owner name directory inode ∧ files.content inode = bytes

/-- The directory is secured, and the name stands for this content. -/
def Ready (files : Filesystem Inode String) : Prop :=
  (files.secured owner directory).isSome ∧ Contains owner directory name content files

/-- The bytes that are written so far are in a sealed file under the temporary name. -/
structure Drafted (file : Inode) (written : List UInt8) (files : Filesystem Inode String) :
    Prop where
  ready : Ready owner directory name content files
  seals : files.Sealed owner temporary directory file
  written : files.content file = written
  apart : files.securedEntry owner name directory ≠ some file

/-- The name stands for this sealed file with these bytes. -/
structure Stored (inode : Inode) (bytes : List UInt8) (files : Filesystem Inode String) : Prop where
  seals : files.Sealed owner name directory inode
  content : files.content inode = bytes

variable {owner directory name content trust}

/-- Nothing that is named is a file that does not exist yet. -/
theorem Contains.ne_some {files : Filesystem Inode String} {inode : Inode}
    (held : Contains owner directory name content files) (free : files.metadata inode = none) :
    files.securedEntry owner name directory ≠ some inode := by
  cases content with
  | none =>
      change files.securedEntry owner name directory = none at held
      simp [held]
  | some bytes =>
      obtain ⟨target, seals, -⟩ := held
      rw [seals.named]
      exact fun same => seals.ne free (Option.some.inj same)

/-- What the name stands for is sealed. -/
theorem Contains.seals {files : Filesystem Inode String} {inode : Inode}
    (held : Contains owner directory name content files)
    (named : files.securedEntry owner name directory = some inode) :
    files.Sealed owner name directory inode := by
  cases content with
  | none =>
      change files.securedEntry owner name directory = none at held
      rw [held] at named
      cases named
  | some bytes =>
      obtain ⟨target, seals, -⟩ := held
      rw [seals.named, Option.some.injEq] at named
      exact named ▸ seals

/-- New files are private whatever bits the system takes from them. -/
theorem newFile_private (umask : UInt32) : (trust.newFile umask).mode &&& 0o077 = 0 := by
  calc 0o600 &&& ~~~ umask &&& 0o077
      = (0o600 &&& 0o077) &&& ~~~ umask := by
        rw [UInt32.and_assoc, UInt32.and_comm (~~~ umask), UInt32.and_assoc]
    _ = 0 := UInt32.zero_and

/-- A file that is stored is secured. -/
theorem stored_secured {inode : Inode} {bytes : List UInt8} (files : Filesystem Inode String)
    (stored : Stored owner directory name inode bytes files) :
    (files.secured owner directory).isSome := by
  obtain ⟨parent, above, -⟩ := Filesystem.securedEntry_eq_some_iff.mp stored.seals.named
  exact Option.isSome_iff_exists.mpr ⟨parent, above⟩

end Assertions

section Writing

variable [DecidableEq Inode] {trust : TrustPolicy}
  {others : Others Inode String IoError trust.ownerUid} {directory : List String}
  {name temporary : String} {files : Filesystem Inode String} {content : Option (List UInt8)}
  {inode file : Inode} {holds : Filesystem Inode String → Prop} {bytes written : List UInt8}

theorem contains_stable {owner : UInt32} (directory : List String) (name : String)
    (content : Option (List UInt8)) : StableFiles owner
      (Contains owner directory name content : Filesystem Inode String → Prop) := by
  intro files after acted holds
  cases content with
  | none => exact (acted.securedEntry name directory).trans holds
  | some bytes =>
      obtain ⟨inode, seals, same⟩ := holds
      obtain ⟨still, kept⟩ := acted.seals seals
      exact ⟨inode, still, kept.trans same⟩

theorem ready_stable {owner : UInt32} : StableFiles owner
    (Ready owner directory name content : Filesystem Inode String → Prop) := by
  rintro files after acted ⟨secured, holds⟩
  refine ⟨?_, contains_stable directory name content files after acted holds⟩
  rw [acted.secured]
  exact secured

/-- Other users leave a draft as it is. -/
theorem drafted_stable {owner : UInt32} : StableFiles owner
    (Drafted owner directory name temporary content file written) := by
  intro files after acted drafted
  obtain ⟨seals, kept⟩ := acted.seals drafted.seals
  refine ⟨ready_stable files after acted drafted.ready, seals, kept.trans drafted.written, ?_⟩
  rw [acted.securedEntry]
  exact drafted.apart

theorem verifyDirectoryStorage_keeps (ancestors : trust.verifyAncestors = true)
    (stable : StableFiles trust.ownerUid holds) :
    KeepsFiles holds (trust.verifyDirectoryStorage others directory) holds
      (fun _ files => holds files ∧ (files.secured trust.ownerUid directory).isSome)
      fun _ => holds := by
  intro start held
  apply (verifyDirectoryStorage_ensures ancestors directory start).mono
  · exact fun world acted => stable _ _ acted held
  · rintro result world ⟨acted, -, found⟩
    cases result with
    | ok =>
        refine ⟨stable _ _ acted held, ?_⟩
        rw [acted.secured]
        exact (found.mp rfl).2
    | error => exact stable _ _ acted held

theorem verifyReplaceTargetStorage_keeps (stable : StableFiles trust.ownerUid holds)
    (path : List String) :
    KeepsFiles holds (trust.verifyReplaceTargetStorage others path) holds (fun _ => holds)
      fun _ => holds := by
  apply KeepsFiles.relabel
  · apply (keeps_look_stable stable).judge
    intro result files held
    have kept : holds files := by cases result <;> exact held
    cases trust.checkReplaceTarget path (result.mapError .ofFailure) <;> exact kept
  · exact fun _ _ held => held

/-- What is created under the temporary name leaves the other name as it is. -/
theorem Ready.create {parent : Inode}
    (ready : Ready trust.ownerUid directory name content files) (umask : UInt32)
    (above : files.secured trust.ownerUid directory = some parent)
    (absent : files.entry parent temporary = none) (free : files.metadata inode = none)
    (other : name ≠ temporary) :
    Drafted trust.ownerUid directory name temporary content inode []
      ((files.allocate trust.ownerUid inode (trust.newFile umask)).setEntry parent temporary
        (some inode)) := by
  have regular : (trust.newFile umask).kind ≠ .directory := by simp [newFile]
  have kept := Filesystem.secured_create free regular
    (Filesystem.trustedDirectory_of_secured above) absent directory
  have same := Filesystem.securedEntry_setEntry_of_ne
    (kept.trans (Filesystem.secured_allocate free regular directory).symm) other
  rw [Filesystem.securedEntry_allocate free regular] at same
  refine ⟨⟨?_, ?_⟩, ?_, ?_, ?_⟩
  · rw [kept]
    exact ready.1
  · cases content with
    | none => exact same.trans ready.2
    | some bytes =>
        obtain ⟨target, seals, bytes⟩ := ready.2
        refine ⟨target, seals.create free regular (Filesystem.trustedDirectory_of_secured above)
          absent other, ?_⟩
        change Function.update files.content inode [] target = _
        rw [Function.update_of_ne (seals.ne free), bytes]
  · exact Filesystem.sealed_create free rfl rfl (newFile_private umask) above absent
  · exact Function.update_self ..
  · rw [same]
    exact Contains.ne_some ready.2 free

theorem createNew_keeps (other : name ≠ temporary) (umask : UInt32) :
    KeepsFiles (Ready trust.ownerUid directory name content)
      (trust.createNew others umask (temporary :: directory))
      (Ready trust.ownerUid directory name content)
      (fun file => Drafted trust.ownerUid directory name temporary content file [])
      fun _ => Ready trust.ownerUid directory name content := by
  refine KeepsFiles.relabel ?_ fun _ _ ready => ready
  apply keeps_call ready_stable (fun _ ready => ready) (fun _ _ _ ready => ready)
  intro files ready
  obtain ⟨parent, above⟩ := Option.isSome_iff_exists.mp ready.1
  simp only [Filesystem.createNew, Filesystem.reach_of_secured above,
    Filesystem.enter_of_trustedDirectory (Filesystem.trustedDirectory_of_secured above)]
  cases absent : files.entry parent temporary with
  | some inode => exact ⟨ready, ready⟩
  | none =>
      cases vacant : others.vacant files with
      | none => exact ⟨ready, ready⟩
      | some inode =>
          have drafted := ready.create umask above absent (others.unused files inode vacant) other
          exact ⟨drafted.ready, drafted⟩

/-- What is written behind the draft is part of it. -/
theorem Drafted.write (drafted : Drafted trust.ownerUid directory name temporary content file
      written files) (chunk : List UInt8) :
    Drafted trust.ownerUid directory name temporary content file (written ++ chunk)
      (files.writeAt file written.length chunk) := by
  rw [Filesystem.writeAt_length drafted.written]
  refine ⟨⟨?_, ?_⟩, drafted.seals.setContent file _, Function.update_self .., ?_⟩
  · rw [Filesystem.secured_setContent]
    exact drafted.ready.1
  · have held := drafted.ready.2
    cases content with
    | none => exact (Filesystem.securedEntry_setContent ..).trans held
    | some bytes =>
        obtain ⟨target, seals, bytes⟩ := held
        refine ⟨target, seals.setContent file _, ?_⟩
        have apart : target ≠ file := by
          rintro rfl
          exact drafted.apart seals.named
        change Function.update files.content file _ target = _
        rw [Function.update_of_ne apart, bytes]
  · rw [Filesystem.securedEntry_setContent]
    exact drafted.apart

theorem write_keeps (chunk : List UInt8) :
    KeepsFiles (Drafted trust.ownerUid directory name temporary content file written)
      (trust.write others file written.length chunk)
      (Ready trust.ownerUid directory name content)
      (fun _ => Drafted trust.ownerUid directory name temporary content file (written ++ chunk))
      fun _ => Ready trust.ownerUid directory name content := by
  refine KeepsFiles.relabel ?_ fun _ _ ready => ready
  apply keeps_call drafted_stable (fun _ drafted => drafted.ready)
    (fun _ _ _ drafted => drafted.ready)
  intro files drafted
  exact ⟨(drafted.write chunk).ready, drafted.write chunk⟩

/-- However many bytes the kernel takes at a time, the draft ends up with all of them. -/
theorem writeAll_keeps (portions : List Nat) (written rest : List UInt8) :
    KeepsFiles (Drafted trust.ownerUid directory name temporary content file written)
      (trust.writeAll others file portions written.length rest)
      (Ready trust.ownerUid directory name content)
      (fun _ => Drafted trust.ownerUid directory name temporary content file (written ++ rest))
      fun _ => Ready trust.ownerUid directory name content := by
  induction portions generalizing written rest with
  | nil =>
      unfold writeAll
      split
      · rename_i done
        rw [done, List.append_nil]
        exact .pure fun _ drafted => drafted
      · exact write_keeps rest
  | cons portion portions ih =>
      unfold writeAll
      split
      · rename_i done
        rw [done, List.append_nil]
        exact .pure fun _ drafted => drafted
      · refine (write_keeps _).bind fun _ => ?_
        have later := ih (written ++ rest.take (portion + 1)) (rest.drop (portion + 1))
        rw [List.append_assoc, List.take_append_drop, List.length_append] at later
        exact later

/-- A name that is taken from a file leaves the other names as they are. -/
theorem Ready.remove {parent : Inode}
    (ready : Ready trust.ownerUid directory name content files) (other : name ≠ temporary)
    (file : ∀ inode, files.entry parent temporary = some inode →
      files.trustedDirectory trust.ownerUid inode = false) :
    Ready trust.ownerUid directory name content (files.setEntry parent temporary none) := by
  have kept : (files.setEntry parent temporary none).secured trust.ownerUid directory =
      files.secured trust.ownerUid directory := by
    apply Filesystem.secured_setEntry file
    simp
  refine ⟨(congrArg Option.isSome kept).trans ready.1, ?_⟩
  have held := ready.2
  cases content with
  | none => exact (Filesystem.securedEntry_setEntry_of_ne kept other).trans held
  | some bytes =>
      obtain ⟨target, seals, bytes⟩ := held
      exact ⟨target, seals.setEntry kept other, bytes⟩

/-- The draft in the place of the old file. -/
theorem Drafted.rename {parent : Inode} (drafted : Drafted trust.ownerUid directory name temporary
      content file bytes files) (other : name ≠ temporary)
    (above : files.secured trust.ownerUid directory = some parent)
    (replaced : ∀ inode, files.entry parent name = some inode →
      files.trustedDirectory trust.ownerUid inode = false) :
    Ready trust.ownerUid directory name (some bytes)
      ((files.setEntry parent name (some file)).setEntry parent temporary none) := by
  have regular := Filesystem.trustedDirectory_of_privateFile drafted.seals.held
  have kept : (files.setEntry parent name (some file)).secured trust.ownerUid directory =
      files.secured trust.ownerUid directory := by
    apply Filesystem.secured_setEntry replaced
    intro inode same
    cases same
    exact regular
  refine Ready.remove ⟨(congrArg Option.isSome kept).trans drafted.ready.1, ?_⟩ other ?_
  · exact ⟨file, drafted.seals.setEntry_self kept above, drafted.written⟩
  · intro inode named
    have same : files.entry parent temporary = some inode := by
      rw [← named]
      change _ = Function.update files.entry parent _ parent temporary
      rw [Function.update_self, Function.update_of_ne other.symm]
    rw [Filesystem.entry_of_securedEntry drafted.seals.named above] at same
    cases same
    exact regular

theorem rename_keeps (other : name ≠ temporary) :
    KeepsFiles (Drafted trust.ownerUid directory name temporary content file bytes)
      (trust.rename others temporary name directory)
      (fun files => Ready trust.ownerUid directory name content files ∨
        Ready trust.ownerUid directory name (some bytes) files)
      (fun _ => Ready trust.ownerUid directory name (some bytes))
      fun _ => Ready trust.ownerUid directory name content := by
  refine KeepsFiles.relabel ?_ fun _ _ ready => ready
  apply keeps_call drafted_stable (fun _ drafted => .inl drafted.ready)
    (fun _ _ _ drafted => drafted.ready)
  intro files drafted
  obtain ⟨parent, above⟩ := Option.isSome_iff_exists.mp drafted.ready.1
  have named := Filesystem.entry_of_securedEntry drafted.seals.named above
  have apart : files.entry parent name ≠ some file := by
    intro same
    exact drafted.apart (Filesystem.securedEntry_eq_some_iff.mpr ⟨parent, above, same⟩)
  simp only [Filesystem.rename, Filesystem.reach_of_secured above,
    Filesystem.enter_of_trustedDirectory (Filesystem.trustedDirectory_of_secured above), named,
    Option.elim_some, if_neg apart]
  by_cases replaced : (files.entry parent name).any files.isDirectory = true
  · rw [if_pos replaced]
    exact ⟨.inl drafted.ready, drafted.ready⟩
  · rw [if_neg replaced]
    have ready := drafted.rename other above fun inode found => by
      rw [found, Option.any_some, Bool.not_eq_true] at replaced
      exact Filesystem.trustedDirectory_of_isDirectory replaced
    exact ⟨.inr ready, ready⟩

theorem removeFile_keeps (other : name ≠ temporary) :
    KeepsFiles (Ready trust.ownerUid directory name content)
      (trust.removeFile others (temporary :: directory))
      (Ready trust.ownerUid directory name content)
      (fun _ => Ready trust.ownerUid directory name content)
      fun _ => Ready trust.ownerUid directory name content := by
  refine KeepsFiles.relabel ?_ fun _ _ ready => ready
  apply keeps_call ready_stable (fun _ ready => ready) (fun _ _ _ ready => ready)
  intro files ready
  obtain ⟨parent, above⟩ := Option.isSome_iff_exists.mp ready.1
  simp only [Filesystem.unlink, Filesystem.reach_of_secured above,
    Filesystem.enter_of_trustedDirectory (Filesystem.trustedDirectory_of_secured above)]
  cases found : files.entry parent temporary with
  | none => exact ⟨ready, ready⟩
  | some inode =>
      by_cases isDirectory : files.isDirectory inode = true
      · simp only [Option.elim_some, isDirectory, ↓reduceIte]
        exact ⟨ready, ready⟩
      · simp only [Option.elim_some, isDirectory, Bool.false_eq_true, ↓reduceIte]
        have removed := ready.remove other fun target named => by
          rw [found] at named
          cases named
          exact Filesystem.trustedDirectory_of_isDirectory (Bool.not_eq_true _ ▸ isDirectory)
        exact ⟨removed, removed⟩

theorem verifyOpenStorageFile_keeps (stable : StableFiles trust.ownerUid holds)
    (path : List String) :
    KeepsFiles holds (trust.verifyOpenStorageFile others file path) holds (fun _ => holds)
      fun _ => holds := by
  refine KeepsFiles.relabel (KeepsFiles.bind ((keeps_look_stable stable).relabel
    fun _ _ held => held) ?_) fun _ _ held => held
  intro metadata start held
  apply Stepwise.Ensures.ask
  cases trust.checkOpenFile path metadata <;> exact held

theorem look_keeps {Value : Type} {look : Filesystem Inode String →
      Except (CallFailure IoError) Value}
    (stable : StableFiles trust.ownerUid holds) :
    KeepsFiles holds ((others.look look).relabel IoError.ofFailure) holds (fun _ => holds)
      fun _ => holds :=
  (keeps_look_stable stable).relabel fun _ _ held => held

/-- The name stands for the old content or for the new one. -/
def Settled (owner : UInt32) (directory : List String) (name : String)
    (content : Option (List UInt8)) (bytes : List UInt8) (files : Filesystem Inode String) : Prop :=
  Ready owner directory name content files ∨ Ready owner directory name (some bytes) files

theorem temporaryName_ne (name uuid : String) : name ≠ temporaryName name uuid := by
  intro same
  have length := congrArg String.length same
  simp only [temporaryName, String.length_append] at length
  have dot : ".".length = 1 := by decide
  omega

theorem replaceFile_keeps (attempt : WriteAttempt) :
    KeepsFiles (Ready trust.ownerUid directory name content)
      (trust.replaceFile others directory name attempt bytes)
      (Settled trust.ownerUid directory name content bytes)
      (fun _ => Ready trust.ownerUid directory name (some bytes))
      fun _ => Settled trust.ownerUid directory name content bytes := by
  have other := temporaryName_ne name attempt.uuid
  have old : ∀ files : Filesystem Inode String, Ready trust.ownerUid directory name content files →
      Settled trust.ownerUid directory name content bytes files := fun _ => .inl
  have new : ∀ files : Filesystem Inode String,
      Ready trust.ownerUid directory name (some bytes) files →
        Settled trust.ownerUid directory name content bytes files := fun _ => .inr
  unfold replaceFile
  refine KeepsFiles.bind ((createNew_keeps other attempt.umask).part old fun _ => old)
    fun file => ?_
  refine KeepsFiles.bind (((verifyOpenStorageFile_keeps drafted_stable _).mono (fun _ held => held)
    (fun files drafted => old files drafted.ready) (fun _ _ held => held)
    fun _ files drafted => old files drafted.ready)) fun _ => ?_
  refine KeepsFiles.bind ((writeAll_keeps attempt.portions [] bytes).part old fun _ => old)
    fun _ => ?_
  refine KeepsFiles.bind ((look_keeps drafted_stable).part
    (fun files drafted => old files drafted.ready)
    fun _ files drafted => old files drafted.ready) fun _ => ?_
  refine KeepsFiles.bind ((rename_keeps other).part (fun _ settled => settled) fun _ => old)
    fun _ => ?_
  refine KeepsFiles.bind ((look_keeps ready_stable).part new fun _ => new) fun _ => ?_
  exact (look_keeps ready_stable).part new fun _ => new

/-- The cleaning after a failure takes the temporary name away, and no other. -/
theorem cleaned_keeps (attempt : WriteAttempt) :
    KeepsFiles (Settled trust.ownerUid directory name content bytes)
      ((trust.removeFile others (temporaryName name attempt.uuid :: directory)).relabel
        StorageError.io)
      (Settled trust.ownerUid directory name content bytes)
      (fun _ => Settled trust.ownerUid directory name content bytes)
      fun _ => Settled trust.ownerUid directory name content bytes := by
  have removed : ∀ known : Option (List UInt8),
      (∀ files : Filesystem Inode String, Ready trust.ownerUid directory name known files →
        Settled trust.ownerUid directory name content bytes files) →
      KeepsFiles (Ready trust.ownerUid directory name known)
        ((trust.removeFile others (temporaryName name attempt.uuid :: directory)).relabel
          StorageError.io)
        (Settled trust.ownerUid directory name content bytes)
        (fun _ => Settled trust.ownerUid directory name content bytes)
        fun _ => Settled trust.ownerUid directory name content bytes := by
    intro known settles
    have other := temporaryName_ne name attempt.uuid
    exact ((removeFile_keeps other).mono (fun _ ready => ready) settles (fun _ => settles)
      fun _ => settles).relabel fun _ _ settled => settled
  rintro start (old | new)
  · exact removed content (fun _ => .inl) start old
  · exact removed (some bytes) (fun _ => .inr) start new

/-- At every moment of a replacement the name stands for the old content or for all of the
new one, and for the new one when the replacement returns. -/
theorem atomicWrite_keeps (others : Others Inode String IoError trust.ownerUid)
    (ancestors : trust.verifyAncestors = true) (attempt : WriteAttempt) (bytes : List UInt8) :
    KeepsFiles (Contains trust.ownerUid directory name content)
      (trust.atomicWrite others directory name attempt bytes)
      (fun files => Contains trust.ownerUid directory name content files ∨
        Contains trust.ownerUid directory name (some bytes) files)
      (fun _ => Contains trust.ownerUid directory name (some bytes))
      fun _ files => Contains trust.ownerUid directory name content files ∨
        Contains trust.ownerUid directory name (some bytes) files := by
  have stable : StableFiles trust.ownerUid (Contains trust.ownerUid directory name content :
      Filesystem Inode String → Prop) := contains_stable directory name content
  have settles : ∀ files : Filesystem Inode String,
      Settled trust.ownerUid directory name content bytes files →
        Contains trust.ownerUid directory name content files ∨
          Contains trust.ownerUid directory name (some bytes) files := by
    rintro files (old | new)
    · exact .inl old.2
    · exact .inr new.2
  unfold atomicWrite
  refine KeepsFiles.bind ((verifyDirectoryStorage_keeps ancestors stable).mono (fun _ held => held)
    (fun _ => .inl) (fun _ files held => (⟨held.2, held.1⟩ :
      Ready trust.ownerUid directory name content files)) fun _ _ => .inl) fun _ => ?_
  refine KeepsFiles.bind ((verifyReplaceTargetStorage_keeps ready_stable _).mono
    (fun _ ready => ready) (fun _ ready => .inl ready.2) (fun _ _ ready => ready)
    fun _ _ ready => .inl ready.2) fun _ => ?_
  apply ((replaceFile_keeps attempt).cleanup fun _ => cleaned_keeps attempt).mono
  · exact fun _ ready => ready
  · exact settles
  · exact fun _ _ ready => ready.2
  · exact fun _ => settles

end Writing

/-! ## Reading -/

section Reading

variable [DecidableEq Inode] {trust : TrustPolicy}
  {others : Others Inode String IoError trust.ownerUid} {directory : List String} {name : String}
  {inode : Inode} {bytes : List UInt8}

/-- Other users leave a stored file as it is. -/
theorem stored_stable {owner : UInt32} : StableFiles owner
    (Stored owner directory name inode bytes) := by
  intro files after acted stored
  obtain ⟨seals, kept⟩ := acted.seals stored.seals
  exact ⟨seals, kept.trans stored.content⟩

/-- A look at a sealed file by its name finds a private file. -/
theorem Stored.lstat (others : Others Inode String IoError trust.ownerUid)
    {files : Filesystem Inode String}
    (stored : Stored trust.ownerUid directory name inode bytes files) :
    ∃ metadata, files.metadata inode = some metadata ∧
      files.locate others.links (name :: directory) = .ok inode ∧
      trust.checkOpenFile (name :: directory) metadata = .ok () ∧ metadata.kind = .regular := by
  obtain ⟨parent, above, named⟩ := Filesystem.securedEntry_eq_some_iff.mp stored.seals.named
  obtain ⟨metadata, known, kind, -⟩ := Filesystem.privateFile_eq_true_iff.mp stored.seals.held
  refine ⟨metadata, known, ?_, (checkOpenFile_eq_ok_iff known).mpr stored.seals.held, kind⟩
  rw [Filesystem.locate_of_secured above, named, Option.elim_some]

/-- A sealed file passes the check of what has its name. A refused look counts as nothing
when it says that nothing is there. -/
theorem verifyReplaceTarget_passes :
    KeepsFiles (Stored trust.ownerUid directory name inode bytes)
      (trust.verifyReplaceTarget others (name :: directory))
      (Stored trust.ownerUid directory name inode bytes)
      (fun _ => Stored trust.ownerUid directory name inode bytes) (OnlyRefused others .io) := by
  have looked : KeepsFiles (Stored trust.ownerUid directory name inode bytes)
      (others.look fun files => files.lstat others.links (name :: directory))
      (Stored trust.ownerUid directory name inode bytes)
      (fun metadata files => Stored trust.ownerUid directory name inode bytes files ∧
        trust.checkReplaceTarget (name :: directory) (.ok metadata) = .ok ())
      fun failure files => Stored trust.ownerUid directory name inode bytes files ∧
        ∃ error, others.Refuses error ∧ failure = .refused error := by
    apply keeps_look stored_stable (fun _ stored => stored)
      (fun _ error refused stored => ⟨stored, error, refused, rfl⟩)
    intro files stored
    obtain ⟨metadata, known, located, checked, regular⟩ := stored.lstat others
    rw [Filesystem.lstat_eq_ok_iff.mpr ⟨inode, located, known⟩]
    refine ⟨stored, ?_⟩
    simp [checkReplaceTarget, regular, checked, require]
  refine looked.judge fun result files ended => ?_
  cases result with
  | ok metadata =>
      obtain ⟨stored, checked⟩ := ended
      change EndsFiles _ _ (trust.checkReplaceTarget (name :: directory) (.ok metadata)) _
      rw [checked]
      exact stored
  | error failure =>
      obtain ⟨stored, error, refused, rfl⟩ := ended
      change EndsFiles _ _ (require (error.kind = .notFound) (KeyPathError.io error)) _
      by_cases absent : error.kind = .notFound
      · rw [require, if_pos absent]
        exact stored
      · rw [require_of_not absent]
        exact ⟨error, refused, rfl⟩

theorem openReadNofollow_passes :
    KeepsFiles (Stored trust.ownerUid directory name inode bytes)
      (trust.openReadNofollow others (name :: directory))
      (Stored trust.ownerUid directory name inode bytes)
      (fun file files => Stored trust.ownerUid directory name inode bytes files ∧ file = inode)
      (OnlyRefused others id) := by
  refine KeepsFiles.relabel (keeps_look stored_stable (fun _ stored => stored)
    (fun _ error refused _ => ⟨error, refused, rfl⟩) ?_) fun _ _ failed => failed
  intro files stored
  obtain ⟨metadata, known, located, -, regular⟩ := stored.lstat others
  have file : files.isSymlink inode = false := by
    simp [Filesystem.isSymlink, known, regular]
  simp only [Filesystem.openNofollow, located, bind, Except.bind, file]
  exact ⟨stored, rfl⟩

theorem verifyOpen_passes :
    KeepsFiles (Stored trust.ownerUid directory name inode bytes)
      (trust.verifyOpen others inode (name :: directory))
      (Stored trust.ownerUid directory name inode bytes)
      (fun _ => Stored trust.ownerUid directory name inode bytes) (OnlyRefused others .io) := by
  have looked : KeepsFiles (Stored trust.ownerUid directory name inode bytes)
      ((others.look fun files => files.fstat inode).relabel (KeyPathError.io ∘ .ofFailure))
      (Stored trust.ownerUid directory name inode bytes)
      (fun metadata files => Stored trust.ownerUid directory name inode bytes files ∧
        trust.checkOpenFile (name :: directory) metadata = .ok ()) (OnlyRefused others .io) := by
    refine KeepsFiles.relabel (keeps_look stored_stable (fun _ stored => stored)
      (fun _ error refused _ => ⟨error, refused, rfl⟩) ?_) fun _ _ failed => failed
    intro files stored
    obtain ⟨metadata, known, -, checked, -⟩ := stored.lstat others
    simp only [Filesystem.fstat, known, Option.elim_some]
    exact ⟨stored, checked⟩
  unfold verifyOpen
  refine looked.bind fun metadata start held => ?_
  apply Stepwise.Ensures.ask
  rw [held.2]
  exact held.1

/-- What is stored under a name is what is read by it, unless a call is refused. -/
theorem readContainer_keeps (others : Others Inode String IoError trust.ownerUid)
    (portions : List Nat) :
    KeepsFiles (Stored trust.ownerUid directory name inode bytes)
      (trust.readContainer others directory name portions)
      (Stored trust.ownerUid directory name inode bytes)
      (fun value files => Stored trust.ownerUid directory name inode bytes files ∧
        value = bytes) (OnlyRefused others StorageError.io) := by
  unfold readContainer
  refine KeepsFiles.bind (keeps_relabel_refused
    (verifyDirectoryChain_keeps stored_stable stored_secured)) fun _ => ?_
  refine KeepsFiles.bind (keeps_relabel_refused verifyReplaceTarget_passes) fun _ => ?_
  refine KeepsFiles.bind (keeps_relabel_refused openReadNofollow_passes) ?_
  rintro file start ⟨stored, rfl⟩
  refine KeepsFiles.bind (keeps_relabel_refused verifyOpen_passes) (fun _ => ?_) start stored
  exact keeps_relabel_refused (readToEnd_keeps stored_stable (fun _ stored => stored.content)
    portions [] bytes rfl)

/-- What is not there is not read. -/
theorem readContainer_absent (others : Others Inode String IoError trust.ownerUid)
    (ancestors : trust.verifyAncestors = true) (portions : List Nat) :
    KeepsFiles (Contains trust.ownerUid directory name none)
      (trust.readContainer others directory name portions)
      (Contains trust.ownerUid directory name none) (fun _ _ => False)
      fun _ => Contains trust.ownerUid directory name none := by
  unfold readContainer
  refine KeepsFiles.bind ((verifyDirectoryStorage_keeps ancestors
    (contains_stable directory name none)).mono (fun _ absent => absent) (fun _ absent => absent)
    (fun _ files held => (⟨held.2, held.1⟩ : Ready trust.ownerUid directory name none files))
    fun _ _ absent => absent) fun _ => ?_
  refine KeepsFiles.bind ((verifyReplaceTargetStorage_keeps ready_stable _).mono
    (fun _ ready => ready) (fun _ ready => ready.2) (fun _ _ ready => ready)
    fun _ _ ready => ready.2) fun _ => ?_
  have opened : KeepsFiles (Ready trust.ownerUid directory name none)
      (trust.openReadNofollow others (name :: directory))
      (Contains trust.ownerUid directory name none) (fun _ _ => False)
      fun _ => Contains trust.ownerUid directory name none := by
    refine KeepsFiles.relabel ?_ fun _ _ absent => absent
    apply keeps_look ready_stable (fun _ ready => ready.2) (fun _ _ _ ready => ready.2)
    rintro files ⟨secured, absent⟩
    obtain ⟨parent, above⟩ := Option.isSome_iff_exists.mp secured
    have unnamed : files.entry parent name = none := by
      have named : files.securedEntry trust.ownerUid name directory = none := absent
      rw [Filesystem.securedEntry, above] at named
      exact named
    simp only [Filesystem.openNofollow, Filesystem.locate_of_secured above, unnamed,
      Option.elim_none, bind, Except.bind]
    exact absent
  refine KeepsFiles.bind (opened.part (fun _ absent => absent) fun _ _ absent => absent)
    fun file => ?_
  intro start impossible
  exact impossible.elim

end Reading

/-! ## Any number of replacements -/

section Replacements

variable [DecidableEq Inode] (others : Others Inode String IoError trust.ownerUid)

/-- Replacements one after the other, each with its bytes and its result. -/
def replacements (directory : List String) (name : String) :
    List (WriteAttempt × List UInt8) →
      FileComputation Inode StorageError (List (List UInt8 × Except StorageError Unit))
  | [] => pure []
  | (attempt, bytes) :: rest => do
      let result ← Stepwise.attempt (trust.atomicWrite others directory name attempt bytes)
      let results ← replacements directory name rest
      pure ((bytes, result) :: results)

/-- The contents that a container may have after replacements with these results: that of the
last one that returned, or that of one that failed after it. -/
def MayContain : Option (List UInt8) → List (List UInt8 × Except StorageError Unit) →
    Option (List UInt8) → Prop
  | content, [], final => final = content
  | _, (bytes, .ok _) :: rest, final => MayContain (some bytes) rest final
  | content, (bytes, .error _) :: rest, final =>
      MayContain content rest final ∨ MayContain (some bytes) rest final

variable {trust} {directory : List String} {name : String}

/-- From a content that the first result allows, the other replacements end with one that all
the results allow. -/
theorem replacements_keeps (ancestors : trust.verifyAncestors = true)
    (attempts : List (WriteAttempt × List UInt8)) (content : Option (List UInt8)) :
    KeepsFiles (Contains trust.ownerUid directory name content)
      (trust.replacements others directory name attempts) (fun _ => True)
      (fun results files => results.map Prod.fst = attempts.map Prod.snd ∧
        ∃ final, MayContain content results final ∧
          Contains trust.ownerUid directory name final files) fun _ _ => False := by
  induction attempts generalizing content with
  | nil => exact .pure fun files held => ⟨rfl, content, rfl, held⟩
  | cons entry rest ih =>
      obtain ⟨attempt, bytes⟩ := entry
      have later : ∀ (result : Except StorageError Unit) (known : Option (List UInt8)),
          (∀ results final, MayContain known results final →
            MayContain content ((bytes, result) :: results) final) →
          KeepsFiles (Contains trust.ownerUid directory name known)
            (trust.replacements others directory name rest >>= fun results =>
              pure ((bytes, result) :: results)) (fun _ => True)
            (fun results files => results.map Prod.fst = bytes :: rest.map Prod.snd ∧
              ∃ final, MayContain content results final ∧
                Contains trust.ownerUid directory name final files) fun _ _ => False := by
        intro result known allowed
        refine (ih known).bind fun results => .pure ?_
        rintro files ⟨listed, final, may, held⟩
        exact ⟨congrArg (bytes :: ·) listed, final, allowed results final may, held⟩
      unfold replacements
      refine KeepsFiles.bind ((atomicWrite_keeps others ancestors attempt bytes).attempt.mono
        (fun _ held => held) (fun _ _ => trivial) (fun _ _ ended => ended)
        fun _ _ never => never) fun result => ?_
      intro start ended
      cases result with
      | ok => exact later (.ok ()) (some bytes) (fun _ _ may => may) start ended
      | error error =>
          rcases ended with old | new
          · exact later (.error error) content (fun _ _ => Or.inl) start old
          · exact later (.error error) (some bytes) (fun _ _ => Or.inr) start new

/-- Whatever the other users do and whichever calls are refused, a read after any number of
replacements returns all the bytes of one of them: of the last one that returned, or of one that
failed after it. It fails only because a call is refused, or because nothing was stored. -/
theorem readContainer_after_replacements (ancestors : trust.verifyAncestors = true)
    {content : Option (List UInt8)} {start : FileWorld Inode String}
    (held : Contains trust.ownerUid directory name content start.files)
    (attempts : List (WriteAttempt × List UInt8)) (portions : List Nat) :
    ∃ results final,
      (trust.replacements others directory name attempts start).result = .ok results ∧
      results.map Prod.fst = attempts.map Prod.snd ∧ MayContain content results final ∧
      ∀ answer, (trust.readContainer others directory name portions
          (trust.replacements others directory name attempts start).state).result = answer →
        (∀ bytes, answer = .ok bytes → final = some bytes) ∧
        (∀ bytes error, final = some bytes → answer = .error error →
          ∃ refusal, others.Refuses refusal ∧ error = .io refusal) := by
  have ended := (replacements_keeps others ancestors attempts content start held).ended
  cases result : (trust.replacements others directory name attempts start).result with
  | error error =>
      rw [result] at ended
      exact ended.elim
  | ok results =>
      rw [result] at ended
      obtain ⟨listed, final, may, held⟩ := ended
      refine ⟨results, final, rfl, listed, may, ?_⟩
      rintro answer rfl
      cases final with
      | none =>
          have none := (readContainer_absent others ancestors portions _ held).ended
          refine ⟨fun bytes returned => ?_, fun _ _ same => by cases same⟩
          rw [returned] at none
          exact none.elim
      | some stored =>
          obtain ⟨inode, seals, content⟩ := held
          have read := (readContainer_keeps others portions _ ⟨seals, content⟩).ended
          refine ⟨fun bytes returned => ?_, fun bytes error _ failed => ?_⟩
          · rw [returned] at read
            rw [read.2]
          · rw [failed] at read
            exact read

/-- One replacement in two portions, and what is then read. -/
theorem readContainer_after_test : ∃ results final,
    (root.replacements testOthers ["templates"] "1000.template" [(⟨"1", 0o022, [0]⟩, [1, 2])]
      ⟨testFiles "templates", 0⟩).result = .ok results ∧ MayContain none results final ∧
      ∀ bytes, (root.readContainer testOthers ["templates"] "1000.template" []
        (root.replacements testOthers ["templates"] "1000.template" [(⟨"1", 0o022, [0]⟩, [1, 2])]
          ⟨testFiles "templates", 0⟩).state).result = .ok bytes → final = some bytes := by
  obtain ⟨results, final, done, -, may, read⟩ := @readContainer_after_replacements Nat root _
    testOthers ["templates"] "1000.template" rfl none ⟨testFiles "templates", 0⟩ rfl
    [(⟨"1", 0o022, [0]⟩, [1, 2])] []
  exact ⟨results, final, done, may, (read _ rfl).1⟩

/-- Whatever the other users do, the name stands for the old content or for all of the new one at
every moment of a replacement, and nobody else ever has the file open. When the replacement has
returned, the name stands for the new content for good. -/
theorem atomicWrite_at_every_moment (ancestors : trust.verifyAncestors = true)
    {content : Option (List UInt8)} {start : FileWorld Inode String}
    (held : Contains trust.ownerUid directory name content start.files)
    (attempt : WriteAttempt) (bytes : List UInt8) :
    (∀ point ∈ (trust.atomicWrite others directory name attempt bytes start).points,
      (Contains trust.ownerUid directory name content point.files ∨
        Contains trust.ownerUid directory name (some bytes) point.files) ∧
      ∀ inode, point.files.securedEntry trust.ownerUid name directory = some inode →
        ∀ user, user ≠ trust.ownerUid →
          ¬ point.files.reads user inode ∧ ¬ point.files.writes user inode) ∧
    ((trust.atomicWrite others directory name attempt bytes start).result = .ok () →
      ∀ later, (trust.atomicWrite others directory name attempt bytes start).state.files.Untrusted
        trust.ownerUid later → Contains trust.ownerUid directory name (some bytes) later) := by
  have written := atomicWrite_keeps others ancestors attempt bytes start held
  refine ⟨fun point reached => ?_, fun returned later acted => ?_⟩
  · have holds := written.points point reached
    refine ⟨holds, fun inode named user stranger => ?_⟩
    have seals := holds.elim (fun old => old.seals named) fun new => new.seals named
    exact ⟨seals.unread user stranger, seals.unwritten user stranger⟩
  · have ended := written.ended
    rw [returned] at ended
    exact contains_stable directory name (some bytes) _ later acted ended

theorem atomicWrite_moments_test :
    (root.atomicWrite testOthers ["templates"] "1000.template" ⟨"1", 0o022, [0]⟩ [1, 2]
        ⟨testFiles "templates", 0⟩).result = .ok () ∧
      Contains 0 ["templates"] "1000.template" (some [1, 2])
        (root.atomicWrite testOthers ["templates"] "1000.template" ⟨"1", 0o022, [0]⟩ [1, 2]
          ⟨testFiles "templates", 0⟩).state.files := by
  have returned : (root.atomicWrite testOthers ["templates"] "1000.template" ⟨"1", 0o022, [0]⟩
      [1, 2] ⟨testFiles "templates", 0⟩).result = .ok () := by
    decide
  exact ⟨returned, (@atomicWrite_at_every_moment Nat root _ testOthers ["templates"]
    "1000.template" rfl none ⟨testFiles "templates", 0⟩ rfl ⟨"1", 0o022, [0]⟩ [1, 2]).2 returned _
    .refl⟩

end Replacements

end TrustPolicy

end FaceAuth
