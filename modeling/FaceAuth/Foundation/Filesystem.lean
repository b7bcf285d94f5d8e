import Mathlib.Data.Option.Basic
import Mathlib.Logic.Function.Basic
import Mathlib.Logic.Relation

/-!
# Files that several users share

Directories and files with owners and permission bits. Users without privileges change
whatever the bits let them change. A path whose directories all belong to one owner, and
are writable by nobody else, leads to the same place whatever the others do.
-/

namespace Foundation

/-- The kinds of files that programs tell apart. -/
inductive FileKind where
  | regular | directory | symlink | socket | characterDevice | other
deriving DecidableEq, Repr

/-- What the kernel knows about a file. -/
structure Metadata where
  kind : FileKind
  uid : UInt32
  mode : UInt32
deriving DecidableEq, Repr

/-- The directories, what their entries name, and which users hold a file open. -/
structure Filesystem (Inode Name : Type) where
  root : Inode
  metadata : Inode → Option Metadata
  entry : Inode → Name → Option Inode
  content : Inode → List UInt8
  reads : UInt32 → Inode → Prop
  writes : UInt32 → Inode → Prop

namespace Filesystem

variable {Inode Name : Type}

section Changes

variable [DecidableEq Inode] [DecidableEq Name] (files : Filesystem Inode Name)

/-- A directory names something else, or nothing. -/
def setEntry (directory : Inode) (name : Name) (target : Option Inode) :
    Filesystem Inode Name :=
  { files with
    entry := Function.update files.entry directory
      (Function.update (files.entry directory) name target) }

/-- Other things are known about a file. -/
def setMetadata (inode : Inode) (metadata : Option Metadata) : Filesystem Inode Name :=
  { files with metadata := Function.update files.metadata inode metadata }

/-- A file has other bytes. -/
def setContent (inode : Inode) (bytes : List UInt8) : Filesystem Inode Name :=
  { files with content := Function.update files.content inode bytes }

/-- A new file that its creator holds open. -/
def allocate (user : UInt32) (inode : Inode) (metadata : Metadata) : Filesystem Inode Name where
  root := files.root
  metadata := Function.update files.metadata inode (some metadata)
  entry := Function.update files.entry inode fun _ => none
  content := Function.update files.content inode []
  reads holder := Function.update (files.reads holder) inode (holder = user)
  writes holder := Function.update (files.writes holder) inode (holder = user)

end Changes

/-! ## Users without privileges -/

section Users

variable (files : Filesystem Inode Name)

/-- The owner may write, or let himself; the others may if one of their bits is set. -/
def MayWrite (user : UInt32) (inode : Inode) : Prop :=
  ∃ metadata, files.metadata inode = some metadata ∧
    (metadata.uid = user ∨ metadata.mode &&& 0o022 ≠ 0)

/-- The owner may read, or let himself; the others may if one of their bits is set. -/
def MayRead (user : UInt32) (inode : Inode) : Prop :=
  ∃ metadata, files.metadata inode = some metadata ∧
    (metadata.uid = user ∨ metadata.mode &&& 0o044 ≠ 0)

/-- A directory names the file, or it is the root. -/
def Linked (inode : Inode) : Prop :=
  inode = files.root ∨ ∃ directory name, files.entry directory name = some inode

/-- The file belongs to an owner, and the bits let nobody else write to it. -/
def Guarded (owner : UInt32) (inode : Inode) : Prop :=
  ∃ metadata, files.metadata inode = some metadata ∧ metadata.uid = owner ∧
    metadata.mode &&& 0o022 = 0

variable [DecidableEq Inode] [DecidableEq Name]

/-- What a user without privileges can do in one call. A file is released when no
directory names it, and its number may then be that of a new one. -/
inductive Acts (user : UInt32) : Filesystem Inode Name → Prop where
  | enter (directory : Inode) (name : Name) (target : Option Inode)
      (may : files.MayWrite user directory) :
      Acts user (files.setEntry directory name target)
  | allocate (inode : Inode) (metadata : Metadata) (free : files.metadata inode = none)
      (own : metadata.uid = user) : Acts user (files.allocate user inode metadata)
  | release (inode : Inode) (unlinked : ¬ files.Linked inode) :
      Acts user (files.setMetadata inode none)
  | chmod (inode : Inode) (metadata : Metadata) (mode : UInt32)
      (found : files.metadata inode = some metadata) (own : metadata.uid = user) :
      Acts user (files.setMetadata inode (some { metadata with mode }))
  | openRead (inode : Inode) (may : files.MayRead user inode) :
      Acts user
        { files with
          reads := Function.update files.reads user
            (Function.update (files.reads user) inode True) }
  | openWrite (inode : Inode) (may : files.MayWrite user inode) :
      Acts user
        { files with
          writes := Function.update files.writes user
            (Function.update (files.writes user) inode True) }
  | write (inode : Inode) (bytes : List UInt8) (holds : files.writes user inode) :
      Acts user (files.setContent inode bytes)
  | close (inode : Inode) :
      Acts user
        { files with
          reads := Function.update files.reads user
            (Function.update (files.reads user) inode False)
          writes := Function.update files.writes user
            (Function.update (files.writes user) inode False) }

/-- What others than an owner make of the files. -/
def Untrusted (owner : UInt32) : Filesystem Inode Name → Filesystem Inode Name → Prop :=
  Relation.ReflTransGen fun files after => ∃ user, user ≠ owner ∧ files.Acts user after

end Users

section Frames

variable {files after : Filesystem Inode Name} {owner user : UInt32} {inode : Inode}

/-- A guarded file is not one that a stranger may write to. -/
theorem Guarded.not_mayWrite (guarded : files.Guarded owner inode) (stranger : user ≠ owner) :
    ¬ files.MayWrite user inode := by
  obtain ⟨metadata, found, own, bits⟩ := guarded
  rintro ⟨other, same, may⟩
  rw [found, Option.some.injEq] at same
  subst same
  exact may.elim (fun mine => stranger (mine.symm.trans own)) fun set => set bits

/-- The kind, the owner, the bits and the entries of a file are as before. -/
structure SameNode (files after : Filesystem Inode Name) (inode : Inode) : Prop where
  metadata : after.metadata inode = files.metadata inode
  entry : after.entry inode = files.entry inode

/-- What one call of a user does to one file. -/
inductive Touches (user : UInt32) (files after : Filesystem Inode Name) (inode : Inode) : Prop where
  | same (same : SameNode files after inode)
  | entered (may : files.MayWrite user inode)
      (metadata : after.metadata inode = files.metadata inode)
  | created (metadata : Metadata) (free : files.metadata inode = none)
      (found : after.metadata inode = some metadata) (own : metadata.uid = user)
  | released (unlinked : ¬ files.Linked inode) (gone : after.metadata inode = none)
  | changed (before later : Metadata) (known : files.metadata inode = some before)
      (found : after.metadata inode = some later) (mine : before.uid = user)
      (own : later.uid = user) (kind : later.kind = before.kind)

variable [DecidableEq Inode] [DecidableEq Name]

/-- The root stays. -/
theorem Acts.root (acts : files.Acts user after) : after.root = files.root := by
  cases acts <;> rfl

/-- What one call of a user does to any file. -/
theorem Acts.touches (acts : files.Acts user after) (inode : Inode) :
    Touches user files after inode := by
  cases acts with
  | enter directory name target may =>
      by_cases same : inode = directory
      · subst same
        exact .entered may rfl
      · exact .same ⟨rfl, Function.update_of_ne same ..⟩
  | allocate other metadata free own =>
      by_cases same : inode = other
      · subst same
        exact .created metadata free (Function.update_self ..) own
      · exact .same ⟨Function.update_of_ne same .., Function.update_of_ne same ..⟩
  | release other unlinked =>
      by_cases same : inode = other
      · subst same
        exact .released unlinked (Function.update_self ..)
      · exact .same ⟨Function.update_of_ne same .., rfl⟩
  | chmod other metadata mode found own =>
      by_cases same : inode = other
      · subst same
        exact .changed metadata _ found (Function.update_self ..) own own rfl
      · exact .same ⟨Function.update_of_ne same .., rfl⟩
  | openRead | openWrite | write | close => exact .same ⟨rfl, rfl⟩

/-- A stranger leaves a guarded file as it is. -/
theorem Acts.sameNode (acts : files.Acts user after) (stranger : user ≠ owner)
    (guarded : files.Guarded owner inode) (linked : files.Linked inode) :
    files.SameNode after inode := by
  obtain ⟨metadata, known, owned, bits⟩ := guarded
  cases acts.touches inode with
  | same same => exact same
  | entered may => exact absurd may (Guarded.not_mayWrite ⟨metadata, known, owned, bits⟩ stranger)
  | created _ free =>
      rw [free] at known
      cases known
  | released unlinked => exact absurd linked unlinked
  | changed before _ found _ mine _ _ =>
      rw [found, Option.some.injEq] at known
      subst known
      exact absurd (mine.symm.trans owned) stranger

/-- Nobody makes a file that has a name one of another kind. -/
theorem Acts.kind (acts : files.Acts user after) {metadata : Metadata}
    (known : files.metadata inode = some metadata) (linked : files.Linked inode) :
    ∃ later, after.metadata inode = some later ∧ later.kind = metadata.kind := by
  cases acts.touches inode with
  | same same => exact ⟨metadata, same.metadata.trans known, rfl⟩
  | entered _ same => exact ⟨metadata, same.trans known, rfl⟩
  | created _ free =>
      rw [free] at known
      cases known
  | released unlinked => exact absurd linked unlinked
  | changed before later found change _ _ kind =>
      rw [found, Option.some.injEq] at known
      exact ⟨later, change, known ▸ kind⟩

/-- A stranger does not change the owner, kind or bits of a file that has a name. -/
theorem Acts.metadata (acts : files.Acts user after) (stranger : user ≠ owner)
    {metadata : Metadata} (known : files.metadata inode = some metadata)
    (owned : metadata.uid = owner) (linked : files.Linked inode) :
    after.metadata inode = some metadata := by
  cases acts.touches inode with
  | same same => exact same.metadata.trans known
  | entered _ same => exact same.trans known
  | created _ free =>
      rw [free] at known
      cases known
  | released unlinked => exact absurd linked unlinked
  | changed before _ found _ mine _ _ =>
      rw [found, Option.some.injEq] at known
      subst known
      exact absurd (mine.symm.trans owned) stranger

/-- A stranger does not make a file a guarded one. -/
theorem Acts.sameNode_of_after (acts : files.Acts user after) (stranger : user ≠ owner)
    (guarded : after.Guarded owner inode) : files.SameNode after inode := by
  obtain ⟨metadata, known, owned, bits⟩ := guarded
  cases acts.touches inode with
  | same same => exact same
  | entered may same =>
      rw [same] at known
      exact absurd may (Guarded.not_mayWrite ⟨metadata, known, owned, bits⟩ stranger)
  | created _ _ found own =>
      rw [found, Option.some.injEq] at known
      subst known
      exact absurd (own.symm.trans owned) stranger
  | released _ gone =>
      rw [gone] at known
      cases known
  | changed _ later _ found _ own _ =>
      rw [found, Option.some.injEq] at known
      subst known
      exact absurd (own.symm.trans owned) stranger

/-- A stranger writes only to files that he holds open, and opens only those that the bits
let him open. -/
theorem Acts.content (acts : files.Acts user after) (stranger : user ≠ owner)
    (guarded : files.Guarded owner inode)
    (unheld : ∀ other, other ≠ owner → ¬ files.writes other inode) :
    after.content inode = files.content inode ∧
      ∀ other, other ≠ owner → ¬ after.writes other inode := by
  cases acts with
  | enter | release | chmod | openRead => exact ⟨rfl, unheld⟩
  | allocate other metadata free own =>
      have foreign : inode ≠ other := by
        rintro rfl
        obtain ⟨known, found, -⟩ := guarded
        rw [free] at found
        cases found
      refine ⟨Function.update_of_ne foreign .., fun holder apart => ?_⟩
      change ¬ Function.update (files.writes holder) other (holder = user) inode
      rw [Function.update_of_ne foreign]
      exact unheld holder apart
  | openWrite other may =>
      refine ⟨rfl, fun holder apart => ?_⟩
      change ¬ Function.update files.writes user _ holder inode
      by_cases his : holder = user
      · subst his
        rw [Function.update_self]
        by_cases opened : inode = other
        · subst opened
          exact absurd may (guarded.not_mayWrite stranger)
        · rw [Function.update_of_ne opened]
          exact unheld holder apart
      · rw [Function.update_of_ne his]
        exact unheld holder apart
  | write other bytes holds =>
      refine ⟨Function.update_of_ne ?_ .., unheld⟩
      rintro rfl
      exact unheld user stranger holds
  | close other =>
      refine ⟨rfl, fun holder apart => ?_⟩
      change ¬ Function.update files.writes user _ holder inode
      by_cases his : holder = user
      · subst his
        rw [Function.update_self]
        by_cases closed : inode = other
        · subst closed
          rw [Function.update_self]
          exact id
        · rw [Function.update_of_ne closed]
          exact unheld holder apart
      · rw [Function.update_of_ne his]
        exact unheld holder apart

/-- A stranger opens no file whose bits let nobody else read. -/
theorem Acts.unread (acts : files.Acts user after) (stranger : user ≠ owner) {metadata : Metadata}
    (found : files.metadata inode = some metadata) (own : metadata.uid = owner)
    (bits : metadata.mode &&& 0o044 = 0)
    (unheld : ∀ other, other ≠ owner → ¬ files.reads other inode) :
    ∀ other, other ≠ owner → ¬ after.reads other inode := by
  intro holder apart
  cases acts with
  | enter | release | chmod | openWrite | write => exact unheld holder apart
  | allocate other metadata' free own' =>
      have foreign : inode ≠ other := by
        rintro rfl
        rw [free] at found
        cases found
      change ¬ Function.update (files.reads holder) other (holder = user) inode
      rw [Function.update_of_ne foreign]
      exact unheld holder apart
  | openRead other may =>
      change ¬ Function.update files.reads user _ holder inode
      by_cases his : holder = user
      · subst his
        rw [Function.update_self]
        by_cases opened : inode = other
        · subst opened
          obtain ⟨known, same, may⟩ := may
          rw [found, Option.some.injEq] at same
          subst same
          exact may.elim (fun mine => absurd (mine.symm.trans own) stranger)
            fun set => absurd bits set
        · rw [Function.update_of_ne opened]
          exact unheld holder apart
      · rw [Function.update_of_ne his]
        exact unheld holder apart
  | close other =>
      change ¬ Function.update files.reads user _ holder inode
      by_cases his : holder = user
      · subst his
        rw [Function.update_self]
        by_cases closed : inode = other
        · subst closed
          rw [Function.update_self]
          exact id
        · rw [Function.update_of_ne closed]
          exact unheld holder apart
      · rw [Function.update_of_ne his]
        exact unheld holder apart

end Frames

/-! ## Paths of one owner

A path is the list of its names, the last one first, so that its tails are its ancestors. -/

section Paths

variable (owner : UInt32) (files : Filesystem Inode Name)

/-- A directory of the owner that nobody else may change. -/
def trustedDirectory (inode : Inode) : Bool :=
  (files.metadata inode).any fun metadata =>
    decide (metadata.kind = .directory ∧ metadata.uid = owner ∧ metadata.mode &&& 0o022 = 0)

/-- A regular file of the owner that nobody else may touch. -/
def privateFile (inode : Inode) : Bool :=
  (files.metadata inode).any fun metadata =>
    decide (metadata.kind = .regular ∧ metadata.uid = owner ∧ metadata.mode &&& 0o077 = 0)

/-- Where a path leads whose directories, the root included, are all trusted. -/
def secured : List Name → Option Inode
  | [] => if files.trustedDirectory owner files.root then some files.root else none
  | name :: parent => do
      let directory ← secured parent
      let inode ← files.entry directory name
      if files.trustedDirectory owner inode then some inode else none

/-- What the last directory of a secured path names so. -/
def securedEntry (name : Name) (parent : List Name) : Option Inode := do
  let directory ← files.secured owner parent
  files.entry directory name

end Paths

section Stable

variable {files after : Filesystem Inode Name} {owner user : UInt32} {inode directory : Inode}
  {name : Name} {parent path : List Name}

/-- What makes a directory trusted. -/
theorem trustedDirectory_eq_true_iff : files.trustedDirectory owner inode = true ↔
    ∃ metadata, files.metadata inode = some metadata ∧ metadata.kind = .directory ∧
      metadata.uid = owner ∧ metadata.mode &&& 0o022 = 0 := by
  simp only [trustedDirectory, Option.any_eq_true, decide_eq_true_eq]

/-- What makes a file private. -/
theorem privateFile_eq_true_iff : files.privateFile owner inode = true ↔
    ∃ metadata, files.metadata inode = some metadata ∧ metadata.kind = .regular ∧
      metadata.uid = owner ∧ metadata.mode &&& 0o077 = 0 := by
  simp only [privateFile, Option.any_eq_true, decide_eq_true_eq]

/-- The empty path leads to the root, if that is trusted. -/
theorem secured_nil_eq_some_iff : files.secured owner [] = some inode ↔
    files.root = inode ∧ files.trustedDirectory owner inode = true := by
  rw [secured, Option.ite_none_right_eq_some, Option.some.injEq, and_comm]
  exact and_congr_right fun same => by rw [same]

/-- A path is secured up to its last directory. -/
theorem secured_cons_eq_some_iff : files.secured owner (name :: parent) = some inode ↔
    files.securedEntry owner name parent = some inode ∧
      files.trustedDirectory owner inode = true := by
  simp only [secured, securedEntry, Option.bind_eq_bind, Option.bind_eq_some_iff,
    Option.ite_none_right_eq_some, Option.some.injEq]
  grind

/-- A secured path leads to a trusted directory. -/
theorem trustedDirectory_of_secured (secured : files.secured owner path = some inode) :
    files.trustedDirectory owner inode = true := by
  cases path with
  | nil => exact (secured_nil_eq_some_iff.mp secured).2
  | cons => exact (secured_cons_eq_some_iff.mp secured).2

/-- A name in a secured directory. -/
theorem securedEntry_eq_some_iff : files.securedEntry owner name parent = some inode ↔
    ∃ directory, files.secured owner parent = some directory ∧
      files.entry directory name = some inode := by
  simp only [securedEntry, Option.bind_eq_bind, Option.bind_eq_some_iff]

/-- What has the name is what its directory says. -/
theorem entry_of_securedEntry (named : files.securedEntry owner name parent = some inode)
    (above : files.secured owner parent = some directory) :
    files.entry directory name = some inode := by
  obtain ⟨other, found, entry⟩ := securedEntry_eq_some_iff.mp named
  rw [above, Option.some.injEq] at found
  exact found ▸ entry

/-- The directories above a secured one are secured. -/
theorem secured_parent (secured : (files.secured owner (name :: parent)).isSome) :
    (files.secured owner parent).isSome := by
  obtain ⟨inode, found⟩ := Option.isSome_iff_exists.mp secured
  obtain ⟨named, -⟩ := secured_cons_eq_some_iff.mp found
  obtain ⟨directory, above, -⟩ := securedEntry_eq_some_iff.mp named
  exact Option.isSome_iff_exists.mpr ⟨directory, above⟩

/-- What is named is linked. -/
theorem linked_of_securedEntry (named : files.securedEntry owner name parent = some inode) :
    files.Linked inode := by
  obtain ⟨directory, -, found⟩ := securedEntry_eq_some_iff.mp named
  exact .inr ⟨directory, name, found⟩

/-- What a secured path leads to is linked. -/
theorem linked_of_secured (secured : files.secured owner path = some inode) :
    files.Linked inode := by
  cases path with
  | nil => exact .inl (secured_nil_eq_some_iff.mp secured).1.symm
  | cons => exact linked_of_securedEntry (secured_cons_eq_some_iff.mp secured).1

/-- Bits that are clear for everybody else are clear for those who write. -/
theorem and_writers_of_private {mode : UInt32} (bits : mode &&& 0o077 = 0) :
    mode &&& 0o022 = 0 := by
  calc mode &&& 0o022 = mode &&& (0o077 &&& 0o022) := rfl
    _ = 0 := by rw [← UInt32.and_assoc, bits, UInt32.zero_and]

/-- Nobody else may read a private file. -/
theorem and_readers_of_private {mode : UInt32} (bits : mode &&& 0o077 = 0) :
    mode &&& 0o044 = 0 := by
  calc mode &&& 0o044 = mode &&& (0o077 &&& 0o044) := rfl
    _ = 0 := by rw [← UInt32.and_assoc, bits, UInt32.zero_and]

/-- A trusted directory is guarded. -/
theorem guarded_of_trustedDirectory (trusted : files.trustedDirectory owner inode = true) :
    files.Guarded owner inode := by
  obtain ⟨metadata, found, -, own, bits⟩ := trustedDirectory_eq_true_iff.mp trusted
  exact ⟨metadata, found, own, bits⟩

/-- A private file is guarded. -/
theorem guarded_of_privateFile (held : files.privateFile owner inode = true) :
    files.Guarded owner inode := by
  obtain ⟨metadata, found, -, own, bits⟩ := privateFile_eq_true_iff.mp held
  exact ⟨metadata, found, own, and_writers_of_private bits⟩

variable [DecidableEq Inode] [DecidableEq Name]

/-- A predicate of the metadata that only guarded files meet. -/
theorem Acts.any_metadata (acts : files.Acts user after) (stranger : user ≠ owner)
    (linked : files.Linked inode) {property : Metadata → Bool}
    (guards : ∀ metadata, property metadata = true →
      metadata.uid = owner ∧ metadata.mode &&& 0o022 = 0) :
    (after.metadata inode).any property = (files.metadata inode).any property := by
  have guarded : ∀ {some : Filesystem Inode Name},
      (some.metadata inode).any property = true → some.Guarded owner inode := by
    intro some met
    obtain ⟨metadata, found, holds⟩ := (Option.any_eq_true ..).mp met
    exact ⟨metadata, found, guards metadata holds⟩
  by_cases before : (files.metadata inode).any property = true
  · rw [(acts.sameNode stranger (guarded before) linked).metadata]
  · by_cases later : (after.metadata inode).any property = true
    · rw [(acts.sameNode_of_after stranger (guarded later)).metadata]
    · rw [Bool.eq_false_iff.mpr before, Bool.eq_false_iff.mpr later]

/-- A stranger changes nothing about the trust in a directory. -/
theorem Acts.trustedDirectory (acts : files.Acts user after) (stranger : user ≠ owner)
    (linked : files.Linked inode) :
    after.trustedDirectory owner inode = files.trustedDirectory owner inode := by
  apply acts.any_metadata stranger linked
  intro metadata trusted
  exact (of_decide_eq_true trusted).2

/-- A stranger changes nothing about the privacy of a file. -/
theorem Acts.privateFile (acts : files.Acts user after) (stranger : user ≠ owner)
    (linked : files.Linked inode) :
    after.privateFile owner inode = files.privateFile owner inode := by
  apply acts.any_metadata stranger linked
  intro metadata held
  have held := of_decide_eq_true held
  exact ⟨held.2.1, and_writers_of_private held.2.2⟩

/-- What a secured path names is what it named before others acted, and the other way
round. -/
theorem Acts.securedEntry_of_secured (acts : files.Acts user after) (stranger : user ≠ owner)
    (same : after.secured owner parent = files.secured owner parent) (name : Name) :
    after.securedEntry owner name parent = files.securedEntry owner name parent := by
  simp only [securedEntry, same]
  cases found : files.secured owner parent with
  | none => rfl
  | some directory =>
      have guarded := guarded_of_trustedDirectory (trustedDirectory_of_secured found)
      have node := acts.sameNode stranger guarded (linked_of_secured found)
      simp only [Option.bind_eq_bind, Option.bind_some, node.entry]

/-- A stranger changes no secured path. -/
theorem Acts.secured (acts : files.Acts user after) (stranger : user ≠ owner)
    (path : List Name) : after.secured owner path = files.secured owner path := by
  induction path with
  | nil =>
      have linked : files.Linked files.root := .inl rfl
      have same := acts.trustedDirectory stranger linked
      rw [Filesystem.secured, Filesystem.secured, acts.root, same]
  | cons name parent ih =>
      have named := acts.securedEntry_of_secured stranger ih name
      apply Option.ext
      intro inode
      rw [secured_cons_eq_some_iff, secured_cons_eq_some_iff, named]
      refine and_congr_right fun found => ?_
      rw [acts.trustedDirectory stranger (linked_of_securedEntry found)]

/-- Nobody else holds the file open for writing. -/
def Unwritten (files : Filesystem Inode Name) (owner : UInt32) (inode : Inode) : Prop :=
  ∀ user, user ≠ owner → ¬ files.writes user inode

/-- Nobody else holds the file open for reading. -/
def Unread (files : Filesystem Inode Name) (owner : UInt32) (inode : Inode) : Prop :=
  ∀ user, user ≠ owner → ¬ files.reads user inode

namespace Untrusted

/-- The others may do nothing. -/
theorem refl : files.Untrusted owner files := Relation.ReflTransGen.refl

/-- The others may go on. -/
theorem trans {last : Filesystem Inode Name} (first : files.Untrusted owner after)
    (second : after.Untrusted owner last) : files.Untrusted owner last :=
  Relation.ReflTransGen.trans first second

/-- What no call of a stranger changes, no number of their calls changes. -/
theorem keeps {Value : Type} (untrusted : files.Untrusted owner after)
    (look : Filesystem Inode Name → Value)
    (kept : ∀ (files after : Filesystem Inode Name) (user : UInt32), user ≠ owner →
      files.Acts user after → look after = look files) : look after = look files := by
  induction untrusted with
  | refl => rfl
  | tail _ step ih =>
      obtain ⟨user, stranger, acts⟩ := step
      exact (kept _ _ user stranger acts).trans ih

/-- A path of trusted directories leads to the same place before and after. -/
theorem secured (untrusted : files.Untrusted owner after) (path : List Name) :
    after.secured owner path = files.secured owner path :=
  untrusted.keeps (fun files => files.secured owner path)
    fun _ _ _ stranger acts => acts.secured stranger path

/-- The others change no name in a secured directory. -/
theorem securedEntry (untrusted : files.Untrusted owner after) (name : Name)
    (parent : List Name) :
    after.securedEntry owner name parent = files.securedEntry owner name parent :=
  untrusted.keeps (fun files => files.securedEntry owner name parent)
    fun _ _ _ stranger acts => acts.securedEntry_of_secured stranger (acts.secured stranger parent)
      name

end Untrusted

/-- A file in a secured directory that nobody but the owner has ever had access to. -/
structure Sealed (files : Filesystem Inode Name) (owner : UInt32) (name : Name)
    (parent : List Name) (inode : Inode) : Prop where
  named : files.securedEntry owner name parent = some inode
  held : files.privateFile owner inode = true
  unwritten : files.Unwritten owner inode
  unread : files.Unread owner inode

/-- A stranger changes nothing about a sealed file. -/
theorem Acts.seals (acts : files.Acts user after) (stranger : user ≠ owner)
    (seals : files.Sealed owner name parent inode) :
    after.Sealed owner name parent inode ∧ after.content inode = files.content inode := by
  have linked := linked_of_securedEntry seals.named
  have same := acts.securedEntry_of_secured stranger (acts.secured stranger parent) name
  obtain ⟨metadata, found, -, own, bits⟩ := privateFile_eq_true_iff.mp seals.held
  have content := acts.content stranger (guarded_of_privateFile seals.held) seals.unwritten
  have unread := acts.unread stranger found own (and_readers_of_private bits) seals.unread
  exact ⟨⟨same.trans seals.named, (acts.privateFile stranger linked).trans seals.held, content.2,
    unread⟩, content.1⟩

/-- Whatever others do, a sealed file keeps its name, its bits and its bytes. -/
theorem Untrusted.seals (untrusted : files.Untrusted owner after)
    (seals : files.Sealed owner name parent inode) :
    after.Sealed owner name parent inode ∧ after.content inode = files.content inode := by
  induction untrusted with
  | refl => exact ⟨seals, rfl⟩
  | tail _ step ih =>
      obtain ⟨user, stranger, acts⟩ := step
      obtain ⟨later, same⟩ := acts.seals stranger ih.1
      exact ⟨later, same.trans ih.2⟩

/-- What has a name in a secured directory stays of the kind that it is. -/
theorem Untrusted.kind (untrusted : files.Untrusted owner after) {metadata : Metadata}
    (named : files.securedEntry owner name parent = some inode)
    (known : files.metadata inode = some metadata) :
    ∃ later, after.metadata inode = some later ∧ later.kind = metadata.kind := by
  induction untrusted with
  | refl => exact ⟨metadata, known, rfl⟩
  | tail before step ih =>
      obtain ⟨user, stranger, acts⟩ := step
      obtain ⟨later, found, kind⟩ := ih
      have still := (Untrusted.securedEntry before name parent).trans named
      obtain ⟨last, change, same⟩ := acts.kind found (linked_of_securedEntry still)
      exact ⟨last, change, same.trans kind⟩

/-- What the owner has in a secured directory keeps its owner, kind and bits. -/
theorem Untrusted.metadata (untrusted : files.Untrusted owner after) {metadata : Metadata}
    (named : files.securedEntry owner name parent = some inode)
    (known : files.metadata inode = some metadata) (owned : metadata.uid = owner) :
    after.metadata inode = some metadata := by
  induction untrusted with
  | refl => exact known
  | tail before step ih =>
      obtain ⟨user, stranger, acts⟩ := step
      have still := (Untrusted.securedEntry before name parent).trans named
      exact acts.metadata stranger ih owned (linked_of_securedEntry still)

/-- The bytes of a named file that others cannot write to stay the same as long as none of
them had it open for writing while they could not. -/
def Settled (files : Filesystem Inode Name) (owner : UInt32) (inode : Inode)
    (bytes : List UInt8) : Prop :=
  files.Guarded owner inode → files.Unwritten owner inode ∧ files.content inode = bytes

/-- The others change nothing about a settled file. -/
theorem Untrusted.settled (untrusted : files.Untrusted owner after) {bytes : List UInt8}
    (settled : files.Settled owner inode bytes) : after.Settled owner inode bytes := by
  induction untrusted with
  | refl => exact settled
  | tail before step ih =>
      obtain ⟨user, stranger, acts⟩ := step
      intro guarded
      have same := acts.sameNode_of_after stranger guarded
      obtain ⟨metadata, known, own⟩ := guarded
      rw [same.metadata] at known
      have earlier := ih ⟨metadata, known, own⟩
      obtain ⟨content, unwritten⟩ := acts.content stranger ⟨metadata, known, own⟩ earlier.1
      exact ⟨unwritten, content.trans earlier.2⟩

end Stable

/-! ## Calls of the owner -/

section Own

variable {files after : Filesystem Inode Name} {owner : UInt32} {inode directory held : Inode}
  {name label : Name} {parent : List Name} {metadata : Metadata}

/-- Secured paths depend only on which directories are trusted and on where these name each
other. -/
theorem secured_congr (root : after.root = files.root)
    (trusted : after.trustedDirectory owner = files.trustedDirectory owner)
    (named : ∀ directory name inode, files.trustedDirectory owner directory = true →
      files.trustedDirectory owner inode = true →
        (after.entry directory name = some inode ↔ files.entry directory name = some inode))
    (path : List Name) : after.secured owner path = files.secured owner path := by
  induction path with
  | nil => rw [secured, secured, root, trusted]
  | cons name parent ih =>
      apply Option.ext
      intro inode
      rw [secured_cons_eq_some_iff, secured_cons_eq_some_iff, trusted, securedEntry_eq_some_iff,
        securedEntry_eq_some_iff, ih]
      refine and_congr_left fun inside => exists_congr fun directory =>
        and_congr_right fun above => ?_
      exact named directory name inode (trustedDirectory_of_secured above) inside

/-- A sealed file is none that is created later. -/
theorem Sealed.ne (seals : files.Sealed owner label parent held)
    (free : files.metadata inode = none) : held ≠ inode := by
  rintro rfl
  have known := seals.held
  simp [Filesystem.privateFile, free] at known

variable [DecidableEq Inode]

/-- A file that does not exist yet is not on a secured path. -/
theorem secured_allocate (free : files.metadata inode = none)
    (regular : metadata.kind ≠ .directory) (path : List Name) :
    (files.allocate owner inode metadata).secured owner path = files.secured owner path := by
  have trusted : (files.allocate owner inode metadata).trustedDirectory owner =
      files.trustedDirectory owner := by
    funext other
    change Option.any _ (Function.update files.metadata inode (some metadata) other) = _
    by_cases same : other = inode
    · subst same
      simp [trustedDirectory, free, regular]
    · rw [Function.update_of_ne same]
      rfl
  apply secured_congr (by rfl) trusted
  intro directory name target inside _
  have apart : directory ≠ inode := by
    rintro rfl
    simp [trustedDirectory, free] at inside
  change Function.update files.entry inode _ directory name = some target ↔ _
  rw [Function.update_of_ne apart]

/-- A new file changes no name. -/
theorem securedEntry_allocate (free : files.metadata inode = none)
    (regular : metadata.kind ≠ .directory) (name : Name) (parent : List Name) :
    (files.allocate owner inode metadata).securedEntry owner name parent =
      files.securedEntry owner name parent := by
  simp only [securedEntry, secured_allocate free regular]
  cases above : files.secured owner parent with
  | none => rfl
  | some directory =>
      have apart : directory ≠ inode := by
        rintro rfl
        have trusted := trustedDirectory_of_secured above
        simp [trustedDirectory, free] at trusted
      change Function.update files.entry inode _ directory name = files.entry directory name
      rw [Function.update_of_ne apart]

/-- The metadata of a file that is and stays no directory does not matter to secured paths. -/
theorem secured_setMetadata (before : files.trustedDirectory owner inode = false)
    (regular : metadata.kind ≠ .directory) (path : List Name) :
    (files.setMetadata inode (some metadata)).secured owner path = files.secured owner path := by
  have trusted : (files.setMetadata inode (some metadata)).trustedDirectory owner =
      files.trustedDirectory owner := by
    funext other
    change Option.any _ (Function.update files.metadata inode (some metadata) other) = _
    by_cases same : other = inode
    · subst same
      rw [before, Function.update_self]
      simp [regular]
    · rw [Function.update_of_ne same]
      rfl
  apply secured_congr (by rfl) trusted
  intro _ _ _ _ _
  rfl

/-- Writing changes no path. -/
theorem secured_setContent (inode : Inode) (bytes : List UInt8) (path : List Name) :
    (files.setContent inode bytes).secured owner path = files.secured owner path := by
  apply secured_congr (by rfl) (by rfl)
  intro _ _ _ _ _
  rfl

/-- Writing changes no name. -/
theorem securedEntry_setContent (inode : Inode) (bytes : List UInt8) (name : Name)
    (parent : List Name) : (files.setContent inode bytes).securedEntry owner name parent =
      files.securedEntry owner name parent := by
  rw [securedEntry, secured_setContent]
  rfl

/-- Writing leaves a file sealed. -/
theorem Sealed.setContent (seals : files.Sealed owner label parent held) (inode : Inode)
    (bytes : List UInt8) : (files.setContent inode bytes).Sealed owner label parent held where
  named := (securedEntry_setContent inode bytes label parent).trans seals.named
  held := seals.held
  unwritten := seals.unwritten
  unread := seals.unread

/-- A new file leaves the others sealed. -/
theorem Sealed.allocate (seals : files.Sealed owner label parent held)
    (free : files.metadata inode = none) (regular : metadata.kind ≠ .directory) :
    (files.allocate owner inode metadata).Sealed owner label parent held := by
  have apart := seals.ne free
  constructor
  · rw [securedEntry_allocate free regular, seals.named]
  · change Option.any _ (Function.update files.metadata inode _ held) = true
    rw [Function.update_of_ne apart]
    exact seals.held
  · intro user stranger holds
    change Function.update (files.writes user) inode (user = owner) held at holds
    rw [Function.update_of_ne apart] at holds
    exact seals.unwritten user stranger holds
  · intro user stranger holds
    change Function.update (files.reads user) inode (user = owner) held at holds
    rw [Function.update_of_ne apart] at holds
    exact seals.unread user stranger holds

variable [DecidableEq Name]

/-- Names of files that are no directories do not matter to secured paths. -/
theorem secured_setEntry {target : Option Inode}
    (before : ∀ inode, files.entry directory name = some inode →
      files.trustedDirectory owner inode = false)
    (next : ∀ inode, target = some inode → files.trustedDirectory owner inode = false)
    (path : List Name) :
    (files.setEntry directory name target).secured owner path = files.secured owner path := by
  apply secured_congr (by rfl) (by rfl)
  intro other label inode _ inside
  change Function.update files.entry directory _ other label = some inode ↔ _
  by_cases there : other = directory
  · subst there
    rw [Function.update_self]
    by_cases same : label = name
    · subst same
      rw [Function.update_self]
      refine iff_of_false (fun found => ?_) fun found => ?_
      · exact Bool.false_ne_true ((next inode found).symm.trans inside)
      · exact Bool.false_ne_true ((before inode found).symm.trans inside)
    · rw [Function.update_of_ne same]
  · rw [Function.update_of_ne there]

/-- The other names of the directory stay. -/
theorem securedEntry_setEntry_of_ne {target : Option Inode}
    (kept : (files.setEntry directory name target).secured owner parent =
      files.secured owner parent) (other : label ≠ name) :
    (files.setEntry directory name target).securedEntry owner label parent =
      files.securedEntry owner label parent := by
  simp only [securedEntry, kept]
  congr 1
  funext found
  change Function.update files.entry directory _ found label = _
  by_cases there : found = directory
  · rw [there, Function.update_self, Function.update_of_ne other]
  · rw [Function.update_of_ne there]

/-- The name stands for what it was given. -/
theorem securedEntry_setEntry_self {target : Option Inode}
    (kept : (files.setEntry directory name target).secured owner parent =
      files.secured owner parent) (above : files.secured owner parent = some directory) :
    (files.setEntry directory name target).securedEntry owner name parent = target := by
  simp only [securedEntry, kept, above, Option.bind_eq_bind, Option.bind_some]
  change Function.update files.entry directory _ directory name = _
  rw [Function.update_self, Function.update_self]

variable {target : Option Inode}

/-- A sealed file stays sealed when another name changes. -/
theorem Sealed.setEntry (seals : files.Sealed owner label parent held)
    (kept : (files.setEntry directory name target).secured owner parent =
      files.secured owner parent) (other : label ≠ name) :
    (files.setEntry directory name target).Sealed owner label parent held where
  named := (securedEntry_setEntry_of_ne kept other).trans seals.named
  held := seals.held
  unwritten := seals.unwritten
  unread := seals.unread

/-- A sealed file that gets another name is sealed under it. -/
theorem Sealed.setEntry_self (seals : files.Sealed owner label parent held)
    (kept : (files.setEntry directory name (some held)).secured owner parent =
      files.secured owner parent) (above : files.secured owner parent = some directory) :
    (files.setEntry directory name (some held)).Sealed owner name parent held where
  named := securedEntry_setEntry_self kept above
  held := seals.held
  unwritten := seals.unwritten
  unread := seals.unread

/-- A new file under a new name leaves all secured paths as they are. -/
theorem secured_create (free : files.metadata inode = none)
    (regular : metadata.kind ≠ .directory)
    (trusted : files.trustedDirectory owner directory = true)
    (absent : files.entry directory name = none) (path : List Name) :
    ((files.allocate owner inode metadata).setEntry directory name (some inode)).secured owner
      path = files.secured owner path := by
  have apart : directory ≠ inode := by
    rintro rfl
    simp [trustedDirectory, free] at trusted
  rw [secured_setEntry, secured_allocate free regular]
  · intro found named
    change Function.update files.entry inode _ directory name = some found at named
    rw [Function.update_of_ne apart, absent] at named
    cases named
  · intro found named
    cases named
    have created : (files.allocate owner inode metadata).metadata inode = some metadata :=
      Function.update_self ..
    rw [trustedDirectory, created, Option.any_some]
    simp [regular]

/-- A private file that the owner creates in a secured directory is sealed. -/
theorem sealed_create (free : files.metadata inode = none) (regular : metadata.kind = .regular)
    (own : metadata.uid = owner) (bits : metadata.mode &&& 0o077 = 0)
    (above : files.secured owner parent = some directory)
    (absent : files.entry directory name = none) :
    ((files.allocate owner inode metadata).setEntry directory name (some inode)).Sealed owner
      name parent inode := by
  have other : metadata.kind ≠ .directory := by
    rw [regular]
    decide
  have created : (files.allocate owner inode metadata).metadata inode = some metadata :=
    Function.update_self ..
  have kept := secured_create free other (trustedDirectory_of_secured above) absent parent
  constructor
  · apply securedEntry_setEntry_self (kept.trans (secured_allocate free other parent).symm)
    rw [secured_allocate free other, above]
  · exact privateFile_eq_true_iff.mpr ⟨metadata, created, regular, own, bits⟩
  · intro user stranger holds
    change Function.update (files.writes user) inode (user = owner) inode at holds
    rw [Function.update_self] at holds
    exact stranger holds
  · intro user stranger holds
    change Function.update (files.reads user) inode (user = owner) inode at holds
    rw [Function.update_self] at holds
    exact stranger holds

/-- A file that was sealed under another name is so after a new file is created. -/
theorem Sealed.create (seals : files.Sealed owner label parent held)
    (free : files.metadata inode = none) (regular : metadata.kind ≠ .directory)
    (trusted : files.trustedDirectory owner directory = true)
    (absent : files.entry directory name = none) (other : label ≠ name) :
    ((files.allocate owner inode metadata).setEntry directory name (some inode)).Sealed owner
      label parent held := by
  have kept := secured_create free regular trusted absent parent
  exact (seals.allocate free regular).setEntry
    (kept.trans (secured_allocate free regular parent).symm) other

end Own

end Filesystem

end Foundation
