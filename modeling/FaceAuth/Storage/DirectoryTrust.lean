import FaceAuth.Core.Files
import FaceAuth.Storage.KeyFile

/-!
# Paths that only the owner can change

The checks of directories and files before the store uses them. Each of them is a call of
its own, and other users act between the calls.
-/

namespace FaceAuth

open Foundation

/-- Who must own the paths of the store, and whether the ancestors are looked at. -/
structure TrustPolicy where
  ownerUid : UInt32
  verifyAncestors : Bool
deriving DecidableEq, Repr

/-- The policy of the installed service: root owns the chain. -/
def TrustPolicy.root : TrustPolicy := ⟨0, true⟩

/-- Why a chain of directories is not trusted. -/
inductive TrustViolation where
  | io (error : IoError)
  | owner (path : List String) (actualUid : UInt32)
  | permissions (path : List String) (mode : UInt32)
  | type (path : List String)
deriving DecidableEq

/-- The same violation as an error of the store. -/
def KeyPathError.storageError : KeyPathError → StorageError
  | .io error => .io error
  | .unsafeOwner path expectedUid actualUid => .unsafeOwner path expectedUid actualUid
  | .unsafePermissions path mode => .unsafePermissions path mode
  | .unsafePathType path => .unsafePathType path
  | .symlink path => .symlink path

namespace TrustPolicy

variable {Inode : Type} (trust : TrustPolicy)

/-! ## The checks -/

/-- The checks of one directory: its type, then its owner, then its permissions. -/
def checkDirectory (path : List String) (metadata : Metadata) : Except TrustViolation Unit := do
  require (metadata.kind = .directory) (.type path)
  require (metadata.uid = trust.ownerUid) (.owner path metadata.uid)
  require (metadata.mode &&& 0o777 &&& 0o022 = 0) (.permissions path (metadata.mode &&& 0o777))

/-- The checks of a regular file that is open. -/
def checkOpenFile (path : List String) (metadata : Metadata) : Except KeyPathError Unit := do
  require (metadata.kind = .regular) (.unsafePathType (pathText path))
  require (metadata.uid = trust.ownerUid)
    (.unsafeOwner (pathText path) trust.ownerUid metadata.uid)
  require (metadata.mode &&& 0o777 &&& 0o077 = 0)
    (.unsafePermissions (pathText path) (metadata.mode &&& 0o777).toNat)

/-- The checks of what has the name of a file, if anything has. -/
def checkReplaceTarget (path : List String) :
    Except IoError Metadata → Except KeyPathError Unit
  | .ok metadata => do
      require (metadata.kind ≠ .symlink) (.symlink (pathText path))
      trust.checkOpenFile path metadata
  | .error error => require (error.kind = .notFound) (.io error)

section Found

variable {trust} {files : Filesystem Inode String} {inode : Inode} {metadata : Metadata}
  {path : List String}

/-- The bits that the checks look at are among the nine that they keep. -/
theorem and_permissions (mode bits : UInt32) (among : 0o777 &&& bits = bits) :
    mode &&& 0o777 &&& bits = mode &&& bits := by
  rw [UInt32.and_assoc, among]

theorem checkDirectory_eq_ok_iff (found : files.metadata inode = some metadata) :
    trust.checkDirectory path metadata = .ok () ↔
      files.trustedDirectory trust.ownerUid inode = true := by
  rw [Filesystem.trustedDirectory_eq_true_iff, found]
  simp only [checkDirectory, check_bind_eq_ok_iff, require_eq_ok_iff, Option.some.injEq,
    exists_eq_left', and_permissions metadata.mode 0o022 (by decide)]

theorem checkOpenFile_eq_ok_iff (found : files.metadata inode = some metadata) :
    trust.checkOpenFile path metadata = .ok () ↔
      files.privateFile trust.ownerUid inode = true := by
  rw [Filesystem.privateFile_eq_true_iff, found]
  simp only [checkOpenFile, check_bind_eq_ok_iff, require_eq_ok_iff, Option.some.injEq,
    exists_eq_left', and_permissions metadata.mode 0o077 (by decide)]

end Found

variable [DecidableEq Inode] (others : Others Inode String IoError trust.ownerUid)

/-- Look at a directory without following a link, and check it. -/
def verifyDirectory (path : List String) : FileComputation Inode TrustViolation Unit := do
  let metadata ← (others.look fun files => files.lstat others.links path).relabel
    (.io ∘ .ofFailure)
  Stepwise.ofExcept (trust.checkDirectory path metadata)

/-- The directory first, then its ancestors up to the root. -/
def verifyDirectoryChain : List String → FileComputation Inode TrustViolation Unit
  | [] => trust.verifyDirectory others []
  | name :: parent => do
      trust.verifyDirectory others (name :: parent)
      if trust.verifyAncestors then verifyDirectoryChain parent else pure ()

/-- The violation as an error that names the path. -/
def pathError : TrustViolation → KeyPathError
  | .io error => .io error
  | .owner path actualUid => .unsafeOwner (pathText path) trust.ownerUid actualUid
  | .permissions path mode => .unsafePermissions (pathText path) mode.toNat
  | .type path => .unsafePathType (pathText path)

/-- The chain of directories, for the store. -/
def verifyDirectoryStorage (path : List String) : FileComputation Inode StorageError Unit :=
  (trust.verifyDirectoryChain others path).relabel fun violation =>
    (trust.pathError violation).storageError

/-- The chain of directories, for the key. -/
def verifyDirectoryKey (path : List String) : FileComputation Inode KeyError Unit :=
  (trust.verifyDirectoryChain others path).relabel fun violation =>
    (trust.pathError violation).keyError

/-- Check a file that is open. -/
def verifyOpen (file : Inode) (path : List String) : FileComputation Inode KeyPathError Unit := do
  let metadata ← (others.look fun files => files.fstat file).relabel (.io ∘ .ofFailure)
  Stepwise.ofExcept (trust.checkOpenFile path metadata)

/-- Check an open file, for the store. -/
def verifyOpenStorageFile (file : Inode) (path : List String) :
    FileComputation Inode StorageError Unit :=
  (trust.verifyOpen others file path).relabel KeyPathError.storageError

/-- Check an open file, for the key. -/
def verifyOpenKeyFile (file : Inode) (path : List String) :
    FileComputation Inode KeyError Unit :=
  (trust.verifyOpen others file path).relabel KeyPathError.keyError

/-- Check what a new file would replace, if anything. -/
def verifyReplaceTarget (path : List String) : FileComputation Inode KeyPathError Unit :=
  (others.look fun files => files.lstat others.links path).judge fun found =>
    trust.checkReplaceTarget path (found.mapError .ofFailure)

/-- Check what a new container would replace. -/
def verifyReplaceTargetStorage (path : List String) : FileComputation Inode StorageError Unit :=
  (trust.verifyReplaceTarget others path).relabel KeyPathError.storageError

/-- Check what a new key file would replace. -/
def verifyReplaceTargetKey (path : List String) : FileComputation Inode KeyError Unit :=
  (trust.verifyReplaceTarget others path).relabel KeyPathError.keyError

/-- Open a file to read it, unless its path is a link. -/
def openReadNofollow (path : List String) : FileComputation Inode IoError Inode :=
  (others.look fun files => files.openNofollow others.links path).relabel .ofFailure

/-! ## What the checks find -/

section Checks

variable {trust others} {files : Filesystem Inode String} {inode : Inode} {metadata : Metadata}
  {path parent : List String} {name : String}

/-- The path leads to a trusted directory, whatever it passes through. -/
def LeadsToTrusted (trust : TrustPolicy) (others : Others Inode String IoError trust.ownerUid)
    (files : Filesystem Inode String) (path : List String) : Prop :=
  ∃ inode, files.locate others.links path = .ok inode ∧
    files.trustedDirectory trust.ownerUid inode = true

/-- In a secured directory no link diverts the look at a name. -/
theorem leadsToTrusted_iff_of_secured (above : (files.secured trust.ownerUid parent).isSome) :
    LeadsToTrusted trust others files (name :: parent) ↔
      (files.secured trust.ownerUid (name :: parent)).isSome := by
  obtain ⟨directory, above⟩ := Option.isSome_iff_exists.mp above
  rw [LeadsToTrusted, Option.isSome_iff_exists]
  refine exists_congr fun inode => ?_
  rw [Filesystem.locate_of_secured above, Filesystem.secured_cons_eq_some_iff,
    Filesystem.securedEntry, above]
  refine and_congr_left fun _ => ?_
  change _ ↔ files.entry directory name = some inode
  cases files.entry directory name <;> simp

theorem verifyDirectory_ensures (path : List String) (start : FileWorld Inode String) :
    (trust.verifyDirectory others path).Ensures start
      (fun world => start.files.Untrusted trust.ownerUid world.files)
      fun result world => start.files.Untrusted trust.ownerUid world.files ∧
        world.calls = start.calls + 1 ∧
        (result = .ok () ↔ others.Unrefused start.calls 1 ∧
          LeadsToTrusted trust others world.files path) := by
  have looked : (others.look fun files => files.lstat others.links path).Ensures start
      (fun world => start.files.Untrusted trust.ownerUid world.files)
      fun result world => start.files.Untrusted trust.ownerUid world.files ∧
        world.calls = start.calls + 1 ∧
        ∀ metadata, result = .ok metadata ↔ others.fault (start.calls + 1) = none ∧
          world.files.lstat others.links path = .ok metadata := by
    apply Others.ensures_look
    · exact fun files acted => acted
    · exact fun files error acted refused => ⟨acted, rfl, by simp [refused]⟩
    · exact fun files acted heard => ⟨acted, rfl, by simp [heard]⟩
  have found : ((others.look fun files => files.lstat others.links path).relabel
      (TrustViolation.io ∘ .ofFailure)).Ensures start
      (fun world => start.files.Untrusted trust.ownerUid world.files)
      fun result world => start.files.Untrusted trust.ownerUid world.files ∧
        world.calls = start.calls + 1 ∧
        ∀ metadata, result = .ok metadata ↔ others.fault (start.calls + 1) = none ∧
          world.files.lstat others.links path = .ok metadata := by
    apply looked.relabel
    · exact fun value world held => ⟨held.1, held.2.1, fun metadata => by rw [← held.2.2]; simp⟩
    · exact fun error world held => ⟨held.1, held.2.1, fun metadata => by rw [← held.2.2]; simp⟩
  unfold verifyDirectory
  apply found.bind
  · rintro error world ⟨acted, calls, found⟩
    refine ⟨acted, calls, iff_of_false (by simp) ?_⟩
    rintro ⟨heard, inode, located, trusted⟩
    obtain ⟨metadata, known, -⟩ := Filesystem.trustedDirectory_eq_true_iff.mp trusted
    have none := (found metadata).mpr
      ⟨Others.unrefused_one_iff.mp heard, Filesystem.lstat_eq_ok_iff.mpr ⟨inode, located, known⟩⟩
    cases none
  · rintro metadata world ⟨acted, calls, found⟩
    apply Stepwise.Ensures.ask
    obtain ⟨heard, looked⟩ := (found metadata).mp rfl
    obtain ⟨inode, located, known⟩ := Filesystem.lstat_eq_ok_iff.mp looked
    refine ⟨acted, calls, ?_⟩
    rw [checkDirectory_eq_ok_iff known, Others.unrefused_one_iff, and_iff_right heard,
      LeadsToTrusted]
    constructor
    · intro trusted
      exact ⟨inode, located, trusted⟩
    · rintro ⟨other, same, trusted⟩
      rw [located, Except.ok.injEq] at same
      exact same ▸ trusted

theorem leadsToTrusted_nil_iff : LeadsToTrusted trust others files [] ↔
    (files.secured trust.ownerUid []).isSome := by
  rw [LeadsToTrusted, Option.isSome_iff_exists]
  refine exists_congr fun inode => ?_
  rw [Filesystem.secured_nil_eq_some_iff, Filesystem.locate, Except.ok.injEq]

/-- The walk from a directory up to the root finds what a look at all of them at once, before
the walk, would have found. -/
theorem verifyDirectoryChain_ensures (ancestors : trust.verifyAncestors = true)
    (path : List String) (start : FileWorld Inode String) :
    (trust.verifyDirectoryChain others path).Ensures start
      (fun world => start.files.Untrusted trust.ownerUid world.files)
      fun result world => start.files.Untrusted trust.ownerUid world.files ∧
        (result = .ok () → world.calls = start.calls + (path.length + 1)) ∧
        (result = .ok () ↔ others.Unrefused start.calls (path.length + 1) ∧
          (start.files.secured trust.ownerUid path).isSome) := by
  induction path generalizing start with
  | nil =>
      apply (verifyDirectory_ensures [] start).mono
      · exact fun _ acted => acted
      · rintro result world ⟨acted, calls, found⟩
        rw [leadsToTrusted_nil_iff, acted.secured] at found
        exact ⟨acted, fun _ => calls, found⟩
  | cons name parent ih =>
      -- The parent is secured before this look if the rest of the walk says so after it.
      have split : others.Unrefused start.calls ((name :: parent).length + 1) ↔
          others.Unrefused start.calls 1 ∧
            others.Unrefused (start.calls + 1) (parent.length + 1) := by
        rw [← Others.unrefused_add_iff, List.length_cons, Nat.add_comm 1]
      have above : (start.files.secured trust.ownerUid (name :: parent)).isSome →
          (start.files.secured trust.ownerUid parent).isSome := Filesystem.secured_parent
      unfold verifyDirectoryChain
      apply Stepwise.Ensures.bind (verifyDirectory_ensures (name :: parent) start)
      · rintro error world ⟨acted, -, found⟩
        refine ⟨acted, by simp, iff_of_false (by simp) ?_⟩
        rintro ⟨heard, secured⟩
        have parentSecured := above secured
        rw [← acted.secured] at parentSecured secured
        have passes := found.mpr ⟨(split.mp heard).1,
          (leadsToTrusted_iff_of_secured parentSecured).mpr secured⟩
        cases passes
      · rintro value world ⟨acted, calls, found⟩
        obtain ⟨heard, leads⟩ := found.mp rfl
        rw [if_pos ancestors]
        apply (ih world).mono
        · exact fun _ later => acted.trans later
        · rintro result last ⟨later, count, rest⟩
          rw [acted.secured, calls] at rest
          rw [calls] at count
          refine ⟨acted.trans later, fun passed => ?_, ?_⟩
          · rw [count passed, List.length_cons]
            omega
          · rw [rest, split, and_iff_right heard]
            refine and_congr_right fun _ => ⟨fun secured => ?_, above⟩
            rw [← acted.secured] at secured ⊢
            exact (leadsToTrusted_iff_of_secured secured).mp leads

theorem verifyDirectoryStorage_ensures (ancestors : trust.verifyAncestors = true)
    (path : List String) (start : FileWorld Inode String) :
    (trust.verifyDirectoryStorage others path).Ensures start
      (fun world => start.files.Untrusted trust.ownerUid world.files)
      fun result world => start.files.Untrusted trust.ownerUid world.files ∧
        (result = .ok () → world.calls = start.calls + (path.length + 1)) ∧
        (result = .ok () ↔ others.Unrefused start.calls (path.length + 1) ∧
          (start.files.secured trust.ownerUid path).isSome) := by
  apply (verifyDirectoryChain_ensures ancestors path start).relabel
  · rintro value world ⟨acted, calls, found⟩
    exact ⟨acted, fun _ => calls rfl, iff_of_true rfl (found.mp rfl)⟩
  · rintro error world ⟨acted, calls, found⟩
    exact ⟨acted, by simp, iff_of_false (by simp) fun holds => by simpa using found.mpr holds⟩

variable {holds : Filesystem Inode String → Prop}

theorem verifyDirectory_keeps (stable : StableFiles trust.ownerUid holds)
    (secured : ∀ files, holds files → (files.secured trust.ownerUid path).isSome) :
    KeepsFiles holds (trust.verifyDirectory others path) holds (fun _ => holds)
      (OnlyRefused others .io) := by
  have leads : ∀ files, holds files → LeadsToTrusted trust others files path := by
    intro files held
    have found := secured files held
    cases path with
    | nil => exact leadsToTrusted_nil_iff.mpr found
    | cons name parent =>
        exact (leadsToTrusted_iff_of_secured (Filesystem.secured_parent found)).mpr found
  have looked : KeepsFiles holds
      ((others.look fun files => files.lstat others.links path).relabel
        (TrustViolation.io ∘ .ofFailure)) holds
      (fun metadata files => holds files ∧ trust.checkDirectory path metadata = .ok ())
      (OnlyRefused others .io) := by
    refine KeepsFiles.relabel (keeps_look stable (fun _ held => held)
      (fun _ error refused _ => ⟨error, refused, rfl⟩) ?_) fun _ _ failed => failed
    intro files held
    obtain ⟨inode, located, trusted⟩ := leads files held
    obtain ⟨metadata, known, -⟩ := Filesystem.trustedDirectory_eq_true_iff.mp trusted
    rw [Filesystem.lstat_eq_ok_iff.mpr ⟨inode, located, known⟩]
    exact ⟨held, (checkDirectory_eq_ok_iff known).mpr trusted⟩
  unfold verifyDirectory
  refine looked.bind fun metadata start held => ?_
  apply Stepwise.Ensures.ask
  rw [held.2]
  exact held.1

/-- A secured path passes the walk, unless a call is refused. -/
theorem verifyDirectoryChain_keeps (stable : StableFiles trust.ownerUid holds)
    (secured : ∀ files, holds files → (files.secured trust.ownerUid path).isSome) :
    KeepsFiles holds (trust.verifyDirectoryChain others path) holds (fun _ => holds)
      (OnlyRefused others .io) := by
  induction path with
  | nil => exact verifyDirectory_keeps stable secured
  | cons name parent ih =>
      unfold verifyDirectoryChain
      refine (verifyDirectory_keeps stable secured).bind fun _ => ?_
      split
      · exact ih fun files held => Filesystem.secured_parent (secured files held)
      · exact .pure fun _ held => held

/-- The walk up to the root succeeds exactly when no call is refused and, before its first
call, the whole path was one of trusted directories. From then on the path leads to that
directory whatever the other users do, and none of their links diverts it. -/
theorem verifyDirectoryStorage_eq_ok_iff (ancestors : trust.verifyAncestors = true)
    (path : List String) (start : FileWorld Inode String) :
    ((trust.verifyDirectoryStorage others path start).result = .ok () ↔
      others.Unrefused start.calls (path.length + 1) ∧
        ∃ inode, start.files.secured trust.ownerUid path = some inode) ∧
    ∀ inode, start.files.secured trust.ownerUid path = some inode → ∀ later,
      (trust.verifyDirectoryStorage others path start).state.files.Untrusted trust.ownerUid later →
        later.secured trust.ownerUid path = some inode ∧
          later.reach others.links path = .ok inode := by
  obtain ⟨acted, -, found⟩ := (verifyDirectoryStorage_ensures ancestors path start).ended
  refine ⟨found.trans (by rw [Option.isSome_iff_exists]), fun inode secured later after => ?_⟩
  have still : later.secured trust.ownerUid path = some inode := by
    rw [(acted.trans after).secured, secured]
  exact ⟨still, Filesystem.reach_of_secured still⟩

theorem verifyDirectoryStorage_test :
    (root.verifyDirectoryStorage testOthers ["templates"] ⟨testFiles "templates", 0⟩).result =
      .ok () :=
  (verifyDirectoryStorage_eq_ok_iff rfl ["templates"] ⟨testFiles "templates", 0⟩).1.mpr
    ⟨fun _ _ _ => rfl, 1, by decide⟩

end Checks

end TrustPolicy

end FaceAuth
