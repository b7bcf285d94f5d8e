import FaceAuth.Core.Files

/-!
# Paths that are checked from the file upwards

A path without links is checked by looking at the file and then at one ancestor after the
other. What all these looks together find is true of the path at once.
-/

namespace FaceAuth

open Foundation

namespace TrustedPath

variable {Inode : Type}

/-- A directory of the owner that nobody else may change. -/
def TrustedAncestor (owner : UInt32) (metadata : Metadata) : Prop :=
  metadata.kind = .directory ∧ metadata.uid = owner ∧ metadata.mode &&& 0o022 = 0

instance (owner : UInt32) (metadata : Metadata) : Decidable (TrustedAncestor owner metadata) :=
  inferInstanceAs (Decidable (_ ∧ _))

/-- A regular file of the owner that nobody else may write to. -/
def TrustedFile (owner : UInt32) (metadata : Metadata) : Prop :=
  metadata.kind = .regular ∧ metadata.uid = owner ∧ metadata.mode &&& 0o022 = 0

instance (owner : UInt32) (metadata : Metadata) : Decidable (TrustedFile owner metadata) :=
  inferInstanceAs (Decidable (_ ∧ _))

/-- What the kernel is free to choose at each call: what a path resolves to, and in which
portions the bytes of a file are given. -/
structure Kernel where
  resolves : Nat → List UInt8 → List String
  portions : Nat → List Nat

/-- What a path resolves to at some call. -/
def Kernel.Resolves (kernel : Kernel) (given : List UInt8) (path : List String) : Prop :=
  ∃ call, kernel.resolves call given = path

section Calls

variable [DecidableEq Inode] {owner : UInt32} (others : Others Inode String IoError owner)

/-- The calls by which resolving a path settles on the one without links that it returns: each
prefix of it, from the root on, is there and no link. -/
def walk : List String → FileComputation Inode IoError Unit
  | [] => pure ()
  | name :: parent => do
      walk parent
      (others.look fun files => files.plain others.links (name :: parent)).relabel .ofFailure

/-- Resolve a path to one without links. -/
def canonicalize (kernel : Kernel) (path : List UInt8) :
    FileComputation Inode IoError (List String) := do
  let resolved ← Stepwise.ask fun world => .ok (kernel.resolves world.calls path)
  walk others resolved
  pure resolved

/-- What is known about the file at a path, and its length. -/
def fsMetadata (path : List String) : FileComputation Inode IoError (Metadata × Nat) :=
  (others.look fun files => files.statSize others.links path).relabel .ofFailure

/-- Open what a path leads to. -/
def openFile (path : List String) : FileComputation Inode IoError Inode :=
  (others.look fun files => files.reach others.links path).relabel .ofFailure

/-- What is known about an open file. -/
def fileMetadata (file : Inode) : FileComputation Inode IoError Metadata :=
  (others.look fun files => files.fstat file).relabel .ofFailure

/-- Read an open file to its end. -/
def readOpen (kernel : Kernel) (file : Inode) : FileComputation Inode IoError (List UInt8) := do
  let portions ← Stepwise.ask fun world => .ok (kernel.portions world.calls)
  readToEnd others file portions []

/-- Read the whole file at a path. -/
def readFile (kernel : Kernel) (path : List String) :
    FileComputation Inode IoError (List UInt8) := do
  let file ← openFile others path
  readOpen others kernel file

variable {Failure : Type} (io : IoError → Failure) (refusal : List String → Metadata → Failure)

/-- Each ancestor must be a directory that only the owner may change. -/
def verifyAncestor (path : List String) : FileComputation Inode Failure Unit := do
  let (metadata, _) ← (fsMetadata others path).relabel io
  Stepwise.ofExcept (require (TrustedAncestor owner metadata) (refusal path metadata))

/-- All ancestors of a path, the parent first. -/
def verifyAncestors : List String → FileComputation Inode Failure Unit
  | [] => pure ()
  | _ :: parent => do
      verifyAncestor others io refusal parent
      verifyAncestors parent

end Calls

/-! ## What the looks find together -/

section Assertions

variable (owner : UInt32) (path parent : List String) (name : String)
  (files : Filesystem Inode String)

/-- Where the directories above are secured, the path goes through no link. -/
def Plain : Prop :=
  ∀ name parent, name :: parent <:+ path → (files.secured owner parent).isSome →
    ∃ inode metadata, files.securedEntry owner name parent = some inode ∧
      files.metadata inode = some metadata ∧ metadata.kind ≠ .symlink

/-- The directory is secured if the one above it is. -/
def Checked : List String → Prop
  | [] => (files.secured owner []).isSome
  | name :: parent =>
      (files.secured owner parent).isSome → (files.secured owner (name :: parent)).isSome

/-- If the directory of the path is secured, its name stands for a regular file that others
cannot write to, and that has as many bytes. -/
def FileSeen (length : Nat) (bytes : List UInt8) : Prop :=
  ∃ name parent, path = name :: parent ∧ ((files.secured owner parent).isSome →
    (∃ inode metadata, files.securedEntry owner name parent = some inode ∧
      files.metadata inode = some metadata ∧ TrustedFile owner metadata) ∧ length = bytes.length)

/-- Files with these contents are installed, below a root that only the owner changes: if others
cannot write to what has a name, none of them has it open for writing. -/
structure Installed (contents : List String → List UInt8) : Prop where
  root : (files.secured owner []).isSome
  settled : ∀ name parent inode, files.securedEntry owner name parent = some inode →
    files.Settled owner inode (contents (name :: parent))

/-- What is known once the path of a file is verified: the file of these bytes has the path for
good. -/
structure Verified (bytes : List UInt8) (inode : Inode) : Prop where
  named : ∃ name parent, path = name :: parent ∧ files.securedEntry owner name parent = some inode
  guarded : files.Guarded owner inode
  regular : ∃ metadata, files.metadata inode = some metadata ∧ metadata.kind = .regular
  unwritten : files.Unwritten owner inode
  content : files.content inode = bytes

/-- The file that is installed under a path has it for good. -/
def Kept (contents : List String → List UInt8) : Prop :=
  ∃ inode, Verified owner path files (contents path) inode

variable {owner path parent name files}

/-- A file that was seen under secured ancestors keeps its path, and its length is that of what was
installed. -/
theorem FileSeen.verified {length : Nat} {contents : List String → List UInt8}
    (seen : FileSeen owner path files length (contents path))
    (above : ∀ name parent, path = name :: parent → (files.secured owner parent).isSome)
    (installed : Installed owner files contents) :
    Kept owner path files contents ∧ length = (contents path).length := by
  obtain ⟨name, parent, rfl, seen⟩ := seen
  obtain ⟨⟨inode, metadata, named, known, kind, own, bits⟩, size⟩ := seen (above name parent rfl)
  have guarded : files.Guarded owner inode := ⟨metadata, known, own, bits⟩
  obtain ⟨unwritten, content⟩ := installed.settled name parent inode named guarded
  exact ⟨⟨inode, ⟨name, parent, rfl, named⟩, guarded, ⟨metadata, known, kind⟩, unwritten,
    content⟩, size⟩

/-- The path of a verified file leads to it, whatever links there are. -/
theorem Verified.reach {bytes : List UInt8} {inode : Inode}
    {links : Filesystem Inode String → Inode → Except (CallFailure IoError) Inode}
    (verified : Verified owner path files bytes inode) :
    files.reach links path = .ok inode := by
  obtain ⟨metadata, known, kind⟩ := verified.regular
  obtain ⟨name, parent, rfl, named⟩ := verified.named
  apply Filesystem.reach_of_securedEntry named
  simp [Filesystem.isSymlink, known, kind]

variable [DecidableEq Inode]

/-- Other users cannot put a link on the way. -/
theorem plain_stable : StableFiles owner
    (Plain owner path : Filesystem Inode String → Prop) := by
  intro files after acted plain name parent suffix above
  rw [acted.secured] at above
  obtain ⟨inode, metadata, named, known, kind⟩ := plain name parent suffix above
  obtain ⟨later, found, same⟩ := acted.kind named known
  exact ⟨inode, later, (acted.securedEntry name parent).trans named, found, same ▸ kind⟩

/-- Other users cannot change what was found about a directory on the way. -/
theorem checked_stable : StableFiles owner fun files : Filesystem Inode String =>
    Checked owner files path := by
  intro files after acted checked
  cases path with
  | nil =>
      change (after.secured owner []).isSome
      rw [acted.secured]
      exact checked
  | cons name parent =>
      intro above
      rw [acted.secured] at above ⊢
      exact checked above

/-- Other users cannot change a file that was seen. -/
theorem fileSeen_stable {length : Nat} {bytes : List UInt8} : StableFiles owner
    fun files : Filesystem Inode String => FileSeen owner path files length bytes := by
  rintro files after acted ⟨name, parent, rfl, seen⟩
  refine ⟨name, parent, rfl, fun above => ?_⟩
  rw [acted.secured] at above
  obtain ⟨⟨inode, metadata, named, known, trusted⟩, size⟩ := seen above
  exact ⟨⟨inode, metadata, (acted.securedEntry name parent).trans named,
    acted.metadata named known trusted.2.1, trusted⟩, size⟩

/-- Other users cannot change what is installed. -/
theorem installed_stable {contents : List String → List UInt8} : StableFiles owner
    fun files : Filesystem Inode String => Installed owner files contents := by
  intro files after acted installed
  constructor
  · rw [acted.secured]
    exact installed.root
  · intro name parent inode named
    rw [acted.securedEntry] at named
    exact acted.settled (installed.settled name parent inode named)

/-- Other users cannot replace a verified file. -/
theorem verified_stable {bytes : List UInt8} {inode : Inode} : StableFiles owner
    fun files : Filesystem Inode String => Verified owner path files bytes inode := by
  intro files after acted verified
  obtain ⟨metadata, known, own, bits⟩ := verified.guarded
  obtain ⟨other, found, kind⟩ := verified.regular
  obtain ⟨name, parent, rfl, named⟩ := verified.named
  have same := acted.metadata named known own
  have settled : files.Settled owner inode bytes := fun _ => ⟨verified.unwritten, verified.content⟩
  have guarded : after.Guarded owner inode := ⟨metadata, same, own, bits⟩
  obtain ⟨unwritten, content⟩ := acted.settled settled guarded
  rw [known, Option.some.injEq] at found
  exact ⟨⟨name, parent, rfl, (acted.securedEntry name parent).trans named⟩, guarded,
    ⟨metadata, same, found ▸ kind⟩, unwritten, content⟩

/-- A file that is kept stays so. -/
theorem kept_stable {contents : List String → List UInt8} : StableFiles owner
    fun files : Filesystem Inode String => Kept owner path files contents := by
  rintro files after acted ⟨inode, verified⟩
  exact ⟨inode, verified_stable files after acted verified⟩

end Assertions

section Specs

variable [DecidableEq Inode] {owner : UInt32} {others : Others Inode String IoError owner}
  {holds : Filesystem Inode String → Prop} {path parent : List String} {name : String}
  {files : Filesystem Inode String}

/-- After the walk there is no link on the path. -/
theorem walk_keeps (stable : StableFiles owner holds) (path : List String) :
    KeepsFiles holds (walk others path) holds
      (fun _ files => holds files ∧ Plain owner path files) fun _ => holds := by
  induction path with
  | nil =>
      refine .pure fun files held => ⟨held, ?_⟩
      intro name parent suffix
      simp at suffix
  | cons name parent ih =>
      have both : StableFiles owner fun files : Filesystem Inode String =>
          holds files ∧ Plain owner parent files := stable.and plain_stable
      unfold walk
      refine ih.bind fun _ => KeepsFiles.relabel ?_ fun _ _ held => held
      apply keeps_look both (fun _ held => held.1) (fun _ _ _ held => held.1)
      rintro files ⟨held, plain⟩
      cases looked : files.plain others.links (name :: parent) with
      | error failure => exact held
      | ok =>
          obtain ⟨inode, metadata, located, known, kind⟩ := Filesystem.plain_eq_ok_iff.mp looked
          refine ⟨held, fun label above suffix secured => ?_⟩
          rcases List.suffix_cons_iff.mp suffix with same | earlier
          · cases same
            obtain ⟨directory, found⟩ := Option.isSome_iff_exists.mp secured
            rw [Filesystem.locate_of_secured found] at located
            cases named : files.entry directory name with
            | none =>
                rw [named] at located
                cases located
            | some target =>
                rw [named] at located
                cases located
                exact ⟨inode, metadata, Filesystem.securedEntry_eq_some_iff.mpr
                  ⟨directory, found, named⟩, known, kind⟩
          · exact plain label above earlier secured

/-- What a path resolves to has no link in it. -/
theorem canonicalize_keeps (stable : StableFiles owner holds) (kernel : Kernel)
    (given : List UInt8) :
    KeepsFiles holds (canonicalize others kernel given) holds
      (fun path files => (holds files ∧ Plain owner path files) ∧ kernel.Resolves given path)
      fun _ => holds := by
  have chosen : KeepsFiles holds
      (Stepwise.ask fun world => .ok (kernel.resolves world.calls given) :
        FileComputation Inode IoError _) holds
      (fun path files => holds files ∧ kernel.Resolves given path) fun _ => holds :=
    .chosen (fun call => kernel.resolves call given) fun _ held call => ⟨held, call, rfl⟩
  refine chosen.bind fun path => .fact fun resolved => ?_
  exact (walk_keeps stable path).bind fun _ => .pure fun _ held => ⟨held, resolved⟩

/-- A look at a path that goes through no link finds what the last directory names. -/
theorem statSize_of_plain (others : Others Inode String IoError owner)
    (plain : Plain owner (name :: parent) files)
    (above : (files.secured owner parent).isSome) :
    ∃ inode metadata, files.securedEntry owner name parent = some inode ∧
      files.metadata inode = some metadata ∧
      files.reach others.links (name :: parent) = .ok inode ∧
      files.statSize others.links (name :: parent) =
        .ok (metadata, (files.content inode).length) := by
  obtain ⟨inode, metadata, named, known, kind⟩ := plain name parent (List.suffix_refl _) above
  have real : files.isSymlink inode = false := by simp [Filesystem.isSymlink, known, kind]
  have reached : files.reach others.links (name :: parent) = .ok inode :=
    Filesystem.reach_of_securedEntry named real
  refine ⟨inode, metadata, named, known, reached, ?_⟩
  simp only [Filesystem.statSize, reached, bind, Except.bind, Filesystem.fstat, known,
    Option.elim_some, pure, Except.pure]

variable {Failure : Type} {io : IoError → Failure} {refusal : List String → Metadata → Failure}

/-- A look that finds a trusted directory. -/
theorem checked_of_statSize {metadata : Metadata} {length : Nat} (plain : Plain owner path files)
    (found : files.statSize others.links path = .ok (metadata, length))
    (trusted : TrustedAncestor owner metadata) : Checked owner files path := by
  cases path with
  | nil =>
      have root : files.metadata files.root = some metadata := by
        simp only [Filesystem.statSize, Filesystem.reach, bind, Except.bind,
          Filesystem.fstat] at found
        cases known : files.metadata files.root <;> simp_all [pure, Except.pure]
      refine Option.isSome_iff_exists.mpr ⟨files.root, ?_⟩
      exact Filesystem.secured_nil_eq_some_iff.mpr
        ⟨rfl, Filesystem.trustedDirectory_eq_true_iff.mpr ⟨metadata, root, trusted⟩⟩
  | cons name parent =>
      intro above
      obtain ⟨inode, known, named, node, -, looked⟩ := statSize_of_plain others plain above
      rw [looked, Except.ok.injEq, Prod.mk.injEq] at found
      obtain ⟨rfl, -⟩ := found
      exact Option.isSome_iff_exists.mpr ⟨inode, Filesystem.secured_cons_eq_some_iff.mpr
        ⟨named, Filesystem.trustedDirectory_eq_true_iff.mpr ⟨_, node, trusted⟩⟩⟩

section Ancestors

variable {fails : Failure → Filesystem Inode String → Prop} (stable : StableFiles owner holds)
  (plain : ∀ files, holds files → Plain owner path files)
  (broken : ∀ error files, holds files → fails (io error) files)
  (refused : ∀ path metadata files, holds files → fails (refusal path metadata) files)

include stable plain broken refused

/-- An ancestor that passes is known from then on. -/
theorem verifyAncestor_keeps :
    KeepsFiles holds (verifyAncestor others io refusal path) holds
      (fun _ files => holds files ∧ Checked owner files path) fails := by
  have looked : KeepsFiles holds ((fsMetadata others path).relabel io) holds
      (fun found files => holds files ∧
        (TrustedAncestor owner found.1 → Checked owner files path)) fails := by
    refine KeepsFiles.relabel (KeepsFiles.relabel ?_ fun _ _ held => held)
      fun error files => broken error files
    apply keeps_look stable (fun _ held => held) (fun _ _ _ held => held)
    intro files held
    cases found : files.statSize others.links path with
    | error failure => exact held
    | ok answer => exact ⟨held, checked_of_statSize (plain files held) found⟩
  unfold verifyAncestor
  refine looked.bind fun ⟨metadata, length⟩ => KeepsFiles.ofExcept ?_
  rintro files ⟨held, checked⟩
  by_cases trusted : TrustedAncestor owner metadata
  · rw [require, if_pos trusted]
    exact ⟨held, checked trusted⟩
  · rw [require_of_not trusted]
    exact refused path metadata files held

/-- When the looks at all ancestors succeed, they are all secured. -/
theorem verifyAncestors_keeps :
    KeepsFiles holds (verifyAncestors others io refusal path) holds
      (fun _ files => holds files ∧
        ∀ name parent, path = name :: parent → (files.secured owner parent).isSome) fails := by
  induction path generalizing holds with
  | nil => exact .pure fun files held => ⟨held, by simp⟩
  | cons name parent ih =>
      have above : ∀ files, holds files → Plain owner parent files := fun files held label above
        suffix => plain files held label above (suffix.trans (List.suffix_cons name parent))
      have both : StableFiles owner fun files : Filesystem Inode String =>
          holds files ∧ Checked owner files parent := stable.and checked_stable
      unfold verifyAncestors
      refine (verifyAncestor_keeps stable above broken refused).bind fun _ => ?_
      apply (ih both (fun files held => above files held.1)
        (fun error files held => broken error files held.1)
        fun path metadata files held => refused path metadata files held.1).mono
      · exact fun _ held => held
      · exact fun _ held => held.1
      · rintro _ files ⟨⟨held, checked⟩, higher⟩
        refine ⟨held, fun label grand same => ?_⟩
        cases same
        cases parent with
        | nil => exact checked
        | cons label grand => exact checked (higher label grand rfl)
      · exact fun _ _ failed => failed

end Ancestors

variable {contents : List String → List UInt8} {bytes : List UInt8} {inode : Inode}

/-- A look at a file that turns out to be trusted. -/
theorem fsMetadata_keeps (stable : StableFiles owner holds)
    (plain : ∀ files, holds files → Plain owner path files)
    (installed : ∀ files, holds files → Installed owner files contents) :
    KeepsFiles holds (fsMetadata others path) holds
      (fun found files => holds files ∧ (TrustedFile owner found.1 →
        FileSeen owner path files found.2 (contents path))) fun _ => holds := by
  refine KeepsFiles.relabel ?_ fun _ _ held => held
  apply keeps_look stable (fun _ held => held) (fun _ _ _ held => held)
  intro files held
  cases found : files.statSize others.links path with
  | error failure => exact held
  | ok answer =>
      refine ⟨held, fun trusted => ?_⟩
      cases path with
      | nil =>
          -- The root is a directory.
          obtain ⟨root, secured⟩ := Option.isSome_iff_exists.mp (installed files held).root
          obtain ⟨rfl, directory⟩ := Filesystem.secured_nil_eq_some_iff.mp secured
          obtain ⟨metadata, known, kind, -⟩ :=
            Filesystem.trustedDirectory_eq_true_iff.mp directory
          simp only [Filesystem.statSize, Filesystem.reach, bind, Except.bind, Filesystem.fstat,
            known, Option.elim_some, pure, Except.pure, Except.ok.injEq] at found
          rw [← found] at trusted
          cases kind.symm.trans trusted.1
      | cons name parent =>
          refine ⟨name, parent, rfl, fun above => ?_⟩
          obtain ⟨inode, metadata, named, known, -, looked⟩ :=
            statSize_of_plain others (plain files held) above
          rw [looked, Except.ok.injEq] at found
          subst found
          have guarded : files.Guarded owner inode := ⟨metadata, known, trusted.2⟩
          exact ⟨⟨inode, metadata, named, known, trusted⟩, congrArg List.length
            ((installed files held).settled name parent inode named guarded).2⟩

section Open

variable (stable : StableFiles owner holds)
  (verified : ∀ files, holds files → Verified owner path files bytes inode)

include stable verified

/-- Opening the path of a verified file opens this file. -/
theorem openFile_keeps : KeepsFiles holds (openFile others path) holds
    (fun file files => holds files ∧ file = inode) (OnlyRefused others id) := by
  refine KeepsFiles.relabel (keeps_look stable (fun _ held => held)
    (fun _ error refused _ => ⟨error, refused, rfl⟩) ?_) fun _ _ failed => failed
  intro files held
  rw [(verified files held).reach]
  exact ⟨held, rfl⟩

/-- An open verified file is a regular one. -/
theorem fileMetadata_keeps : KeepsFiles holds (fileMetadata others inode) holds
    (fun metadata files => holds files ∧ metadata.kind = .regular) (OnlyRefused others id) := by
  refine KeepsFiles.relabel (keeps_look stable (fun _ held => held)
    (fun _ error refused _ => ⟨error, refused, rfl⟩) ?_) fun _ _ failed => failed
  intro files held
  obtain ⟨metadata, known, kind⟩ := (verified files held).regular
  simp only [Filesystem.fstat, known, Option.elim_some]
  exact ⟨held, kind⟩

/-- Reading an open verified file gives its bytes, in whatever portions they come. -/
theorem readOpen_keeps (kernel : Kernel) :
    KeepsFiles holds (readOpen others kernel inode) holds
      (fun value files => holds files ∧ value = bytes) (OnlyRefused others id) :=
  (KeepsFiles.chosen kernel.portions fun _ held _ => held).bind fun portions =>
    readToEnd_keeps stable (fun files held => (verified files held).content) portions [] bytes rfl

/-- Reading a verified path returns the bytes of the file that was verified. -/
theorem readFile_keeps (kernel : Kernel) :
    KeepsFiles holds (readFile others kernel path) holds
      (fun value files => holds files ∧ value = bytes) (OnlyRefused others id) := by
  unfold readFile
  refine (openFile_keeps stable verified).bind ?_
  rintro file start ⟨held, rfl⟩
  exact readOpen_keeps stable verified kernel start held

end Open

end Specs

end TrustedPath

end FaceAuth
