import FaceAuth.Core.Files

/-!
# The listener's socket

A listener creates its socket under a name that nothing has, and removes exactly that socket.
Other users act between the calls.
-/

namespace FaceAuth

open Foundation

/-- Secure listener setup failure. -/
inductive ListenerError where
  | invalidSocketMode (mode : UInt32)
  | missingParent
  | unsafeParent (path : List String)
  | pathExists (path : List String)
  | createdPathInvalid (path : List String)
  | ownedPathChanged (path : List String)
  | io (error : IoError)
deriving DecidableEq

/-- A bound listener with the identity of the socket that it created. -/
structure SecureListener (Inode : Type) where
  path : List String
  identity : Inode
deriving DecidableEq

/-- What binding reports when the name is taken. -/
def bindFailure : CallFailure IoError → IoError
  | .alreadyExists => ⟨.other, "Address already in use (os error 98)"⟩
  | failure => .ofFailure failure

namespace SecureListener

variable {Inode : Type}

section Assertions

variable (owner : UInt32) (parent : List String) (name label : String) (target : Option Inode)
  (files : Filesystem Inode String)

/-- The parent is secured, and another name in it stands for what it should. -/
def Beside : Prop :=
  (files.secured owner parent).isSome ∧ files.securedEntry owner label parent = target

/-- Nothing has the name. -/
structure Free : Prop where
  beside : Beside owner parent label target files
  absent : files.securedEntry owner name parent = none

/-- Something has the name. -/
structure Taken (inode : Inode) : Prop where
  beside : Beside owner parent label target files
  named : files.securedEntry owner name parent = some inode

/-- A socket of the owner has the name. -/
structure Bound (identity : Inode) : Prop extends
    Taken owner parent name label target files identity where
  socket : ∃ metadata, files.metadata identity = some metadata ∧ metadata.kind = .socket ∧
    metadata.uid = owner

/-- Nothing has the name, or a socket of the owner has it. -/
def Clean : Prop :=
  Free owner parent name label target files ∨
    ∃ identity, Bound owner parent name label target files identity

variable {owner parent name label target files}

/-- A socket is found under its name, and no link is. -/
theorem Bound.locate {Error : Type} {identity : Inode}
    {links : Filesystem Inode String → Inode → Except (CallFailure Error) Inode}
    (bound : Bound owner parent name label target files identity) :
    files.locate links (name :: parent) = .ok identity ∧
      files.reach links (name :: parent) = .ok identity := by
  obtain ⟨metadata, known, kind, -⟩ := bound.socket
  have plain : files.isSymlink identity = false := by simp [Filesystem.isSymlink, known, kind]
  exact ⟨Filesystem.locate_of_securedEntry bound.named,
    Filesystem.reach_of_securedEntry bound.named plain⟩

theorem Bound.clean {identity : Inode}
    (bound : Bound owner parent name label target files identity) :
    Clean owner parent name label target files := .inr ⟨identity, bound⟩

theorem Bound.not_isDirectory {identity : Inode}
    (bound : Bound owner parent name label target files identity) :
    files.isDirectory identity = false := by
  obtain ⟨metadata, known, kind, -⟩ := bound.socket
  simp [Filesystem.isDirectory, known, kind]

end Assertions

variable [DecidableEq Inode] {owner : UInt32} (others : Others Inode String IoError owner)

section Calls

/-- The kernel creates the socket with the bits that it does not take from it. -/
def unixBind (umask : UInt32) (path : List String) : FileComputation Inode IoError Inode :=
  (others.call fun files =>
    files.createNew others.links owner (others.vacant files) ⟨.socket, owner, 0o777 &&& ~~~ umask⟩
      path).relabel bindFailure

/-- Listen on the socket. -/
def listen : FileComputation Inode IoError Unit :=
  (others.look fun _ => .ok ()).relabel .ofFailure

/-- Set the mode of what a path names, links followed. -/
def setPermissions (mode : UInt32) (path : List String) : FileComputation Inode IoError Unit :=
  (others.call fun files => files.chmod others.links mode path).relabel .ofFailure

/-- Remove what a path names. -/
def removeFile (path : List String) : FileComputation Inode IoError Unit :=
  (others.call fun files => files.unlink others.links path).relabel .ofFailure

/-- The metadata of what a path names, links not followed. -/
def symlinkMetadata (path : List String) : FileComputation Inode IoError (Inode × Metadata) :=
  (others.look fun files => files.lstatNode others.links path).relabel .ofFailure

end Calls

/-- The parent must be a directory of the owner that nobody else may write to. -/
def checkParent (requiredUid : UInt32) (parent : List String) (metadata : Metadata) :
    Except ListenerError Unit :=
  require (metadata.kind = .directory ∧ metadata.uid = requiredUid ∧
    metadata.mode &&& 0o022 = 0) (.unsafeParent parent)

/-- Nothing may have the name. -/
def checkAbsent (path : List String) : Except IoError (Inode × Metadata) → Except ListenerError Unit
  | .ok _ => .error (.pathExists path)
  | .error error => require (error.kind = .notFound) (.io error)

/-- The steps after the checks, of which the last two remove what they find wrong. -/
def create (umask mode : UInt32) (path : List String) :
    FileComputation Inode ListenerError (SecureListener Inode) := do
  let _ ← (unixBind others umask path).relabel ListenerError.io
  (listen others).relabel .io
  Stepwise.cleanup ((setPermissions others mode path).relabel .io)
    ((removeFile others path).relabel .io)
  let (identity, metadata) ← (symlinkMetadata others path).relabel .io
  Stepwise.cleanup
    (Stepwise.ofExcept (require (metadata.kind = .socket) (.createdPathInvalid path)))
    ((removeFile others path).relabel .io)
  pure ⟨path, identity⟩

/-- Bind the socket, restrict its mode, and remember what it is. -/
def bindOwned (umask mode : UInt32) :
    List String → FileComputation Inode ListenerError (SecureListener Inode)
  | [] => do
      Stepwise.ofExcept (require (mode = 0o600 ∨ mode = 0o660) (.invalidSocketMode mode))
      Stepwise.ofExcept (.error .missingParent)
  | name :: parent => do
      Stepwise.ofExcept (require (mode = 0o600 ∨ mode = 0o660) (.invalidSocketMode mode))
      let (_, metadata) ← (symlinkMetadata others parent).relabel .io
      Stepwise.ofExcept (checkParent owner parent metadata)
      (symlinkMetadata others (name :: parent)).judge (checkAbsent (name :: parent))
      create others umask mode (name :: parent)

/-- What removing does about what it finds under the path: nothing, or remove it. -/
def ownedPath (listener : SecureListener Inode) :
    Except IoError (Inode × Metadata) → Except ListenerError Bool
  | .error error => if error.kind = .notFound then .ok false else .error (.io error)
  | .ok (inode, metadata) =>
      if metadata.kind = .socket ∧ inode = listener.identity then .ok true
      else .error (.ownedPathChanged listener.path)

/-- Remove the path while it still names the socket of this listener. -/
def removeOwnedPath (listener : SecureListener Inode) :
    FileComputation Inode ListenerError Unit := do
  let remove ← (symlinkMetadata others listener.path).judge (ownedPath listener)
  if remove then (removeFile others listener.path).relabel .io else pure ()

/-- Explicit cleanup, and the one that dropping makes whose result is ignored. -/
def cleanup (listener : SecureListener Inode) : FileComputation Inode ListenerError Unit :=
  removeOwnedPath others listener

/-! ## What the calls do -/

section Effects

variable {others} {parent : List String} {name label : String} {target : Option Inode}
  {files after : Filesystem Inode String} {inode identity : Inode}

theorem Beside.untrusted (acted : files.Untrusted owner after)
    (beside : Beside owner parent label target files) :
    Beside owner parent label target after := by
  refine ⟨?_, (acted.securedEntry label parent).trans beside.2⟩
  rw [acted.secured]
  exact beside.1

theorem free_stable : StableFiles owner
    (Free owner parent name label target : Filesystem Inode String → Prop) :=
  fun _ _ acted free =>
    ⟨free.beside.untrusted acted, (acted.securedEntry name parent).trans free.absent⟩

theorem taken_stable : StableFiles owner fun files : Filesystem Inode String =>
    Taken owner parent name label target files inode :=
  fun _ _ acted taken =>
    ⟨taken.beside.untrusted acted, (acted.securedEntry name parent).trans taken.named⟩

theorem bound_stable : StableFiles owner fun files : Filesystem Inode String =>
    Bound owner parent name label target files identity := by
  intro files after acted bound
  obtain ⟨metadata, known, kind, own⟩ := bound.socket
  exact ⟨taken_stable files after acted bound.toTaken, metadata,
    acted.metadata bound.named known own, kind, own⟩

/-- The socket that a listener creates under a free name. -/
theorem Free.create {directory : Inode} (free : Free owner parent name label target files)
    (metadata : Metadata)
    (above : files.secured owner parent = some directory)
    (vacant : files.metadata inode = none) (kind : metadata.kind = .socket)
    (own : metadata.uid = owner) (other : label ≠ name) :
    Bound owner parent name label target
      ((files.allocate owner inode metadata).setEntry directory name (some inode)) inode := by
  have regular : metadata.kind ≠ .directory := by simp [kind]
  have absent : files.entry directory name = none := by
    have named := free.absent
    rw [Filesystem.securedEntry, above] at named
    exact named
  have kept := Filesystem.secured_create vacant regular
    (Filesystem.trustedDirectory_of_secured above) absent parent
  have same := kept.trans (Filesystem.secured_allocate vacant regular parent).symm
  refine ⟨⟨⟨?_, ?_⟩, ?_⟩, metadata, Function.update_self .., kind, own⟩
  · rw [kept]
    exact free.beside.1
  · rw [Filesystem.securedEntry_setEntry_of_ne same other,
      Filesystem.securedEntry_allocate vacant regular]
    exact free.beside.2
  · apply Filesystem.securedEntry_setEntry_self same
    rw [Filesystem.secured_allocate vacant regular, above]

theorem unixBind_keeps (umask : UInt32) (other : label ≠ name) :
    KeepsFiles (Free owner parent name label target) (unixBind others umask (name :: parent))
      (Clean owner parent name label target)
      (fun identity files => Bound owner parent name label target files identity)
      fun _ => Free owner parent name label target := by
  refine KeepsFiles.relabel ?_ fun _ _ free => free
  apply keeps_call free_stable (fun _ => .inl) (fun _ _ _ free => free)
  intro files free
  obtain ⟨directory, above⟩ := Option.isSome_iff_exists.mp free.beside.1
  simp only [Filesystem.createNew, Filesystem.reach_of_secured above,
    Filesystem.enter_of_trustedDirectory (Filesystem.trustedDirectory_of_secured above)]
  cases found : files.entry directory name with
  | some inode => exact ⟨.inl free, free⟩
  | none =>
      cases vacant : others.vacant files with
      | none => exact ⟨.inl free, free⟩
      | some inode =>
          have bound := free.create ⟨.socket, owner, 0o777 &&& ~~~ umask⟩ above
            (others.unused files inode vacant) rfl rfl other
          exact ⟨.inr ⟨inode, bound⟩, bound⟩

/-- A name that is taken is not bound. -/
theorem unixBind_taken (umask : UInt32) :
    KeepsFiles (fun files => Taken owner parent name label target files inode)
      (unixBind others umask (name :: parent))
      (fun files => Taken owner parent name label target files inode) (fun _ _ => False)
      fun _ files => Taken owner parent name label target files inode := by
  refine KeepsFiles.relabel ?_ fun _ _ taken => taken
  apply keeps_call taken_stable (fun _ taken => taken) (fun _ _ _ taken => taken)
  intro files taken
  obtain ⟨directory, above, named⟩ := Filesystem.securedEntry_eq_some_iff.mp taken.named
  simp only [Filesystem.createNew, Filesystem.reach_of_secured above,
    Filesystem.enter_of_trustedDirectory (Filesystem.trustedDirectory_of_secured above), named]
  exact ⟨taken, taken⟩

theorem Bound.setMetadata (bound : Bound owner parent name label target files identity)
    (metadata : Metadata) (kind : metadata.kind = .socket) (own : metadata.uid = owner) :
    Bound owner parent name label target (files.setMetadata identity (some metadata)) identity := by
  have before : files.trustedDirectory owner identity = false :=
    Filesystem.trustedDirectory_of_isDirectory bound.not_isDirectory
  have regular : metadata.kind ≠ .directory := by simp [kind]
  have kept := Filesystem.secured_setMetadata before regular parent
  have same : ∀ any, (files.setMetadata identity (some metadata)).securedEntry owner any parent =
      files.securedEntry owner any parent := by
    intro any
    rw [Filesystem.securedEntry, kept]
    rfl
  refine ⟨⟨⟨?_, (same label).trans bound.beside.2⟩, (same name).trans bound.named⟩, metadata,
    Function.update_self .., kind, own⟩
  rw [kept]
  exact bound.beside.1

/-- Setting the mode leaves the socket bound. -/
theorem setPermissions_keeps (mode : UInt32) :
    KeepsFiles (fun files => Bound owner parent name label target files identity)
      (setPermissions others mode (name :: parent))
      (fun files => Bound owner parent name label target files identity)
      (fun _ files => Bound owner parent name label target files identity)
      fun _ files => Bound owner parent name label target files identity := by
  refine KeepsFiles.relabel ?_ fun _ _ bound => bound
  apply keeps_call bound_stable (fun _ bound => bound) (fun _ _ _ bound => bound)
  intro files bound
  obtain ⟨metadata, known, kind, own⟩ := bound.socket
  simp only [Filesystem.chmod, bound.locate.2, known]
  have changed := bound.setMetadata { metadata with mode } kind own
  exact ⟨changed, changed⟩

/-- The name is free again, and nothing else has changed. -/
theorem Bound.remove {directory : Inode}
    (bound : Bound owner parent name label target files identity)
    (above : files.secured owner parent = some directory) (other : label ≠ name) :
    Free owner parent name label target (files.setEntry directory name none) := by
  have named := Filesystem.entry_of_securedEntry bound.named above
  have kept : (files.setEntry directory name none).secured owner parent =
      files.secured owner parent := by
    apply Filesystem.secured_setEntry
    · intro inode found
      rw [named, Option.some.injEq] at found
      exact found ▸ Filesystem.trustedDirectory_of_isDirectory bound.not_isDirectory
    · simp
  refine ⟨⟨(congrArg Option.isSome kept).trans bound.beside.1, ?_⟩, ?_⟩
  · rw [Filesystem.securedEntry_setEntry_of_ne kept other]
    exact bound.beside.2
  · exact Filesystem.securedEntry_setEntry_self kept above

theorem removeFile_keeps (other : label ≠ name) :
    KeepsFiles (fun files => Bound owner parent name label target files identity)
      (removeFile others (name :: parent))
      (fun files => Free owner parent name label target files ∨
        Bound owner parent name label target files identity)
      (fun _ => Free owner parent name label target)
      fun error files => Bound owner parent name label target files identity ∧
        OnlyRefused others id error files := by
  have removed : KeepsFiles (fun files => Bound owner parent name label target files identity)
      (others.call fun files => files.unlink others.links (name :: parent))
      (fun files => Free owner parent name label target files ∨
        Bound owner parent name label target files identity)
      (fun _ => Free owner parent name label target)
      fun failure files => Bound owner parent name label target files identity ∧
        ∃ error, others.Refuses error ∧ failure = .refused error := by
    apply keeps_call bound_stable (fun _ => .inr)
      (fun _ error refused bound => ⟨bound, error, refused, rfl⟩)
    intro files bound
    obtain ⟨directory, above, named⟩ := Filesystem.securedEntry_eq_some_iff.mp bound.named
    simp only [Filesystem.unlink, Filesystem.reach_of_secured above,
      Filesystem.enter_of_trustedDirectory (Filesystem.trustedDirectory_of_secured above), named,
      Option.elim_some, bound.not_isDirectory, Bool.false_eq_true, ↓reduceIte]
    exact ⟨.inl (bound.remove above other), bound.remove above other⟩
  refine removed.relabel ?_
  rintro failure files ⟨bound, error, refused, rfl⟩
  exact ⟨bound, error, refused, rfl⟩

/-- A look at a bound name finds the socket. -/
theorem symlinkMetadata_keeps :
    KeepsFiles (fun files => Bound owner parent name label target files identity)
      (symlinkMetadata others (name :: parent))
      (fun files => Bound owner parent name label target files identity)
      (fun node files => Bound owner parent name label target files identity ∧
        node.1 = identity ∧ node.2.kind = .socket)
      fun error files => Bound owner parent name label target files identity ∧
        OnlyRefused others id error files := by
  have looked : KeepsFiles (fun files => Bound owner parent name label target files identity)
      (others.look fun files => files.lstatNode others.links (name :: parent))
      (fun files => Bound owner parent name label target files identity)
      (fun node files => Bound owner parent name label target files identity ∧
        node.1 = identity ∧ node.2.kind = .socket)
      fun failure files => Bound owner parent name label target files identity ∧
        ∃ error, others.Refuses error ∧ failure = .refused error := by
    apply keeps_look bound_stable (fun _ bound => bound)
      (fun _ error refused bound => ⟨bound, error, refused, rfl⟩)
    intro files bound
    obtain ⟨metadata, known, kind, own⟩ := bound.socket
    simp only [Filesystem.lstatNode, bound.locate.1, bind, Except.bind, Filesystem.fstat, known,
      Option.elim_some]
    exact ⟨bound, rfl, kind⟩
  refine looked.relabel ?_
  rintro failure files ⟨bound, error, refused, rfl⟩
  exact ⟨bound, error, refused, rfl⟩

/-- What is created is a socket under the name, and nothing else is when the creation fails. -/
theorem create_keeps (umask mode : UInt32) (other : label ≠ name) :
    KeepsFiles (Free owner parent name label target) (create others umask mode (name :: parent))
      (Clean owner parent name label target)
      (fun listener files => listener.path = name :: parent ∧
        Bound owner parent name label target files listener.identity)
      fun _ => Clean owner parent name label target := by
  unfold create
  refine KeepsFiles.bind ((unixBind_keeps umask other).part (fun _ clean => clean)
    fun _ _ => .inl) fun identity => ?_
  have bound : ∀ files : Filesystem Inode String,
      Bound owner parent name label target files identity →
        Clean owner parent name label target files := fun _ => Bound.clean
  have removed : KeepsFiles (fun files => Bound owner parent name label target files identity)
      ((removeFile others (name :: parent)).relabel ListenerError.io)
      (Clean owner parent name label target) (fun _ => Clean owner parent name label target)
      fun _ => Clean owner parent name label target := by
    refine ((removeFile_keeps other).mono (fun _ bound => bound) ?_ (fun _ _ => .inl)
      fun _ files failed => bound files failed.1).relabel fun _ _ clean => clean
    exact fun files cases => cases.elim .inl (bound files)
  have looked : KeepsFiles (fun files => Bound owner parent name label target files identity)
      (listen others) (fun files => Bound owner parent name label target files identity)
      (fun _ files => Bound owner parent name label target files identity)
      fun _ files => Bound owner parent name label target files identity :=
    (keeps_look_stable bound_stable).relabel fun _ _ held => held
  refine KeepsFiles.bind (looked.part bound fun _ => bound) fun _ => ?_
  refine KeepsFiles.bind (KeepsFiles.cleanup ((setPermissions_keeps mode).part bound
    fun _ _ bound => bound) fun _ => removed) fun _ => ?_
  refine KeepsFiles.bind (symlinkMetadata_keeps.part bound fun _ files failed =>
    bound files failed.1) ?_
  rintro ⟨found, metadata⟩ start ⟨held, rfl, socket⟩
  have checked : KeepsFiles (fun files => Bound owner parent name label target files found)
      (Stepwise.ofExcept (require (metadata.kind = .socket)
        (ListenerError.createdPathInvalid (name :: parent))))
      (Clean owner parent name label target)
      (fun _ files => Bound owner parent name label target files found)
      fun _ files => Bound owner parent name label target files found := by
    apply KeepsFiles.ofExcept
    intro files held
    rw [require, if_pos socket]
    exact held
  refine KeepsFiles.bind (checked.cleanup fun _ => removed) (fun _ => ?_) start held
  exact .pure fun files held => ⟨rfl, held⟩

/-- The checks before the creation keep what other users cannot make false. -/
theorem checks_keep {holds : Filesystem Inode String → Prop} (stable : StableFiles owner holds)
    {always : Filesystem Inode String → Prop} (held : ∀ files, holds files → always files)
    {umask mode : UInt32} {returns : SecureListener Inode → Filesystem Inode String → Prop}
    {fails : ListenerError → Filesystem Inode String → Prop}
    (stopped : ∀ error files, holds files → fails error files)
    (rest : KeepsFiles holds (create others umask mode (name :: parent)) always returns fails) :
    KeepsFiles holds (bindOwned others umask mode (name :: parent)) always returns fails := by
  have result : ∀ result : Except ListenerError Unit,
      KeepsFiles holds (Stepwise.ofExcept result) always (fun _ => holds) fails := by
    intro result
    apply KeepsFiles.ofExcept
    intro files kept
    cases result with
    | ok => exact kept
    | error error => exact stopped error files kept
  have looked : ∀ path, KeepsFiles holds (symlinkMetadata others path) always (fun _ => holds)
      fun _ => holds := by
    intro path
    exact ((keeps_look_stable stable).mono (fun _ held => held) held (fun _ _ held => held)
      fun _ _ held => held).relabel fun _ _ held => held
  unfold bindOwned
  refine KeepsFiles.bind (result _) fun _ => ?_
  refine KeepsFiles.bind ((looked parent).part (fun _ held => held)
    fun _ files kept => stopped _ files kept) ?_
  rintro ⟨inode, metadata⟩
  refine KeepsFiles.bind (result _) fun _ => ?_
  refine KeepsFiles.bind ((looked (name :: parent)).judge ?_) fun _ => rest
  intro found files ended
  have kept : holds files := by cases found <;> exact ended
  cases checkAbsent (name :: parent) found with
  | ok => exact kept
  | error error => exact stopped error files kept

theorem bindOwned_keeps (umask mode : UInt32) (other : label ≠ name) :
    KeepsFiles (Free owner parent name label target)
      (bindOwned others umask mode (name :: parent)) (Clean owner parent name label target)
      (fun listener files => listener.path = name :: parent ∧
        Bound owner parent name label target files listener.identity)
      fun _ => Clean owner parent name label target :=
  checks_keep free_stable (fun _ => .inl) (fun _ _ => .inl) (create_keeps umask mode other)

/-- Whatever has the name already keeps it, and no listener is made. -/
theorem bindOwned_taken (umask mode : UInt32) :
    KeepsFiles (fun files => Taken owner parent name label target files inode)
      (bindOwned others umask mode (name :: parent))
      (fun files => Taken owner parent name label target files inode) (fun _ _ => False)
      fun _ files => Taken owner parent name label target files inode := by
  refine checks_keep taken_stable (fun _ taken => taken) (fun _ _ taken => taken) ?_
  unfold create
  refine KeepsFiles.bind ((unixBind_taken umask).part (fun _ taken => taken)
    fun _ _ taken => taken) fun _ start impossible => impossible.elim

theorem cleanup_keeps {listener : SecureListener Inode} (path : listener.path = name :: parent)
    (other : label ≠ name) :
    KeepsFiles (fun files => Bound owner parent name label target files listener.identity)
      (cleanup others listener) (Clean owner parent name label target)
      (fun _ files => Free owner parent name label target files ∨
        ∃ error, others.Refuses error ∧ error.kind = .notFound)
      fun error files => Bound owner parent name label target files listener.identity ∧
        OnlyRefused others .io error files := by
  have bound : ∀ files : Filesystem Inode String,
      Bound owner parent name label target files listener.identity →
        Clean owner parent name label target files := fun _ => Bound.clean
  have judged : KeepsFiles
      (fun files => Bound owner parent name label target files listener.identity)
      ((symlinkMetadata others (name :: parent)).judge (ownedPath listener))
      (Clean owner parent name label target)
      (fun remove files => Bound owner parent name label target files listener.identity ∧
        (remove = false → ∃ error, others.Refuses error ∧ error.kind = .notFound))
      fun error files => Bound owner parent name label target files listener.identity ∧
        OnlyRefused others .io error files := by
    refine (symlinkMetadata_keeps.mono (fun _ held => held) bound (fun _ _ found => found)
      fun _ _ failed => failed).judge fun result files ended => ?_
    cases result with
    | ok node =>
        obtain ⟨held, same, socket⟩ := ended
        simp only [ownedPath, same, socket, and_self, ↓reduceIte]
        exact ⟨held, fun impossible => by cases impossible⟩
    | error failure =>
        obtain ⟨held, _, refused, rfl⟩ := ended
        by_cases absent : failure.kind = .notFound
        · simp only [ownedPath, absent, ↓reduceIte]
          exact ⟨held, fun _ => ⟨failure, refused, absent⟩⟩
        · simp only [ownedPath, absent, ↓reduceIte]
          exact ⟨held, failure, refused, rfl⟩
  unfold cleanup removeOwnedPath
  rw [path]
  refine judged.bind fun remove => ?_
  rintro start ⟨held, skipped⟩
  cases remove with
  | true =>
      refine (((removeFile_keeps other).mono (fun _ bound => bound) ?_ (fun _ _ => .inl)
        fun _ _ failed => failed).relabel ?_) start held
      · exact fun files cases => cases.elim .inl (bound files)
      · rintro error files ⟨held, refusal, refused, rfl⟩
        exact ⟨held, _, refused, rfl⟩
  | false => exact .pure (.inr (skipped rfl))

/-- What has the name in the place of the listener's socket is not removed. -/
theorem cleanup_taken {listener : SecureListener Inode} (path : listener.path = name :: parent)
    (foreign : inode ≠ listener.identity) :
    KeepsFiles (fun files => Taken owner parent name label target files inode)
      (cleanup others listener)
      (fun files => Taken owner parent name label target files inode)
      (fun _ files => Taken owner parent name label target files inode)
      fun _ files => Taken owner parent name label target files inode := by
  have looked : KeepsFiles (fun files => Taken owner parent name label target files inode)
      (symlinkMetadata others (name :: parent))
      (fun files => Taken owner parent name label target files inode)
      (fun node files => Taken owner parent name label target files inode ∧ node.1 = inode)
      fun _ files => Taken owner parent name label target files inode := by
    refine KeepsFiles.relabel ?_ fun _ _ taken => taken
    apply keeps_look taken_stable (fun _ taken => taken) (fun _ _ _ taken => taken)
    intro files taken
    simp only [Filesystem.lstatNode, Filesystem.locate_of_securedEntry taken.named, bind,
      Except.bind, Filesystem.fstat]
    cases files.metadata inode with
    | none => exact taken
    | some metadata => exact ⟨taken, rfl⟩
  have kept : KeepsFiles (fun files => Taken owner parent name label target files inode)
      ((symlinkMetadata others (name :: parent)).judge (ownedPath listener))
      (fun files => Taken owner parent name label target files inode)
      (fun remove files => Taken owner parent name label target files inode ∧ remove = false)
      fun _ files => Taken owner parent name label target files inode := by
    refine looked.judge fun result files ended => ?_
    cases result with
    | ok node =>
        obtain ⟨taken, rfl⟩ := ended
        simp only [ownedPath, foreign, and_false, ↓reduceIte]
        exact taken
    | error error =>
        by_cases absent : error.kind = .notFound
        · simp only [ownedPath, absent, ↓reduceIte]
          exact ⟨ended, rfl⟩
        · simp only [ownedPath, absent, ↓reduceIte]
          exact ended
  unfold cleanup removeOwnedPath
  rw [path]
  refine kept.bind fun remove => ?_
  rintro start ⟨taken, rfl⟩
  exact .pure taken

/-- The life of a listener among other users. A name that is taken stays so, and no listener is
made. Under a free name a listener's socket is the only thing that ever stands, and cleaning
up frees the name unless a call is refused; what has come in its place is left alone. The other
names stand for what they stood for. -/
theorem secureListener_life (others : Others Inode String IoError owner) (umask mode : UInt32)
    (other : label ≠ name) (target : Option Inode) :
    (∀ inode, KeepsFiles (fun files => Taken owner parent name label target files inode)
      (bindOwned others umask mode (name :: parent))
      (fun files => Taken owner parent name label target files inode) (fun _ _ => False)
      fun _ files => Taken owner parent name label target files inode) ∧
    KeepsFiles (Free owner parent name label target)
      (bindOwned others umask mode (name :: parent)) (Clean owner parent name label target)
      (fun listener files => listener.path = name :: parent ∧
        Bound owner parent name label target files listener.identity)
      (fun _ => Clean owner parent name label target) ∧
    ∀ listener : SecureListener Inode, listener.path = name :: parent →
      KeepsFiles (fun files => Bound owner parent name label target files listener.identity)
        (cleanup others listener) (Clean owner parent name label target)
        (fun _ files => Free owner parent name label target files ∨
          ∃ error, others.Refuses error ∧ error.kind = .notFound)
        (fun error files => Bound owner parent name label target files listener.identity ∧
          OnlyRefused others .io error files) ∧
      ∀ inode, inode ≠ listener.identity →
        KeepsFiles (fun files => Taken owner parent name label target files inode)
          (cleanup others listener)
          (fun files => Taken owner parent name label target files inode)
          (fun _ files => Taken owner parent name label target files inode)
          fun _ files => Taken owner parent name label target files inode :=
  ⟨fun _ => bindOwned_taken umask mode, bindOwned_keeps umask mode other, fun _ path =>
    ⟨cleanup_keeps path other, fun _ foreign => cleanup_taken path foreign⟩⟩

/-- A listener makes its socket in an empty directory, and its clean-up removes it. -/
theorem secureListener_test : ∃ listener,
    (bindOwned testOthers 0o022 0o660 ["auth.sock", "run"] ⟨testFiles "run", 0⟩).result =
      .ok listener ∧
    Bound 0 ["run"] "auth.sock" "lock" none
      (bindOwned testOthers 0o022 0o660 ["auth.sock", "run"] ⟨testFiles "run", 0⟩).state.files
      listener.identity ∧
    (cleanup testOthers listener (bindOwned testOthers 0o022 0o660 ["auth.sock", "run"]
      ⟨testFiles "run", 0⟩).state).result = .ok () ∧
    Free 0 ["run"] "auth.sock" "lock" none
      (cleanup testOthers listener (bindOwned testOthers 0o022 0o660 ["auth.sock", "run"]
        ⟨testFiles "run", 0⟩).state).state.files := by
  have empty : Free 0 ["run"] "auth.sock" "lock" none (testFiles "run") :=
    ⟨⟨by decide, by decide⟩, by decide⟩
  have binds : (bindOwned testOthers 0o022 0o660 ["auth.sock", "run"]
      ⟨testFiles "run", 0⟩).result = .ok ⟨["auth.sock", "run"], 2⟩ := by
    decide +kernel
  have cleans : (cleanup testOthers ⟨["auth.sock", "run"], 2⟩ (bindOwned testOthers 0o022 0o660
      ["auth.sock", "run"] ⟨testFiles "run", 0⟩).state).result = .ok () := by
    decide +kernel
  have bound := ((secureListener_life testOthers 0o022 0o660 (by decide) none).2.1
    ⟨testFiles "run", 0⟩ empty).ended
  rw [binds] at bound
  have free := (((secureListener_life testOthers 0o022 0o660 (by decide) none).2.2
    ⟨["auth.sock", "run"], 2⟩ rfl).1 _ bound.2).ended
  rw [cleans] at free
  refine ⟨_, binds, bound.2, cleans, free.resolve_right ?_⟩
  rintro ⟨error, ⟨call, refused⟩, -⟩
  cases refused

end Effects

end SecureListener

end FaceAuth
