import FaceAuth.Foundation.Check
import FaceAuth.Foundation.Filesystem
import FaceAuth.Foundation.Stepwise

/-!
# System calls among other users

A program makes one call after the other. Before each of them other users act as they
please, and the kernel may refuse the call. What the links of the others lead to is not
known to the program.
-/

namespace Foundation

/-- Why a call on a file fails. -/
inductive CallFailure (Error : Type) where
  | notFound | alreadyExists | notDirectory | isDirectory | tooManyLinks | noSpace
  | refused (error : Error)
deriving DecidableEq

namespace Filesystem

variable {Inode Name Error : Type}

/-! ## Looking up paths -/

section Lookup

variable (links : Filesystem Inode Name → Inode → Except (CallFailure Error) Inode)
  (files : Filesystem Inode Name)

/-- What a file names so, which must be a directory. -/
def enter (directory : Inode) (name : Name) : Except (CallFailure Error) Inode :=
  match files.metadata directory with
  | none => .error .notFound
  | some metadata =>
      if metadata.kind = .directory then
        (files.entry directory name).elim (.error .notFound) .ok
      else .error .notDirectory

/-- Whether the file is a link. -/
def isSymlink (inode : Inode) : Bool :=
  (files.metadata inode).any fun metadata => decide (metadata.kind = .symlink)

/-- Whether the file is a directory. -/
def isDirectory (inode : Inode) : Bool :=
  (files.metadata inode).any fun metadata => decide (metadata.kind = .directory)

/-- Where a path leads when all its links are followed. -/
def reach : List Name → Except (CallFailure Error) Inode
  | [] => .ok files.root
  | name :: parent => do
      let directory ← reach parent
      let inode ← files.enter directory name
      if files.isSymlink inode then links files inode else .ok inode

/-- Where a path leads when its last name is not followed. -/
def locate : List Name → Except (CallFailure Error) Inode
  | [] => .ok files.root
  | name :: parent => do
      let directory ← files.reach links parent
      files.enter directory name

variable {links files} {owner : UInt32} {inode directory : Inode} {name : Name}
  {parent path : List Name}

/-- A trusted directory is entered by its entries. -/
theorem enter_of_trustedDirectory (trusted : files.trustedDirectory owner directory = true)
    (name : Name) : (files.enter directory name : Except (CallFailure Error) Inode) =
      (files.entry directory name).elim (.error .notFound) .ok := by
  obtain ⟨metadata, found, kind, -⟩ := trustedDirectory_eq_true_iff.mp trusted
  simp only [enter, found, kind, ↓reduceIte]

/-- A trusted directory is not a link. -/
theorem isSymlink_of_trustedDirectory (trusted : files.trustedDirectory owner inode = true) :
    files.isSymlink inode = false := by
  obtain ⟨metadata, found, kind, -⟩ := trustedDirectory_eq_true_iff.mp trusted
  simp [isSymlink, found, kind]

/-- What is no directory is not a trusted one. -/
theorem trustedDirectory_of_isDirectory (other : files.isDirectory inode = false) :
    files.trustedDirectory owner inode = false := by
  rw [Bool.eq_false_iff]
  intro trusted
  obtain ⟨metadata, found, kind, -⟩ := trustedDirectory_eq_true_iff.mp trusted
  simp [isDirectory, found, kind] at other

/-- A private file is no directory. -/
theorem trustedDirectory_of_privateFile (held : files.privateFile owner inode = true) :
    files.trustedDirectory owner inode = false := by
  obtain ⟨metadata, found, kind, -⟩ := privateFile_eq_true_iff.mp held
  apply trustedDirectory_of_isDirectory
  simp [isDirectory, found, kind]

/-- No link diverts a secured path. -/
theorem reach_of_secured (secured : files.secured owner path = some inode) :
    files.reach links path = .ok inode := by
  induction path generalizing inode with
  | nil => rw [reach, (secured_nil_eq_some_iff.mp secured).1]
  | cons name parent ih =>
      obtain ⟨named, trusted⟩ := secured_cons_eq_some_iff.mp secured
      obtain ⟨directory, above, found⟩ := securedEntry_eq_some_iff.mp named
      have entered := @enter_of_trustedDirectory _ _ Error _ _ _
        (trustedDirectory_of_secured above) name
      rw [found] at entered
      simp only [reach, ih above, bind, Except.bind, entered, Option.elim_some,
        isSymlink_of_trustedDirectory trusted, Bool.false_eq_true, ↓reduceIte]

/-- In a secured directory a name is located by its entry. -/
theorem locate_of_secured (secured : files.secured owner parent = some directory) (name : Name) :
    files.locate links (name :: parent) =
      (files.entry directory name).elim (.error .notFound) .ok := by
  simp only [locate, reach_of_secured secured, bind, Except.bind]
  exact enter_of_trustedDirectory (trustedDirectory_of_secured secured) name

/-- A name in a secured directory locates its file. -/
theorem locate_of_securedEntry (named : files.securedEntry owner name parent = some inode) :
    files.locate links (name :: parent) = .ok inode := by
  obtain ⟨directory, above, found⟩ := securedEntry_eq_some_iff.mp named
  rw [locate_of_secured above, found, Option.elim_some]

/-- A name that is no link reaches its file. -/
theorem reach_of_securedEntry (named : files.securedEntry owner name parent = some inode)
    (plain : files.isSymlink inode = false) : files.reach links (name :: parent) = .ok inode := by
  have located := @locate_of_securedEntry _ _ _ links _ _ _ _ _ named
  simp only [locate] at located
  simp only [reach, bind, Except.bind] at located ⊢
  split at located
  · cases located
  · simp only [located, plain, Bool.false_eq_true, ↓reduceIte]

end Lookup

/-! ## The effect of a call -/

section Operations

variable (links : Filesystem Inode Name → Inode → Except (CallFailure Error) Inode)
  (files : Filesystem Inode Name)

/-- What is known about an open file. -/
def fstat (inode : Inode) : Except (CallFailure Error) Metadata :=
  (files.metadata inode).elim (.error .notFound) .ok

/-- What is known about the file at a path, also about a link. -/
def lstat (path : List Name) : Except (CallFailure Error) Metadata := do
  let inode ← files.locate links path
  files.fstat inode

/-- What a path leads to when its last name is not followed, with what is known about it. -/
def lstatNode (path : List Name) : Except (CallFailure Error) (Inode × Metadata) := do
  let inode ← files.locate links path
  let metadata ← files.fstat inode
  pure (inode, metadata)

/-- What is known about a file and how many bytes it has. -/
def statSize (path : List Name) : Except (CallFailure Error) (Metadata × Nat) := do
  let inode ← files.reach links path
  let metadata ← files.fstat inode
  pure (metadata, (files.content inode).length)

/-- A path whose last name is there and no link. -/
def plain (path : List Name) : Except (CallFailure Error) Unit := do
  let metadata ← files.lstat links path
  if metadata.kind = .symlink then .error .tooManyLinks else .ok ()

/-- Open a file, but not by way of a link. -/
def openNofollow (path : List Name) : Except (CallFailure Error) Inode := do
  let inode ← files.locate links path
  if files.isSymlink inode then .error .tooManyLinks else .ok inode

variable {links files} {path : List Name} {metadata : Metadata}

/-- Something is known about a path that locates a file. -/
theorem lstat_eq_ok_iff : files.lstat links path = .ok metadata ↔
    ∃ inode, files.locate links path = .ok inode ∧ files.metadata inode = some metadata := by
  unfold lstat
  rw [bind_eq_ok_iff]
  refine exists_congr fun inode => and_congr_right fun _ => ?_
  unfold fstat
  cases files.metadata inode <;> simp

/-- A path is plain when it locates a file that is no link. -/
theorem plain_eq_ok_iff : files.plain links path = .ok () ↔
    ∃ inode metadata, files.locate links path = .ok inode ∧
      files.metadata inode = some metadata ∧ metadata.kind ≠ .symlink := by
  unfold plain
  rw [bind_eq_ok_iff]
  constructor
  · rintro ⟨metadata, found, plain⟩
    obtain ⟨inode, located, known⟩ := lstat_eq_ok_iff.mp found
    refine ⟨inode, metadata, located, known, fun link => ?_⟩
    rw [if_pos link] at plain
    cases plain
  · rintro ⟨inode, metadata, located, known, plain⟩
    exact ⟨metadata, lstat_eq_ok_iff.mpr ⟨inode, located, known⟩, if_neg plain⟩

variable (files) [DecidableEq Inode]

/-- Put a chunk in the place of the bytes from a position on. -/
def writeAt (inode : Inode) (position : Nat) (chunk : List UInt8) : Filesystem Inode Name :=
  files.setContent inode
    ((files.content inode).take position ++ chunk ++
      (files.content inode).drop (position + chunk.length))

variable {files} in
/-- What is written at the end of a file comes behind what is in it. -/
theorem writeAt_length {inode : Inode} {written : List UInt8}
    (content : files.content inode = written) (chunk : List UInt8) :
    files.writeAt inode written.length chunk = files.setContent inode (written ++ chunk) := by
  rw [writeAt, content, List.take_length, List.drop_eq_nil_of_le (by omega), List.append_nil]

variable (links)

/-- Change the bits of what a path leads to. -/
def chmod (mode : UInt32) (path : List Name) :
    Except (CallFailure Error) Unit × Filesystem Inode Name :=
  match files.reach links path with
  | .error failure => (.error failure, files)
  | .ok inode =>
      match files.metadata inode with
      | none => (.error .notFound, files)
      | some metadata => (.ok (), files.setMetadata inode (some { metadata with mode }))

variable [DecidableEq Name]

/-- Create a file under a name that nothing has, links included. -/
def createNew (user : UInt32) (vacant : Option Inode) (metadata : Metadata) (path : List Name) :
    Except (CallFailure Error) Inode × Filesystem Inode Name :=
  match path with
  | [] => (.error .alreadyExists, files)
  | name :: parent =>
      match files.reach links parent with
      | .error failure => (.error failure, files)
      | .ok directory =>
          match (files.enter directory name : Except (CallFailure Error) Inode) with
          | .ok _ => (.error .alreadyExists, files)
          | .error .notFound =>
              match vacant with
              | none => (.error .noSpace, files)
              | some inode =>
                  (.ok inode, (files.allocate user inode metadata).setEntry directory name
                    (some inode))
          | .error failure => (.error failure, files)

/-- Take the name of a file away. -/
def unlink (path : List Name) : Except (CallFailure Error) Unit × Filesystem Inode Name :=
  match path with
  | [] => (.error .isDirectory, files)
  | name :: parent =>
      match files.reach links parent with
      | .error failure => (.error failure, files)
      | .ok directory =>
          match (files.enter directory name : Except (CallFailure Error) Inode) with
          | .error failure => (.error failure, files)
          | .ok inode =>
              if files.isDirectory inode then (.error .isDirectory, files)
              else (.ok (), files.setEntry directory name none)

/-- Give a file that is no directory another name of the same directory, in the place of
what had it. -/
def rename (source target : Name) (parent : List Name) :
    Except (CallFailure Error) Unit × Filesystem Inode Name :=
  match files.reach links parent with
  | .error failure => (.error failure, files)
  | .ok directory =>
      match (files.enter directory source : Except (CallFailure Error) Inode) with
      | .error failure => (.error failure, files)
      | .ok inode =>
          if files.entry directory target = some inode then (.ok (), files)
          else if (files.entry directory target).any files.isDirectory then
            (.error .isDirectory, files)
          else
            (.ok (), (files.setEntry directory target (some inode)).setEntry directory source none)

end Operations

end Filesystem

/-! ## One call after the other -/

/-- The files, and how many calls the program has made. -/
structure FileWorld (Inode Name : Type) where
  files : Filesystem Inode Name
  calls : Nat

/-- What the other users do before each call, where their links lead, which calls the kernel
refuses, and which number a new file gets if there is one. -/
structure Others (Inode Name Error : Type) [DecidableEq Inode] [DecidableEq Name]
    (owner : UInt32) where
  between : Nat → Filesystem Inode Name → Filesystem Inode Name
  untrusted : ∀ (call : Nat) (files : Filesystem Inode Name),
    files.Untrusted owner (between call files)
  links : Filesystem Inode Name → Inode → Except (CallFailure Error) Inode
  fault : Nat → Option Error
  vacant : Filesystem Inode Name → Option Inode
  unused : ∀ (files : Filesystem Inode Name) (inode : Inode),
    vacant files = some inode → files.metadata inode = none

namespace Others

variable {Inode Name Error Value : Type} [DecidableEq Inode] [DecidableEq Name] {owner : UInt32}
  (others : Others Inode Name Error owner)

/-- The others act before a call. -/
def interfere (world : FileWorld Inode Name) : FileWorld Inode Name where
  files := others.between world.calls world.files
  calls := world.calls + 1

/-- One call, unless it is refused. -/
def call (operation : Filesystem Inode Name →
      Except (CallFailure Error) Value × Filesystem Inode Name) :
    Stepwise (FileWorld Inode Name) (CallFailure Error) Value := do
  Stepwise.change others.interfere
  Stepwise.ask fun world => (others.fault world.calls).elim (.ok ()) (.error ∘ .refused)
  Stepwise.act fun world =>
    ((operation world.files).1, { world with files := (operation world.files).2 })

/-- One call that only looks. -/
def look (operation : Filesystem Inode Name → Except (CallFailure Error) Value) :
    Stepwise (FileWorld Inode Name) (CallFailure Error) Value :=
  others.call fun files => (operation files, files)

/-- Some call is refused with this error. -/
def Refuses (error : Error) : Prop := ∃ call, others.fault call = some error

/-- None of the next calls is refused. -/
def Unrefused (before count : Nat) : Prop :=
  ∀ call, before < call → call ≤ before + count → others.fault call = none

variable {others}

/-- One call is not refused. -/
theorem unrefused_one_iff {before : Nat} :
    others.Unrefused before 1 ↔ others.fault (before + 1) = none := by
  refine ⟨fun heard => heard _ (by omega) (by omega), fun heard call above below => ?_⟩
  have same : call = before + 1 := by omega
  rw [same, heard]

/-- Calls are not refused one after the other. -/
theorem unrefused_add_iff {before first second : Nat} :
    others.Unrefused before (first + second) ↔
      others.Unrefused before first ∧ others.Unrefused (before + first) second := by
  constructor
  · intro heard
    exact ⟨fun call above below => heard call above (by omega),
      fun call above below => heard call (by omega) (by omega)⟩
  · rintro ⟨early, late⟩ call above below
    by_cases first : call ≤ before + first
    · exact early call above first
    · exact late call (by omega) (by omega)

variable {start : FileWorld Inode Name} {always : FileWorld Inode Name → Prop}
  {ends : Except (CallFailure Error) Value → FileWorld Inode Name → Prop}

/-- What a call ensures: it is made on files that the others have touched, or refused. -/
theorem ensures_call {operation : Filesystem Inode Name →
      Except (CallFailure Error) Value × Filesystem Inode Name}
    (touched : ∀ files, start.files.Untrusted owner files → always ⟨files, start.calls + 1⟩)
    (refused : ∀ files error, start.files.Untrusted owner files →
      others.fault (start.calls + 1) = some error →
        ends (.error (.refused error)) ⟨files, start.calls + 1⟩)
    (answered : ∀ files, start.files.Untrusted owner files →
      others.fault (start.calls + 1) = none →
        always ⟨(operation files).2, start.calls + 1⟩ ∧
          ends (operation files).1 ⟨(operation files).2, start.calls + 1⟩) :
    Stepwise.Ensures (others.call operation) start always ends := by
  have acted := others.untrusted start.calls start.files
  apply Stepwise.Ensures.change_bind
  · exact touched _ acted
  · cases fault : others.fault (start.calls + 1) with
    | some error =>
        apply Stepwise.Ensures.ask_bind
        · intro failure looked
          simp only [interfere, fault, Option.elim_some, Function.comp_apply,
            Except.error.injEq] at looked
          subst looked
          exact refused _ error acted fault
        · intro value looked
          simp [interfere, fault] at looked
    | none =>
        apply Stepwise.Ensures.ask_bind
        · intro failure looked
          simp [interfere, fault] at looked
        · intro value _
          obtain ⟨written, holds⟩ := answered _ acted fault
          exact .act written holds

/-- A look ensures what holds after the others have acted. -/
theorem ensures_look {operation : Filesystem Inode Name → Except (CallFailure Error) Value}
    (touched : ∀ files, start.files.Untrusted owner files → always ⟨files, start.calls + 1⟩)
    (refused : ∀ files error, start.files.Untrusted owner files →
      others.fault (start.calls + 1) = some error →
        ends (.error (.refused error)) ⟨files, start.calls + 1⟩)
    (answered : ∀ files, start.files.Untrusted owner files →
      others.fault (start.calls + 1) = none → ends (operation files) ⟨files, start.calls + 1⟩) :
    Stepwise.Ensures (others.look operation) start always ends :=
  ensures_call touched refused fun files acted passed =>
    ⟨touched files acted, answered files acted passed⟩

end Others

/-! ## Assertions about the files -/

section Assertions

variable {Inode Name Failure Value : Type}

/-- How a computation ends, in terms of the files that it leaves. -/
def EndsFiles (returns : Value → Filesystem Inode Name → Prop)
    (fails : Failure → Filesystem Inode Name → Prop) :
    Except Failure Value → FileWorld Inode Name → Prop
  | .ok value, world => returns value world.files
  | .error failure, world => fails failure world.files

/-- From files of which the first assertion is true, the computation goes through files of
which the second is, and ends with one of the last two. -/
def KeepsFiles (before : Filesystem Inode Name → Prop)
    (computation : Stepwise (FileWorld Inode Name) Failure Value)
    (always : Filesystem Inode Name → Prop) (returns : Value → Filesystem Inode Name → Prop)
    (fails : Failure → Filesystem Inode Name → Prop) : Prop :=
  ∀ start : FileWorld Inode Name, before start.files →
    computation.Ensures start (fun world => always world.files) (EndsFiles returns fails)

variable {before always : Filesystem Inode Name → Prop}
  {computation : Stepwise (FileWorld Inode Name) Failure Value}
  {returns : Value → Filesystem Inode Name → Prop}
  {fails : Failure → Filesystem Inode Name → Prop}

namespace KeepsFiles

/-- Returning keeps what holds already. -/
theorem pure {value : Value} (holds : ∀ files, before files → returns value files) :
    KeepsFiles before (Pure.pure value : Stepwise (FileWorld Inode Name) Failure Value) always
      returns fails :=
  fun start held => .pure (holds start.files held)

/-- Two parts keep what each of them does. -/
theorem bind {Next : Type} {next : Value → Stepwise (FileWorld Inode Name) Failure Next}
    {ends : Next → Filesystem Inode Name → Prop}
    (first : KeepsFiles before computation always returns fails)
    (second : ∀ value, KeepsFiles (returns value) (next value) always ends fails) :
    KeepsFiles before (computation >>= next) always ends fails := by
  intro start held
  apply (first start held).bind
  · exact fun _ _ failed => failed
  · exact fun value world returned => second value world returned

/-- A label keeps what held at the failure. -/
theorem relabel {Label : Type} {label : Failure → Label}
    {ends : Label → Filesystem Inode Name → Prop}
    (inner : KeepsFiles before computation always returns fails)
    (labelled : ∀ failure files, fails failure files → ends (label failure) files) :
    KeepsFiles before (computation.relabel label) always returns ends := by
  intro start held
  apply (inner start held).relabel
  · exact fun _ _ returned => returned
  · exact fun failure world failed => labelled failure world.files failed

/-- Judging a result does not touch the files. -/
theorem judge {Label Next : Type} {look : Except Failure Value → Except Label Next}
    {ends : Next → Filesystem Inode Name → Prop} {other : Label → Filesystem Inode Name → Prop}
    (inner : KeepsFiles before computation always returns fails)
    (judged : ∀ result files, EndsFiles returns fails result ⟨files, 0⟩ →
      EndsFiles ends other (look result) ⟨files, 0⟩) :
    KeepsFiles before (computation.judge look) always ends other := by
  intro start held
  apply (inner start held).judge
  intro result world ended
  have holds := judged result world.files (by cases result <;> exact ended)
  cases found : look result <;> simpa [found, EndsFiles] using holds

/-- A caught failure is a result. -/
theorem attempt {Label : Type} {never : Label → Filesystem Inode Name → Prop}
    (inner : KeepsFiles before computation always returns fails) :
    KeepsFiles before (computation.attempt : Stepwise (FileWorld Inode Name) Label _) always
      (fun result files => EndsFiles returns fails result ⟨files, 0⟩) never := by
  intro start held
  apply (inner start held).attempt
  intro result world ended
  cases result <;> exact ended

/-- A clean-up keeps what it does after a failure. -/
theorem cleanup {clean : Stepwise (FileWorld Inode Name) Failure Unit}
    {broken : Failure → Filesystem Inode Name → Prop}
    (inner : KeepsFiles before computation always returns broken)
    (cleaned : ∀ failure, KeepsFiles (broken failure) clean always (fun _ => fails failure)
      fun _ => fails failure) :
    KeepsFiles before (computation.cleanup clean) always returns fails := by
  intro start held
  apply (inner start held).cleanup
  · exact fun _ _ returned => returned
  · intro failure world failed
    apply (cleaned failure world failed).mono
    · exact fun _ passed => passed
    · intro result after ended
      cases result with
      | ok => exact ended
      | error => exact ended

/-- Less may be kept. -/
theorem mono {earlier wider : Filesystem Inode Name → Prop}
    {weaker : Value → Filesystem Inode Name → Prop}
    {looser : Failure → Filesystem Inode Name → Prop}
    (holds : KeepsFiles before computation always returns fails)
    (first : ∀ files, earlier files → before files) (on : ∀ files, always files → wider files)
    (returned : ∀ value files, returns value files → weaker value files)
    (failed : ∀ failure files, fails failure files → looser failure files) :
    KeepsFiles earlier computation wider weaker looser := by
  intro start held
  apply (holds start (first _ held)).mono
  · exact fun world => on world.files
  · intro result world ended
    cases result with
    | ok value => exact returned value world.files ended
    | error failure => exact failed failure world.files ended

/-- A result that is already there is passed on. -/
theorem ofExcept {result : Except Failure Value}
    (ended : ∀ files, before files → EndsFiles returns fails result ⟨files, 0⟩) :
    KeepsFiles before (Stepwise.ofExcept result) always returns fails := by
  intro start held
  apply Stepwise.Ensures.ask
  have holds := ended start.files held
  cases result <;> exact holds

/-- A result that is already there is known from then on. -/
theorem given {result : Except Failure Value}
    (failed : ∀ failure files, before files → result = .error failure → fails failure files) :
    KeepsFiles before (Stepwise.ofExcept result) always
      (fun value files => before files ∧ result = .ok value) fails := by
  apply ofExcept
  intro files held
  cases result with
  | ok value => exact ⟨held, rfl⟩
  | error failure => exact failed failure files held rfl

/-- What is chosen at some call does not touch the files. -/
theorem chosen (choice : Nat → Value)
    (held : ∀ files, before files → ∀ call, returns (choice call) files) :
    KeepsFiles before (Stepwise.ask fun world => .ok (choice world.calls)) always returns fails :=
  fun start holds => Stepwise.Ensures.ask (held start.files holds start.calls)

/-- A fact that is not about the files is taken out of an assertion. -/
theorem fact {holds : Prop}
    (held : holds → KeepsFiles before computation always returns fails) :
    KeepsFiles (fun files => before files ∧ holds) computation always returns fails :=
  fun start both => held both.2 start both.1

/-- A part of a computation whose failures the whole reports in its own words. -/
theorem part {Label : Type} {label : Failure → Label} {wider : Filesystem Inode Name → Prop}
    {looser : Label → Filesystem Inode Name → Prop}
    (holds : KeepsFiles before computation always returns fails)
    (on : ∀ files, always files → wider files)
    (failed : ∀ failure files, fails failure files → looser (label failure) files) :
    KeepsFiles before (computation.relabel label) wider returns looser :=
  (holds.relabel failed).mono (fun _ held => held) on (fun _ _ returned => returned)
    fun _ _ failed => failed

end KeepsFiles

variable {Error : Type} [DecidableEq Inode] [DecidableEq Name] {owner : UInt32}
  {others : Others Inode Name Error owner}

/-- What other users cannot make false. -/
def StableFiles (owner : UInt32) (holds : Filesystem Inode Name → Prop) : Prop :=
  ∀ files after : Filesystem Inode Name, files.Untrusted owner after → holds files → holds after

/-- Two stable assertions are stable together. -/
theorem StableFiles.and {first second : Filesystem Inode Name → Prop}
    (one : StableFiles owner first) (other : StableFiles owner second) :
    StableFiles owner fun files => first files ∧ second files :=
  fun files after acted held => ⟨one files after acted held.1, other files after acted held.2⟩

/-- Stable assertions about some items are stable together. -/
theorem StableFiles.all {Item : Type} {holds : Item → Filesystem Inode Name → Prop}
    (each : ∀ item, StableFiles owner (holds item)) (items : List Item) :
    StableFiles owner fun files => ∀ item ∈ items, holds item files :=
  fun files after acted held item member => each item files after acted (held item member)

/-- One call, made while a stable assertion holds. -/
theorem keeps_call {operation : Filesystem Inode Name →
      Except (CallFailure Error) Value × Filesystem Inode Name}
    {fails : CallFailure Error → Filesystem Inode Name → Prop}
    (stable : StableFiles owner before) (held : ∀ files, before files → always files)
    (refused : ∀ files error, others.Refuses error → before files → fails (.refused error) files)
    (answered : ∀ files, before files → always (operation files).2 ∧
      EndsFiles returns fails (operation files).1 ⟨(operation files).2, 0⟩) :
    KeepsFiles before (others.call operation) always returns fails := by
  intro start holds
  apply Others.ensures_call
  · exact fun files acted => held files (stable _ _ acted holds)
  · exact fun files error acted fault => refused files error ⟨_, fault⟩ (stable _ _ acted holds)
  · intro files acted _
    obtain ⟨written, ended⟩ := answered files (stable _ _ acted holds)
    refine ⟨written, ?_⟩
    cases result : (operation files).1 <;> simpa [result, EndsFiles] using ended

/-- A look keeps a stable assertion and ends as the files say. -/
theorem keeps_look {operation : Filesystem Inode Name → Except (CallFailure Error) Value}
    {fails : CallFailure Error → Filesystem Inode Name → Prop}
    (stable : StableFiles owner before) (held : ∀ files, before files → always files)
    (refused : ∀ files error, others.Refuses error → before files → fails (.refused error) files)
    (answered : ∀ files, before files →
      EndsFiles returns fails (operation files) ⟨files, 0⟩) :
    KeepsFiles before (others.look operation) always returns fails :=
  keeps_call stable held refused fun files holds => ⟨held files holds, answered files holds⟩

/-- Looking keeps what others cannot make false. -/
theorem keeps_look_stable {operation : Filesystem Inode Name → Except (CallFailure Error) Value}
    (stable : StableFiles owner before) :
    KeepsFiles before (others.look operation) before (fun _ => before) fun _ => before := by
  apply keeps_look stable (fun _ held => held) (fun _ _ _ held => held)
  intro files held
  cases operation files <;> exact held

end Assertions

end Foundation
