import FaceAuth.Core.TrustedPath
import FaceAuth.Daemon.Production
import FaceAuth.Inference.GraphContract

/-!
# Installed models

A session is made from a model file that is verified first: its owner, its bits and those of
its ancestors, its length and its digest. The runtime then opens the path once more.
-/

namespace FaceAuth

open Foundation TrustedPath

/-- What the libraries compute: which licenses are known, digests, the text of a manifest and
back, and the graph of a model. -/
structure Libraries where
  spdx : List UInt8 → Bool
  sha256 : List UInt8 → Vector UInt8 32
  serialize : ModelManifest → Except ModelError (List UInt8)
  parse : List UInt8 → Option ModelManifest
  commit : List UInt8 → Option Graph

/-- What the process knows of its runtime: the library that it configured with the code that it
loaded, whether a holder of the lock on that panicked, and whether another environment was
committed before. -/
structure RuntimeLibrary where
  configured : Option (List String × List UInt8)
  poisoned : Bool
  external : Bool
deriving DecidableEq

/-- A session with the model that it was made from. -/
structure LoadedSession where
  session : Inference.OnnxSession
  model : List UInt8
  maxRunMillis : Nat

namespace Installation

variable {Inode : Type} [DecidableEq Inode] {owner : UInt32}
  (others : Others Inode String IoError owner)

/-- A file is a regular one of the owner that nobody else may write to. -/
def checkFile (owner : UInt32) (path : List String) (metadata : Metadata) :
    Except InstallationError Unit := do
  require (metadata.kind = .regular) (.notRegularFile path)
  require (metadata.uid = owner ∧ metadata.mode &&& 0o022 = 0)
    (.unsafeFilePermissions path metadata.uid (metadata.mode &&& 0o777))

/-- A model is not empty, and not larger than the configuration allows. -/
def checkSize (maxBytes : Option Nat) (length : Nat) : Except InstallationError Unit :=
  match maxBytes with
  | none => .ok ()
  | some maximum =>
      require (¬ (length = 0 ∨ maximum < length)) (.modelSizeInvalid length maximum)

/-- Check a file, its ancestors and its length. -/
def verifyTrustedFile (path : List String) (maxBytes : Option Nat) :
    FileComputation Inode InstallationError Unit := do
  let (metadata, length) ← (fsMetadata others path).relabel .io
  Stepwise.ofExcept (checkFile owner path metadata)
  verifyAncestors others .io
    (fun ancestor metadata =>
      .unsafeParentDirectory ancestor metadata.uid (metadata.mode &&& 0o777)) path
  Stepwise.ofExcept (checkSize maxBytes length)

section Model

variable (kernel : Kernel) (libraries : Libraries)

/-- The content has the digest that was stated. -/
def checkDigest (expected content : List UInt8) : Except ModelFileError Unit :=
  require (hexLower (libraries.sha256 content).toList = expected)
    (.digestMismatch expected (hexLower (libraries.sha256 content).toList))

/-- Verify a model file against its manifest, whose digest is over what the portions of the
file come to. -/
def verifyFile (manifest : ModelManifest) (path : List String) :
    FileComputation Inode ModelFileError Unit := do
  Stepwise.ofExcept ((manifest.validate libraries.spdx).mapError .manifest)
  let file ← (openFile others path).relabel .io
  let metadata ← (fileMetadata others file).relabel .io
  Stepwise.ofExcept (require (metadata.kind = .regular) .notRegularFile)
  let content ← (readOpen others kernel file).relabel .io
  Stepwise.ofExcept (checkDigest libraries manifest.sha256 content)

/-- Load the runtime library once. The file is verified each time. -/
def initializeRuntime (runtime : RuntimeLibrary) (path : UnixPath) :
    FileComputation Inode InstallationError RuntimeLibrary := do
  let canonical ← (canonicalize others kernel path).relabel .io
  verifyTrustedFile others canonical none
  Stepwise.ofExcept (require (runtime.poisoned = false) .runtimeStatePoisoned)
  match runtime.configured with
  | some (existing, _) => do
      Stepwise.ofExcept (require (existing = canonical)
        (.runtimeAlreadyInitialized existing canonical))
      pure runtime
  | none => do
      let code ← (readFile others kernel canonical).relabel .io
      Stepwise.ofExcept (require (runtime.external = false) .runtimeAlreadyInitializedExternally)
      pure { runtime with configured := some (canonical, code) }

/-- Check that the installed runtime library may be loaded. -/
def verifyRuntimeInstallation (config : RuntimePolicyConfig) :
    FileComputation Inode InstallationError Unit := do
  Stepwise.ofExcept (config.validate.mapError fun _ => .invalidConfig)
  let canonical ← (canonicalize others kernel config.libraryPath).relabel .io
  verifyTrustedFile others canonical none

/-- Resolve the path of a model and verify what it leads to. -/
def verifyModel (config : RuntimePolicyConfig) (manifest : ModelManifest) (modelPath : UnixPath) :
    FileComputation Inode InstallationError (List String) := do
  Stepwise.ofExcept (config.validate.mapError fun _ => .invalidConfig)
  let canonical ← (canonicalize others kernel modelPath).relabel .io
  verifyTrustedFile others canonical (some config.maxModelBytes)
  (verifyFile others kernel libraries manifest canonical).relabel .model
  pure canonical

/-- Check that a session may be made from an installed model. -/
def verifyModelInstallation (config : RuntimePolicyConfig) (manifest : ModelManifest)
    (modelPath : UnixPath) : FileComputation Inode InstallationError Unit := do
  let _ ← verifyModel others kernel libraries config manifest modelPath
  pure ()

/-- What the runtime makes of a model that it was given. -/
def commit (config : RuntimePolicyConfig) (manifest : ModelManifest) (model : List UInt8) :
    Except InstallationError LoadedSession :=
  match libraries.commit model with
  | none => .error .ort
  | some graph => do
      Inference.validateSessionContract manifest graph
      let compatibilitySha256 ← (manifest.compatibilitySha256 libraries.spdx libraries.sha256
        libraries.serialize).mapError (.model ∘ .manifest)
      pure ⟨⟨manifest, compatibilitySha256⟩, model, config.maxRunMillis⟩

/-- Make a session. Its first steps are those that verify the model. -/
def load (config : RuntimePolicyConfig) (manifest : ModelManifest) (modelPath : UnixPath)
    (runtime : RuntimeLibrary) :
    FileComputation Inode InstallationError (LoadedSession × RuntimeLibrary) := do
  let canonicalModel ← verifyModel others kernel libraries config manifest modelPath
  let runtime ← initializeRuntime others kernel runtime config.libraryPath
  let model ← (readFile others kernel canonicalModel).relabel .io
  let session ← Stepwise.ofExcept (commit libraries config manifest model)
  pure (session, runtime)

end Model

section Specs

variable {others} {holds : Filesystem Inode String → Prop} {contents : List String → List UInt8}
  {path : List String}

/-- The check passes for trusted files. -/
theorem checkFile_eq_ok_iff {metadata : Metadata} :
    checkFile owner path metadata = .ok () ↔ TrustedFile owner metadata := by
  simp only [checkFile, check_bind_eq_ok_iff, require_eq_ok_iff, TrustedFile]

section Paths

variable (stable : StableFiles owner holds)
  (installed : ∀ files, holds files → Installed owner files contents)

include stable installed

/-- A file that passes the checks stands for good under its path, with the bytes that it was
installed with, and they are as few as they should be. -/
theorem verifyTrustedFile_keeps (plain : ∀ files, holds files → Plain owner path files)
    (maxBytes : Option Nat) :
    KeepsFiles holds (verifyTrustedFile others path maxBytes) holds
      (fun _ files => holds files ∧ Kept owner path files contents ∧
        checkSize maxBytes (contents path).length = .ok ()) fun _ => holds := by
  unfold verifyTrustedFile
  refine ((fsMetadata_keeps stable plain installed).relabel fun _ _ held => held).bind
    fun ⟨metadata, length⟩ => ?_
  have both : StableFiles owner fun files : Filesystem Inode String =>
      holds files ∧ FileSeen owner path files length (contents path) := stable.and fileSeen_stable
  have checked : KeepsFiles (fun files : Filesystem Inode String => holds files ∧
      (TrustedFile owner metadata → FileSeen owner path files length (contents path)))
      (Stepwise.ofExcept (checkFile owner path metadata)) holds
      (fun _ files => holds files ∧ FileSeen owner path files length (contents path))
      fun _ => holds := by
    apply KeepsFiles.ofExcept
    rintro files ⟨held, seen⟩
    cases result : checkFile owner path metadata with
    | ok => exact ⟨held, seen (checkFile_eq_ok_iff.mp result)⟩
    | error => exact held
  refine checked.bind fun _ => ?_
  refine KeepsFiles.bind ((verifyAncestors_keeps both (fun files held => plain files held.1)
    (fun _ _ held => held.1) fun _ _ _ held => held.1).mono (fun _ held => held)
    (fun _ held => held.1) (fun _ _ held => held) fun _ _ held => held)
    fun _ => KeepsFiles.ofExcept ?_
  rintro files ⟨⟨held, seen⟩, above⟩
  obtain ⟨verified, rfl⟩ := seen.verified above (installed files held)
  cases result : checkSize maxBytes (contents path).length with
  | ok => exact ⟨held, verified, rfl⟩
  | error => exact held

/-- After a path is resolved and what it leads to is checked, the file that was installed has
the path for good. -/
theorem resolved_bind {kernel : Kernel} {given : UnixPath} {maxBytes : Option Nat} {Value : Type}
    {next : List String → FileComputation Inode InstallationError Value}
    {returns : Value → Filesystem Inode String → Prop}
    (rest : ∀ path inode, kernel.Resolves given path →
      checkSize maxBytes (contents path).length = .ok () →
        KeepsFiles (fun files => holds files ∧ Verified owner path files (contents path) inode)
          (next path) (fun _ => True) returns fun _ _ => True) :
    KeepsFiles holds (do
        let path ← (canonicalize others kernel given).relabel .io
        verifyTrustedFile others path maxBytes
        next path) (fun _ => True) returns fun _ _ => True := by
  refine ((canonicalize_keeps stable kernel given).part (fun _ _ => trivial)
    fun _ _ _ => trivial).bind fun path => .fact fun resolved => ?_
  have both : StableFiles owner fun files : Filesystem Inode String =>
      holds files ∧ Plain owner path files := stable.and plain_stable
  refine ((verifyTrustedFile_keeps both (fun files held => installed files held.1)
    (fun _ held => held.2) maxBytes).mono (fun _ held => held) (fun _ _ => trivial)
    (fun _ _ held => held) fun _ _ _ => trivial).bind fun _ => ?_
  rintro start ⟨held, ⟨inode, verified⟩, size⟩
  exact rest path inode resolved size start ⟨held.1, verified⟩

end Paths

section Verified

variable {kernel : Kernel} {libraries : Libraries} {manifest : ModelManifest} {inode : Inode}
  {bytes : List UInt8}

/-- A verified file whose digest is checked has the digest that the manifest states. -/
theorem verifyFile_keeps (stable : StableFiles owner holds)
    (verified : ∀ files, holds files → Verified owner path files bytes inode) :
    KeepsFiles holds (verifyFile others kernel libraries manifest path) (fun _ => True)
      (fun _ files => holds files ∧ hexLower (libraries.sha256 bytes).toList = manifest.sha256)
      fun _ _ => True := by
  unfold verifyFile
  refine (KeepsFiles.given fun _ _ _ _ => trivial).bind fun _ => .fact fun _ => ?_
  refine ((openFile_keeps stable verified).part (fun _ _ => trivial) fun _ _ _ => trivial).bind
    fun file => .fact fun same => ?_
  subst same
  refine ((fileMetadata_keeps stable verified).part (fun _ _ => trivial)
    fun _ _ _ => trivial).bind fun metadata => .fact fun _ => ?_
  refine (KeepsFiles.given fun _ _ _ _ => trivial).bind fun _ => .fact fun _ => ?_
  refine ((readOpen_keeps stable verified kernel).part (fun _ _ => trivial)
    fun _ _ _ => trivial).bind fun content => .fact fun same => ?_
  subst same
  apply KeepsFiles.ofExcept
  intro files held
  cases checked : checkDigest libraries manifest.sha256 content with
  | error error => trivial
  | ok =>
      rw [checkDigest, require_eq_ok_iff] at checked
      exact ⟨held, checked⟩

/-- The code of a runtime that is loaded is what was installed. -/
def Genuine (contents : List String → List UInt8) (runtime : RuntimeLibrary) : Prop :=
  ∀ path code, runtime.configured = some (path, code) → code = contents path

/-- What a session was made from. -/
structure Made (libraries : Libraries) (contents : List String → List UInt8)
    (config : RuntimePolicyConfig) (manifest : ModelManifest) (path : List String)
    (session : LoadedSession) : Prop where
  described : session.session.manifest = manifest
  identity : session.session.Loaded libraries.spdx libraries.sha256 libraries.serialize
  model : session.model = contents path
  size : 0 < (contents path).length ∧ (contents path).length ≤ config.maxModelBytes
  digest : hexLower (libraries.sha256 (contents path)).toList = manifest.sha256
  graph : ∃ graph, libraries.commit (contents path) = some graph ∧
    Inference.validateSessionContract manifest graph = .ok ()
  millis : session.maxRunMillis = config.maxRunMillis

/-- A session was made from the model that is installed under a path. -/
def LoadedFrom {Inode : Type} (owner : UInt32) (kernel : Kernel) (libraries : Libraries)
    (contents : List String → List UInt8) (config : RuntimePolicyConfig)
    (manifest : ModelManifest) (given : UnixPath) (session : LoadedSession)
    (files : Filesystem Inode String) : Prop :=
  ∃ path, kernel.Resolves given path ∧ Made libraries contents config manifest path session ∧
    Kept owner path files contents

variable {config : RuntimePolicyConfig}

/-- Other users cannot change what a session was made from. -/
theorem loadedFrom_stable {given : UnixPath} {session : LoadedSession} : StableFiles owner
    (LoadedFrom owner kernel libraries contents config manifest given session :
      Filesystem Inode String → Prop) := by
  rintro files after acted ⟨path, resolved, made, kept⟩
  exact ⟨path, resolved, made, kept_stable files after acted kept⟩

/-- A session that is committed is made from the checked content. -/
theorem made_of_commit {session : LoadedSession}
    (size : checkSize (some config.maxModelBytes) (contents path).length = .ok ())
    (digest : hexLower (libraries.sha256 (contents path)).toList = manifest.sha256)
    (committed : commit libraries config manifest (contents path) = .ok session) :
    Made libraries contents config manifest path session := by
  unfold commit at committed
  split at committed
  · cases committed
  · next graph found =>
      rw [check_bind_eq_ok_iff, bind_eq_ok_iff] at committed
      obtain ⟨admitted, identity, computed, done⟩ := committed
      cases done
      rw [checkSize, require_eq_ok_iff] at size
      exact ⟨rfl, mapError_eq_ok_iff.mp computed, rfl, by omega, digest,
        ⟨graph, found, admitted⟩, rfl⟩

section Sessions

variable (stable : StableFiles owner holds)
  (installed : ∀ files, holds files → Installed owner files contents)

include stable installed

/-- The runtime that is loaded is the one that is installed. -/
theorem initializeRuntime_keeps {runtime : RuntimeLibrary} (genuine : Genuine contents runtime)
    (given : UnixPath) :
    KeepsFiles holds (initializeRuntime others kernel runtime given) (fun _ => True)
      (fun runtime files => holds files ∧
        Genuine contents runtime ∧ runtime.configured.isSome) fun _ _ => True := by
  unfold initializeRuntime
  refine resolved_bind stable installed fun path inode _ _ => ?_
  have both : StableFiles owner fun files : Filesystem Inode String =>
      holds files ∧ Verified owner path files (contents path) inode := stable.and verified_stable
  refine (KeepsFiles.given fun _ _ _ _ => trivial).bind fun _ => .fact fun _ => ?_
  cases configured : runtime.configured with
  | some known =>
      obtain ⟨existing, code⟩ := known
      refine (KeepsFiles.given fun _ _ _ _ => trivial).bind fun _ => .pure ?_
      rintro files ⟨held, -⟩
      exact ⟨held.1, genuine, by rw [configured, Option.isSome_some]⟩
  | none =>
      refine ((readFile_keeps both (fun _ held => held.2) kernel).part (fun _ _ => trivial)
        fun _ _ _ => trivial).bind fun code => .fact fun same => ?_
      subst same
      refine (KeepsFiles.given fun _ _ _ _ => trivial).bind fun _ => .pure ?_
      rintro files ⟨held, -⟩
      refine ⟨held.1, fun other code found => ?_, rfl⟩
      cases found
      rfl

/-- A model that is verified keeps its path. Its size is in bounds and its digest is the one
that its manifest states. -/
theorem verifyModel_keeps (given : UnixPath) :
    KeepsFiles holds (verifyModel others kernel libraries config manifest given)
      (fun _ => True)
      (fun path files => (holds files ∧ Kept owner path files contents) ∧
        kernel.Resolves given path ∧
        checkSize (some config.maxModelBytes) (contents path).length = .ok () ∧
        hexLower (libraries.sha256 (contents path)).toList = manifest.sha256)
      fun _ _ => True := by
  unfold verifyModel
  refine (KeepsFiles.given fun _ _ _ _ => trivial).bind fun _ => .fact fun _ => ?_
  refine resolved_bind stable installed fun path inode resolved size => ?_
  have both : StableFiles owner fun files : Filesystem Inode String =>
      holds files ∧ Verified owner path files (contents path) inode := stable.and verified_stable
  refine ((verifyFile_keeps both fun _ held => held.2).part (fun _ _ => trivial)
    fun _ _ _ => trivial).bind fun _ => .pure ?_
  rintro files ⟨⟨held, verified⟩, digest⟩
  exact ⟨⟨held, inode, verified⟩, resolved, size, digest⟩

/-- Verifying an installation changes nothing. -/
theorem verifyModelInstallation_keeps (given : UnixPath) :
    KeepsFiles holds (verifyModelInstallation others kernel libraries config manifest given)
      (fun _ => True) (fun _ => holds) fun _ _ => True :=
  (verifyModel_keeps stable installed given).bind fun _ => .pure fun _ held => held.1.1

/-- A session is made from a model that was installed, and keeps the runtime genuine. -/
theorem load_keeps {runtime : RuntimeLibrary} (genuine : Genuine contents runtime)
    (given : UnixPath) :
    KeepsFiles holds (load others kernel libraries config manifest given runtime)
      (fun _ => True)
      (fun (session, runtime) files => (holds files ∧
          LoadedFrom owner kernel libraries contents config manifest given session files) ∧
        Genuine contents runtime ∧ runtime.configured.isSome) fun _ _ => True := by
  unfold load
  refine (verifyModel_keeps stable installed given).bind fun path =>
    .fact fun ⟨resolved, size, digest⟩ => ?_
  rintro start ⟨held, inode, verified⟩
  have both : StableFiles owner fun files : Filesystem Inode String =>
      holds files ∧ Verified owner path files (contents path) inode := stable.and verified_stable
  have made : KeepsFiles (fun files => holds files ∧
      Verified owner path files (contents path) inode) (do
        let runtime ← initializeRuntime others kernel runtime config.libraryPath
        let model ← (readFile others kernel path).relabel .io
        let session ← Stepwise.ofExcept (commit libraries config manifest model)
        pure (session, runtime)) (fun _ => True)
      (fun (session, runtime) files => (holds files ∧
          LoadedFrom owner kernel libraries contents config manifest given session files) ∧
        Genuine contents runtime ∧ runtime.configured.isSome) fun _ _ => True := by
    refine (initializeRuntime_keeps both (fun files held => installed files held.1) genuine
      config.libraryPath).bind fun runtime => .fact fun loaded => ?_
    refine ((readFile_keeps both (fun _ held => held.2) kernel).part (fun _ _ => trivial)
      fun _ _ _ => trivial).bind fun model => .fact fun same => ?_
    subst same
    refine (KeepsFiles.given fun _ _ _ _ => trivial).bind fun session => .fact fun committed => ?_
    exact .pure fun files held => ⟨⟨held.1, path, resolved,
      made_of_commit size digest committed, inode, held.2⟩, loaded⟩
  exact made start ⟨held, verified⟩

end Sessions

/-- With other users acting between all calls, a session is made from a model that was
installed, whose digest the manifest states, and by a runtime that was installed. The model
keeps its place for good. -/
theorem load_installed {runtime : RuntimeLibrary} (genuine : Genuine contents runtime)
    {start : FileWorld Inode String} (installed : Installed owner start.files contents)
    {given : UnixPath} {session : LoadedSession} {after : RuntimeLibrary}
    (loaded : (load others kernel libraries config manifest given runtime start).result =
      .ok (session, after)) :
    Genuine contents after ∧ after.configured.isSome ∧
      ∀ later, (load others kernel libraries config manifest given runtime
        start).state.files.Untrusted owner later →
          LoadedFrom owner kernel libraries contents config manifest given session later := by
  have ends := (@load_keeps _ _ _ others _ contents kernel libraries manifest config
    installed_stable (fun _ => id) _ genuine given start installed).2
  rw [loaded] at ends
  obtain ⟨⟨-, made⟩, code, configured⟩ := ends
  exact ⟨code, configured, fun later acted => loadedFrom_stable _ later acted made⟩

end Verified

end Specs

/-- A model and a runtime in a directory of their own. -/
def installedFiles : Filesystem Nat String where
  root := 0
  metadata inode :=
    if inode ≤ 1 then some ⟨.directory, 0, 0o755⟩
    else if inode ≤ 3 then some ⟨.regular, 0, 0o644⟩ else none
  entry directory name :=
    match directory, name with
    | 0, "lib" => some 1
    | 1, "detector.onnx" => some 2
    | 1, "libonnxruntime.so" => some 3
    | _, _ => none
  content inode := if inode = 2 then [1, 2, 3] else if inode = 3 then [4] else []
  reads _ _ := False
  writes _ _ := False

/-- What the names of some files stand for. -/
def contentsOf (files : Filesystem Nat String) : List String → List UInt8
  | [] => []
  | name :: parent => (files.securedEntry 0 name parent).elim [] files.content

/-- Files that nobody writes to are installed with what is in them. -/
theorem installed_contentsOf {files : Filesystem Nat String}
    (root : (files.secured 0 []).isSome) (unwritten : ∀ user inode, ¬ files.writes user inode) :
    Installed 0 files (contentsOf files) where
  root := root
  settled name parent inode named _ := by
    refine ⟨fun user _ => unwritten user inode, ?_⟩
    rw [contentsOf, named, Option.elim_some]

/-- Two paths, each read byte by byte. -/
def testKernel : Kernel where
  resolves _ path := if path = [109] then ["detector.onnx", "lib"] else ["libonnxruntime.so", "lib"]
  portions _ := [1]

/-- One digest for all. -/
def testDigest (_ : List UInt8) : Vector UInt8 32 := Vector.replicate 32 0

/-- A detector with the digest of the example. -/
def testDetector : ModelManifest :=
  { Inference.exampleDetector with sha256 := hexLower (testDigest []).toList }

/-- Libraries that know the detector of the example. -/
def testLibraries : Libraries where
  spdx := Inference.apacheOnly
  sha256 := testDigest
  serialize _ := .ok []
  parse _ := none
  commit _ := some ⟨[Inference.inputOutlet testDetector.input],
    testDetector.outputs.map Inference.outputOutlet⟩

/-- The limits of the example. -/
def testRuntime : RuntimePolicyConfig := ⟨[47], 1, 1, 1000, 1000⟩

/-- A detector and a runtime that are installed in one directory are loaded from there. -/
theorem load_installed_test : ∃ session runtime path,
    (load testOthers testKernel testLibraries testRuntime testDetector [109]
      ⟨none, false, false⟩ ⟨installedFiles, 0⟩).result = .ok (session, runtime) ∧
    Made testLibraries (contentsOf installedFiles) testRuntime testDetector path session := by
  have succeeds : (load testOthers testKernel testLibraries testRuntime testDetector [109]
      ⟨none, false, false⟩ ⟨installedFiles, 0⟩).result.isOk = true := by decide +kernel
  have genuine : Genuine (contentsOf installedFiles) ⟨none, false, false⟩ := by
    intro path code found
    cases found
  cases loaded : (load testOthers testKernel testLibraries testRuntime testDetector [109]
      ⟨none, false, false⟩ ⟨installedFiles, 0⟩).result with
  | error failure =>
      rw [loaded] at succeeds
      cases succeeds
  | ok pair =>
      obtain ⟨session, runtime⟩ := pair
      obtain ⟨-, -, made⟩ := load_installed genuine
        (installed_contentsOf (by decide +kernel) fun _ _ => id) loaded
      obtain ⟨path, -, made, -⟩ := made _ .refl
      exact ⟨session, runtime, path, rfl, made⟩

end Installation

end FaceAuth
