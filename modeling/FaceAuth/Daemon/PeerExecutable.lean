import FaceAuth.Authz.Soundness
import FaceAuth.Daemon.Boundary
import FaceAuth.Foundation.Filesystem
import FaceAuth.Foundation.Processes
import FaceAuth.Foundation.Stepwise
import FaceAuth.Foundation.Text

/-!
# The executable of a peer

The daemon looks up what a connected peer executes under the number of its process. Processes
end meanwhile and numbers go to others, so it compares the number with that of the descriptor
that pins the peer, before and after.
-/

namespace FaceAuth

open Foundation

/-- The processes of the system, and what is known about the files. -/
structure PeerWorld (Inode : Type) where
  processes : Processes Inode
  metadata : Inode → Metadata

/-- How a descriptor that pins a process shows its number. One that was reaped has -1. -/
def PeerWorld.shown {Inode : Type} (world : PeerWorld Inode) (process : Nat) : List Char :=
  if world.processes.reaped process then ['-', '1']
  else Nat.toDigits 10 (world.processes.number process)

/-- What precedes the number of a process. -/
def PID_LABEL : List Char := ['P', 'i', 'd', ':']

/-- The system as time goes on, how it shows a descriptor of a process, which of the calls it
refuses, and how long each takes. -/
structure PeerKernel (Inode : Type) where
  history : Nat → PeerWorld Inode
  later : ∀ now, (history now).processes.Later (history (now + 1)).processes
  distinct : (history 0).processes.Distinct
  identity : Inode → ExecutableFingerprint
  header : List (List Char)
  plain : ∀ line ∈ header, '\n' ∉ line ∧ ¬ PID_LABEL <+: line
  trailer : List Char
  refuses : Nat → Option IoError
  delay : Nat → Nat

namespace PeerKernel

variable {Inode Value : Type} (kernel : PeerKernel Inode)

/-- The moment after a call. -/
def next (now : Nat) : Nat := now + 1 + kernel.delay now

/-- The text about a descriptor that pins a process. -/
def fdinfo (world : PeerWorld Inode) (process : Nat) : List Char :=
  (kernel.header.map (· ++ ['\n'])).flatten ++
    ((PID_LABEL ++ ['\t'] ++ world.shown process) ++ '\n' :: kernel.trailer)

/-- A call that looks at the system. -/
def look (read : PeerWorld Inode → Except ExecutableError Value) :
    Stepwise Nat ExecutableError Value :=
  Stepwise.act fun now =>
    (match kernel.refuses now with
      | some error => .error (.io error)
      | none => read (kernel.history now), kernel.next now)

end PeerKernel

namespace VerifiedExecutable

/-- What the text about a descriptor says of the process that it pins. -/
def checkPidfd (expectedPid : UInt32) (fdinfo : List Char) : Except ExecutableError Unit :=
  match (Text.lines fdinfo).findSome? fun line =>
      (PID_LABEL.isPrefixOf? line).map Text.trim with
  | none => .error .invalidPidfd
  | some text =>
      match Text.parseI64 text with
      | none => .error .invalidPidfd
      | some pid =>
          if pid < 0 then .error .peerExited
          else if UInt32.size ≤ pid.toNat then .error .invalidPidfd
          else if UInt32.ofNat pid.toNat ≠ expectedPid then
            .error (.peerPidMismatch expectedPid (UInt32.ofNat pid.toNat))
          else .ok ()

/-- A regular file of root that nobody else may write to and that may be executed. -/
def checkExecutable (metadata : Metadata) : Except ExecutableError Unit := do
  require (metadata.kind = .regular) .notRegularFile
  require (metadata.uid = 0) (.notRootOwned metadata.uid)
  require (metadata.mode &&& 0o777 &&& 0o022 = 0)
    (.writableByUntrustedUser (metadata.mode &&& 0o777).toNat)
  require (metadata.mode &&& 0o777 &&& 0o111 ≠ 0)
    (.notExecutable (metadata.mode &&& 0o777).toNat)

section Calls

variable {Inode : Type} (kernel : PeerKernel Inode)

/-- The descriptor still stands for the process of this number. -/
def verifyPidfd (expectedPid : UInt32) (process : Nat) : Stepwise Nat ExecutableError Unit := do
  let fdinfo ← kernel.look fun world => .ok (kernel.fdinfo world process)
  Stepwise.ofExcept (checkPidfd expectedPid fdinfo)

/-- Open `/proc/<pid>/exe`. -/
def openExecutable (pid : UInt32) : Stepwise Nat ExecutableError Inode :=
  kernel.look fun world =>
    match (world.processes.find pid.toNat).bind world.processes.image with
    | some file => .ok file
    | none => .error (.io ⟨.notFound, "No such file or directory (os error 2)"⟩)

/-- The identity of an open file that only root may change. -/
def fromVerifiedFile (file : Inode) : Stepwise Nat ExecutableError VerifiedExecutable := do
  let metadata ← kernel.look fun world => .ok (world.metadata file)
  Stepwise.ofExcept (checkExecutable metadata)
  pure ⟨kernel.identity file⟩

/-- Resolve and verify the executable of a peer that a descriptor pins. -/
def fromPeer (peer : PeerIdentity) (process : Nat) :
    Stepwise Nat ExecutableError VerifiedExecutable := do
  verifyPidfd kernel peer.pid process
  let file ← openExecutable kernel peer.pid
  verifyPidfd kernel peer.pid process
  fromVerifiedFile kernel file

end Calls

end VerifiedExecutable

/-! ## What the text and the calls tell -/

variable {Inode : Type} {kernel : PeerKernel Inode} {world : PeerWorld Inode} {process : Nat}

/-- No blank is shown of a process. -/
theorem PeerWorld.isBlank_of_mem_shown {letter : Char} (member : letter ∈ world.shown process) :
    Text.isBlank letter = false := by
  unfold shown at member
  split at member
  · obtain rfl | rfl := List.mem_pair.mp member <;> decide
  · exact Text.isBlank_of_mem_toDigits member

/-- Something is shown of every process. -/
theorem PeerWorld.shown_ne_nil : world.shown process ≠ [] := by
  unfold shown
  split
  · exact List.cons_ne_nil _ _
  · exact Nat.toDigits_ne_nil

namespace PeerKernel

/-- The lines before the number are not taken for it. -/
theorem isPrefixOf?_header {line : List Char} (member : line ∈ kernel.header) :
    PID_LABEL.isPrefixOf? (Text.stripReturn line) = none := by
  refine Option.eq_none_iff_forall_ne_some.mpr fun rest found => ?_
  have starts : PID_LABEL <+: Text.stripReturn line :=
    ⟨rest, List.isPrefixOf?_eq_some_iff_append_eq.mp found⟩
  exact (kernel.plain line member).2 (starts.trans (Text.stripReturn_prefix line))

/-- The number that is found in the text about a descriptor is the one shown in it. -/
theorem findSome?_fdinfo :
    ((Text.lines (kernel.fdinfo world process)).findSome? fun line =>
      (PID_LABEL.isPrefixOf? line).map Text.trim) = some (world.shown process) := by
  have solid : ∀ letter ∈ world.shown process, Text.isBlank letter = false :=
    fun letter member => PeerWorld.isBlank_of_mem_shown member
  have unbroken : '\n' ∉ PID_LABEL ++ ['\t'] ++ world.shown process := by
    intro member
    obtain label | digit := List.mem_append.mp member
    · revert label
      decide
    · exact absurd (solid '\n' digit) (by decide)
  have first : ((kernel.header.map Text.stripReturn).findSome? fun line =>
      (PID_LABEL.isPrefixOf? line).map Text.trim) = none := by
    refine List.findSome?_eq_none_iff.mpr fun line member => ?_
    obtain ⟨whole, known, rfl⟩ := List.mem_map.mp member
    rw [isPrefixOf?_header known]
    rfl
  have blank : ∀ letter ∈ ['\t'], Text.isBlank letter = true := by
    intro letter member
    cases List.mem_singleton.mp member
    rfl
  have label : PID_LABEL.isPrefixOf? (PID_LABEL ++ ['\t'] ++ world.shown process) =
      some (['\t'] ++ world.shown process) :=
    List.isPrefixOf?_eq_some_iff_append_eq.mpr (List.append_assoc ..).symm
  rw [fdinfo, Text.lines_append fun line member => (kernel.plain line member).1,
    List.findSome?_append, first, Option.none_or, Text.lines, Text.linesFrom_line [] unbroken,
    List.nil_append, Text.stripReturn_append PeerWorld.shown_ne_nil solid, List.findSome?_cons,
    label, Option.map_some, Text.trim_append blank solid]

end PeerKernel

/-- What is shown reads back as the number, or as minus one for a process that was reaped. -/
theorem PeerWorld.parseI64_shown :
    Text.parseI64 (world.shown process) =
      if world.processes.reaped process then some (-1)
      else if world.processes.number process ≤ Text.I64_MAX then
        some (world.processes.number process : Int)
      else none := by
  unfold shown
  split
  · rfl
  · exact Text.parseI64_toDigits _

namespace VerifiedExecutable

/-- The text confirms a process that was not reaped and has the number. -/
theorem checkPidfd_fdinfo {expectedPid : UInt32} :
    checkPidfd expectedPid (kernel.fdinfo world process) = .ok () ↔
      world.processes.reaped process = false ∧
        world.processes.number process = expectedPid.toNat := by
  rw [checkPidfd, PeerKernel.findSome?_fdinfo]
  dsimp only
  rw [PeerWorld.parseI64_shown]
  have small : expectedPid.toNat < UInt32.size := expectedPid.toNat_lt
  cases gone : world.processes.reaped process with
  | true => simp
  | false =>
      generalize world.processes.number process = number
      rw [if_neg Bool.false_ne_true]
      have natural : ¬ (number : Int) < 0 := Int.not_lt.mpr (Int.natCast_nonneg number)
      by_cases fits : number < UInt32.size
      · have narrow : number ≤ Text.I64_MAX := fits.le.trans (by decide)
        have same : UInt32.ofNat number = expectedPid ↔ number = expectedPid.toNat := by
          rw [← UInt32.toNat_inj, UInt32.toNat_ofNat_of_lt' fits]
        rw [if_pos narrow]
        simp [natural, Nat.not_le.mpr fits, same]
      · have other : number ≠ expectedPid.toNat := fun equal => fits (equal ▸ small)
        have wide := Nat.not_lt.mp fits
        by_cases narrow : number ≤ Text.I64_MAX
        · rw [if_pos narrow]
          simp [natural, wide, other]
        · rw [if_neg narrow]
          simp [other]

end VerifiedExecutable

namespace PeerKernel

variable {Value : Type} {read : PeerWorld Inode → Except ExecutableError Value} {now : Nat}

/-- A look succeeds when the kernel does not refuse it and the world has an answer. -/
theorem look_eq_ok_iff {value : Value} :
    (kernel.look read now).result = .ok value ↔
      kernel.refuses now = none ∧ read (kernel.history now) = .ok value := by
  simp only [look, Stepwise.act]
  cases kernel.refuses now with
  | none => simp
  | some error => simp

/-- A look takes one moment. -/
theorem look_state : (kernel.look read now).state = kernel.next now := rfl

/-- Judging what was seen takes no time. -/
theorem look_bind_ofExcept_state {Next : Type} {judge : Value → Except ExecutableError Next} :
    ((kernel.look read >>= fun value => Stepwise.ofExcept (judge value)) now).state =
      kernel.next now := by
  cases looked : (kernel.look read now).result with
  | error error => rw [Stepwise.bind_of_error looked, look_state]
  | ok value =>
      rw [Stepwise.bind_of_ok looked]
      rfl

/-- The processes of a moment come from those of an earlier moment. -/
theorem later_of_le {first last : Nat} (ordered : first ≤ last) :
    (kernel.history first).processes.Later (kernel.history last).processes := by
  induction ordered with
  | refl => exact .refl
  | step earlier ih => exact ih.trans (kernel.later _)

/-- Two live processes never have one number. -/
theorem distinct_at (now : Nat) : (kernel.history now).processes.Distinct :=
  (kernel.later_of_le now.zero_le).distinct kernel.distinct

/-- Time goes forward. -/
theorem le_next : now ≤ kernel.next now := by
  unfold next
  omega

end PeerKernel

namespace VerifiedExecutable

variable {pid : UInt32} {now : Nat}

/-- The descriptor passes when its process is there with the number that was asked for. -/
theorem verifyPidfd_eq_ok_iff {done : Unit} :
    (verifyPidfd kernel pid process now).result = .ok done ↔
      kernel.refuses now = none ∧ (kernel.history now).processes.reaped process = false ∧
        (kernel.history now).processes.number process = pid.toNat := by
  rw [verifyPidfd, Stepwise.result_bind_eq_ok_iff]
  simp only [PeerKernel.look_eq_ok_iff, Except.ok.injEq]
  constructor
  · rintro ⟨fdinfo, ⟨answered, rfl⟩, checked⟩
    exact ⟨answered, checkPidfd_fdinfo.mp checked⟩
  · rintro ⟨answered, confirmed⟩
    exact ⟨_, ⟨answered, rfl⟩, checkPidfd_fdinfo.mpr confirmed⟩

/-- The check takes one moment. -/
theorem verifyPidfd_state : (verifyPidfd kernel pid process now).state = kernel.next now :=
  PeerKernel.look_bind_ofExcept_state

/-- Opening succeeds on the image of the live process that has the number. -/
theorem openExecutable_eq_ok_iff {file : Inode} :
    (openExecutable kernel pid now).result = .ok file ↔
      kernel.refuses now = none ∧ ∃ holder, (kernel.history now).processes.Live holder ∧
        (kernel.history now).processes.number holder = pid.toNat ∧
        (kernel.history now).processes.image holder = some file := by
  rw [openExecutable, PeerKernel.look_eq_ok_iff]
  refine and_congr_right fun answered => ?_
  have opened : ((kernel.history now).processes.find pid.toNat).bind
        (kernel.history now).processes.image = some file ↔
      ∃ holder, (kernel.history now).processes.Live holder ∧
        (kernel.history now).processes.number holder = pid.toNat ∧
        (kernel.history now).processes.image holder = some file := by
    simp only [Option.bind_eq_some_iff, Processes.find_eq_some_iff (kernel.distinct_at now),
      and_assoc]
  rw [← opened]
  split
  · next found => simp [found]
  · next missing => simp [missing]

/-- The identity of a file is given when root alone may change it. -/
theorem fromVerifiedFile_eq_ok_iff {file : Inode} {evidence : VerifiedExecutable} :
    (fromVerifiedFile kernel file now).result = .ok evidence ↔
      kernel.refuses now = none ∧ checkExecutable ((kernel.history now).metadata file) = .ok () ∧
        evidence = ⟨kernel.identity file⟩ := by
  rw [fromVerifiedFile, Stepwise.result_bind_eq_ok_iff]
  simp only [PeerKernel.look_eq_ok_iff, Except.ok.injEq, Stepwise.result_bind_eq_ok_iff]
  constructor
  · rintro ⟨metadata, ⟨answered, rfl⟩, value, checked, returned⟩
    exact ⟨answered, checked, (Except.ok.inj returned).symm⟩
  · rintro ⟨answered, checked, rfl⟩
    exact ⟨_, ⟨answered, rfl⟩, (), checked, rfl⟩

end VerifiedExecutable

/-! ## The process that the evidence is about -/

/-- A regular file that only root may write to and that may be executed. -/
structure TrustedProgram (metadata : Metadata) : Prop where
  regular : metadata.kind = .regular
  owned : metadata.uid = 0
  unshared : metadata.mode &&& 0o022 = 0
  executable : metadata.mode &&& 0o111 ≠ 0

/-- The check accepts the trusted programs. -/
theorem VerifiedExecutable.checkExecutable_eq_ok_iff {metadata : Metadata} :
    checkExecutable metadata = .ok () ↔ TrustedProgram metadata := by
  have masked (mask : UInt32) (within : 0o777 &&& mask = mask) :
      metadata.mode &&& 0o777 &&& mask = metadata.mode &&& mask := by
    rw [UInt32.and_assoc, within]
  simp only [checkExecutable, check_bind_eq_ok_iff, require_eq_ok_iff, masked 0o022 (by decide),
    masked 0o111 (by decide)]
  constructor
  · rintro ⟨regular, owned, unshared, executable⟩
    exact ⟨regular, owned, unshared, executable⟩
  · rintro ⟨regular, owned, unshared, executable⟩
    exact ⟨regular, owned, unshared, executable⟩

namespace PeerKernel

/-- A process that a descriptor pins has a number, and executes a trusted file when it is looked
up. The looks at it are made one after the other. -/
structure Executes (kernel : PeerKernel Inode) (pid : UInt32) (process now : Nat) (file : Inode) :
    Prop where
  answered : kernel.refuses now = none ∧ kernel.refuses (kernel.next now) = none ∧
    kernel.refuses (kernel.next (kernel.next now)) = none ∧
    kernel.refuses (kernel.next (kernel.next (kernel.next now))) = none
  number : (kernel.history now).processes.number process = pid.toNat
  executes : (kernel.history (kernel.next now)).processes.image process = some file
  kept : (kernel.history (kernel.next (kernel.next now))).processes.reaped process = false
  trusted : TrustedProgram
    ((kernel.history (kernel.next (kernel.next (kernel.next now)))).metadata file)

variable {before during after : Nat}

/-- A process that was not reaped in the end had its number all the time. -/
theorem live_of_kept (pinned : process < (kernel.history before).processes.started)
    (first : before ≤ during) (second : during ≤ after)
    (kept : (kernel.history after).processes.reaped process = false) :
    (kernel.history during).processes.Live process ∧
      (kernel.history during).processes.number process =
        (kernel.history before).processes.number process := by
  have early := (kernel.later_of_le first).kept pinned
  have late := (kernel.later_of_le second).kept early.1
  exact ⟨late.2.2 ⟨late.1, kept⟩, early.2.1⟩

/-- Nobody else has its number meanwhile. -/
theorem holder_eq (pinned : process < (kernel.history before).processes.started)
    (first : before ≤ during) (second : during ≤ after)
    (kept : (kernel.history after).processes.reaped process = false) {holder : Nat}
    (live : (kernel.history during).processes.Live holder)
    (same : (kernel.history during).processes.number holder =
      (kernel.history before).processes.number process) : holder = process := by
  obtain ⟨alive, number⟩ := live_of_kept pinned first second kept
  exact kernel.distinct_at during holder process live alive (same.trans number.symm)

end PeerKernel

namespace VerifiedExecutable

/-- The evidence is about what the pinned process executes, whoever had its number before or
gets it afterwards. -/
theorem fromPeer_eq_ok_iff {evidence : VerifiedExecutable} {peer : PeerIdentity}
    (pinned : process < (kernel.history now).processes.started) :
    (fromPeer kernel peer process now).result = .ok evidence ↔
      ∃ file, kernel.Executes peer.pid process now file ∧ evidence = ⟨kernel.identity file⟩ := by
  have toOpening : now ≤ kernel.next now := PeerKernel.le_next
  have toAgain : kernel.next now ≤ kernel.next (kernel.next now) := PeerKernel.le_next
  simp only [fromPeer, Stepwise.result_bind_eq_ok_iff, verifyPidfd_eq_ok_iff, verifyPidfd_state,
    openExecutable_eq_ok_iff, fromVerifiedFile_eq_ok_iff, checkExecutable_eq_ok_iff]
  constructor
  · rintro ⟨-, ⟨first, -, number⟩, file, ⟨second, holder, live, same, executes⟩, -,
      ⟨third, kept, -⟩, fourth, trusted, rfl⟩
    have own : holder = process := PeerKernel.holder_eq pinned toOpening toAgain kept live
      (same.trans number.symm)
    subst own
    exact ⟨file, ⟨⟨first, second, third, fourth⟩, number, executes, kept, trusted⟩, rfl⟩
  · rintro ⟨file, ⟨⟨first, second, third, fourth⟩, number, executes, kept, trusted⟩, rfl⟩
    have start := (PeerKernel.live_of_kept pinned le_rfl (toOpening.trans toAgain) kept).1
    obtain ⟨live, same⟩ := PeerKernel.live_of_kept pinned toOpening toAgain kept
    have final := (PeerKernel.live_of_kept pinned (toOpening.trans toAgain) le_rfl kept).2
    exact ⟨(), ⟨first, start.2, number⟩, file,
      ⟨second, process, live, same.trans number, executes⟩, (),
      ⟨third, kept, final.trans number⟩, fourth, trusted, rfl⟩

end VerifiedExecutable

/-! ## Admission -/

/-- What a request for authentication needs to start a session. -/
theorem BoundaryService.process_authenticate_started {boundary : BoundaryService}
    {peer : PeerIdentity} {executable : Except ExecutableError VerifiedExecutable}
    {connection : ConnectionToken} {nowMicros : Nat} {context : RequestContext} :
    (boundary.process peer executable connection nowMicros (.authenticate context)).1 =
        .started context.transactionId ↔
      (∃ evidence, executable = .ok evidence ∧
        ∃ rule ∈ boundary.authorization.rules, rule.Permits peer (some evidence) context) ∧
      boundary.sessions.active = none ∧
        nowMicros + boundary.sessions.config.transactionDurationMicros ≤ U64_MAX := by
  cases executable with
  | error error => simp [process]
  | ok evidence =>
      simp only [process, Except.ok.injEq, exists_eq_left']
      cases decided : boundary.authorization.authorize peer (some evidence) context with
      | error error =>
          have refused : ¬ ∃ rule ∈ boundary.authorization.rules,
              rule.Permits peer (some evidence) context := by
            intro permits
            have granted := boundary.authorization.authorize_eq_ok_iff.mpr
              ⟨permits, evidence, rfl, rfl⟩
            rw [decided] at granted
            cases granted
          cases error <;> simp [refused]
      | ok grant =>
          have permits := (boundary.authorization.authorize_eq_ok_iff.mp decided).1
          have named := (AuthorizationPolicy.authorize_request decided).1
          dsimp only
          cases held : boundary.sessions.active with
          | some active =>
              rw [SessionManager.start_of_active held]
              simp
          | none =>
              rw [SessionManager.start_of_empty held]
              by_cases fits : nowMicros + boundary.sessions.config.transactionDurationMicros ≤
                U64_MAX
              · simp [fits, named, permits]
              · simp [fits]

namespace PeerKernel

/-- One process runs its program. -/
def running : Processes Nat := ⟨1, fun _ => 123, fun _ => false, fun _ => some 42⟩

/-- The process has ended. -/
def ended : Processes Nat := { running with image := Function.update running.image 0 none }

/-- The process was waited for. -/
def reaped : Processes Nat := { ended with reaped := Function.update ended.reaped 0 true }

/-- Another process has the number. -/
def replaced : Processes Nat :=
  ⟨2, Function.update reaped.number 1 123, Function.update reaped.reaped 1 false,
    Function.update reaped.image 1 (some 7)⟩

/-- A process executes the test program and ends. Its number then goes to another. -/
def passing : Nat → Processes Nat
  | 0 | 1 | 2 => running
  | 3 => ended
  | 4 => reaped
  | _ => replaced

/-- The world of the example goes on lawfully. -/
theorem passing_later : ∀ now, (passing now).Later (passing (now + 1))
  | 0 | 1 => .refl
  | 2 => .single (@Processes.Happens.execute _ running 0 none (by decide))
  | 3 => .single (@Processes.Happens.reap _ ended 0 rfl)
  | 4 => by
      have free : ∀ other, reaped.Live other → reaped.number other ≠ 123 := by
        rintro other ⟨known, live⟩
        cases Nat.lt_one_iff.mp known
        cases live
      exact .single (@Processes.Happens.fork _ reaped 123 (some 7) free)
  | _ + 5 => .refl

/-- A kernel that refuses nothing, over the world of the example. -/
def test : PeerKernel Nat where
  history now := ⟨passing now, fun _ => ⟨.regular, 0, 0o100755⟩⟩
  later := passing_later
  distinct := by
    rintro first second ⟨one, -⟩ ⟨two, -⟩ -
    exact (Nat.lt_one_iff.mp one).trans (Nat.lt_one_iff.mp two).symm
  identity file := ⟨8, .ofNat file⟩
  header := ["pos:\t0".toList, "flags:\t02000002".toList]
  plain := by decide
  trailer := "NSpid:\t123\n".toList
  refuses _ := none
  delay _ := 0

end PeerKernel

/-- A request for authentication starts a session exactly if the process behind the connection
executes a program that a rule for the request lists, and no session is there. -/
theorem BoundaryService.process_fromPeer_started {boundary : BoundaryService}
    {peer : PeerIdentity} {connection : ConnectionToken} {nowMicros : Nat}
    {context : RequestContext} (pinned : process < (kernel.history now).processes.started) :
    (boundary.process peer (VerifiedExecutable.fromPeer kernel peer process now).result connection
        nowMicros (.authenticate context)).1 = .started context.transactionId ↔
      (∃ file, kernel.Executes peer.pid process now file ∧
        ∃ rule ∈ boundary.authorization.rules, rule.Governs context ∧
          rule.caller.accepts peer.uid context.targetUid = true ∧
          kernel.identity file ∈ rule.executables) ∧
      boundary.sessions.active = none ∧
        nowMicros + boundary.sessions.config.transactionDurationMicros ≤ U64_MAX := by
  rw [process_authenticate_started]
  refine and_congr_left fun _ => ?_
  simp only [VerifiedExecutable.fromPeer_eq_ok_iff pinned]
  constructor
  · rintro ⟨evidence, ⟨file, executes, rfl⟩, rule, member, governs, caller, listed⟩
    obtain ⟨verified, same, listed⟩ := listed
    cases same
    exact ⟨file, executes, rule, member, governs, caller, listed⟩
  · rintro ⟨file, executes, rule, member, governs, caller, listed⟩
    exact ⟨_, ⟨file, executes, rfl⟩, rule, member, governs, caller, _, rfl, listed⟩

/-- A peer whose process runs on starts its transaction. -/
theorem BoundaryService.process_fromPeer_started_test :
    (BoundaryService.process ⟨.test, .default, SessionConfig.default_valid, none, .empty⟩
        ⟨123, 1000, 1000⟩ (VerifiedExecutable.fromPeer .test ⟨123, 1000, 1000⟩ 0 0).result ⟨1⟩ 0
        (.authenticate ⟨⟨7⟩, 1000, ServiceName.test, .test⟩)).1 = .started ⟨7⟩ := by
  refine (BoundaryService.process_fromPeer_started (by decide)).mpr
    ⟨⟨42, ⟨⟨rfl, rfl, rfl, rfl⟩, rfl, rfl, rfl, ⟨rfl, rfl, rfl, by decide⟩⟩, ?_⟩, rfl, by decide⟩
  exact ⟨_, List.mem_singleton_self _, ⟨rfl, rfl⟩, rfl, by decide⟩

/-- A connection of the first process gives no evidence about the second. -/
example : (VerifiedExecutable.fromPeer .test ⟨123, 1000, 1000⟩ 0 5).result =
    .error .peerExited := rfl

end FaceAuth
