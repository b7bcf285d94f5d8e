import FaceAuth.Foundation.Run

/-!
# The settings module

The page of the system settings begins one enrollment at a time through
asynchronous calls and follows it by signals that the service broadcasts to
everybody. A generation counter tells current replies from stale ones, and the
identifier of an operation is known from the reply or from an earlier signal.
-/

namespace FaceAuth

open Foundation

/-- The kinds of bus errors that the page tells apart. -/
inductive BusError where
  | accessDenied | noReply | serviceUnknown | other
deriving DecidableEq, Repr

/-- The code that the page shows for a bus error. -/
def errorCodeFor (error : BusError) (fallback : String) : String :=
  match error with
  | .accessDenied => "authorization-failed"
  | .noReply | .serviceUnknown => "daemon-unavailable"
  | .other => fallback

/-- The version of the interface that the page speaks. -/
def supportedSchemaVersion : Nat := 2

/-- The text is that of a nonzero identifier: lower-case hexadecimal digits in groups of
8, 4, 4, 4 and 12. -/
def isCanonicalOperationId (value : String) : Bool :=
  value.toList.length == 36 &&
    (value.toList.zipIdx.all fun entry =>
      if entry.2 = 8 ∨ entry.2 = 13 ∨ entry.2 = 18 ∨ entry.2 = 23 then entry.1 == '-'
      else entry.1.isDigit || ('a' ≤ entry.1 && entry.1 ≤ 'f')) &&
    value.toList.any fun char => char != '0' && char != '-'

/-- The text is one of the service's progress codes. -/
def isKnownProgress (progress : String) : Bool :=
  ["preparing", "position-face", "hold-still", "active-challenge", "blink", "turn-left",
    "turn-right", "return-to-center", "processing"].contains progress

/-- The text is one of the service's results. -/
def isKnownResult (result : String) : Bool :=
  ["completed", "cancelled", "timed-out", "failed"].contains result

/-- The outcome that the page shows for a result. -/
def experienceOutcome (result : String) : String :=
  if result = "completed" then "succeeded"
  else if result = "failed" then "unavailable"
  else result

/-- What the page is doing. -/
inductive PageState where
  | loading | ready | authorizing | starting | capturing | cancelling | terminal
deriving DecidableEq, Repr

/-- An enrollment is under way. -/
def PageState.busy : PageState → Bool
  | .authorizing | .starting | .capturing | .cancelling => true
  | .loading | .ready | .terminal => false

/-- What the retry button repeats. -/
inductive RetryAction where
  | none | refresh | beginEnrollment | cancelEnrollment
deriving DecidableEq, Repr

/-- An asynchronous call on the service, with the generation its reply is checked against.
A best-effort cancellation does not wait for a reply. -/
inductive KcmCall where
  | getVersion (generation : Nat)
  | getEnrollmentState (generation : Nat)
  | beginEnrollment (generation : Nat)
  | cancelEnrollment (operationId : String) (generation : Option Nat)
deriving DecidableEq, Repr

/-- The state of the page, and the calls it has sent. -/
structure FaceAuthKcm where
  generation : Nat := 0
  schemaVersion : Nat := 0
  refreshRepliesPending : Nat := 0
  daemonAvailable : Bool := false
  enrolled : Bool := false
  refreshVersionSucceeded : Bool := false
  refreshEnrollmentSucceeded : Bool := false
  pageState : PageState := .loading
  stateBeforeCancel : PageState := .capturing
  retryAction : RetryAction := .none
  refreshVersionError : String := ""
  refreshEnrollmentError : String := ""
  cue : String := ""
  outcome : String := ""
  errorCode : String := ""
  operationId : String := ""
  calls : List KcmCall := []
deriving DecidableEq, Repr

namespace FaceAuthKcm

/-- The page is busy. -/
def busy (kcm : FaceAuthKcm) : Bool := kcm.pageState.busy

/-- There is an operation to cancel. -/
def canCancel (kcm : FaceAuthKcm) : Bool :=
  kcm.operationId != "" && (kcm.pageState == .starting || kcm.pageState == .capturing)

/-- What a signal may change on the page: cue, outcome, enrolled flag, operation and state. -/
def shown (kcm : FaceAuthKcm) : String × String × Bool × String × PageState :=
  (kcm.cue, kcm.outcome, kcm.enrolled, kcm.operationId, kcm.pageState)

/-- Cancel the operation without waiting for a reply, unless it is being cancelled. -/
def bestEffortCancel (kcm : FaceAuthKcm) : FaceAuthKcm :=
  if kcm.operationId = "" ∨ kcm.pageState = .cancelling then kcm
  else { kcm with calls := kcm.calls ++ [.cancelEnrollment kcm.operationId none] }

/-- Ask for the version and the enrollment state again. -/
def refresh (kcm : FaceAuthKcm) : FaceAuthKcm :=
  if kcm.busy then kcm
  else
    { kcm with
      generation := kcm.generation + 1
      refreshRepliesPending := 2
      refreshVersionSucceeded := false
      refreshEnrollmentSucceeded := false
      refreshVersionError := ""
      refreshEnrollmentError := ""
      pageState := .loading
      retryAction := .none
      errorCode := ""
      outcome := ""
      calls := kcm.calls ++
        [.getVersion (kcm.generation + 1), .getEnrollmentState (kcm.generation + 1)] }

/-- Conclude a refresh after both of its replies. -/
def concludeRefresh (kcm : FaceAuthKcm) : FaceAuthKcm :=
  let available := kcm.refreshVersionSucceeded && kcm.refreshEnrollmentSucceeded
  let failure :=
    if kcm.refreshVersionError ≠ "" then kcm.refreshVersionError else kcm.refreshEnrollmentError
  if available ∧ failure = "" ∧ kcm.schemaVersion = supportedSchemaVersion then
    { kcm with
      daemonAvailable := available, errorCode := "", retryAction := .none, pageState := .ready }
  else
    { kcm with
      daemonAvailable := available
      errorCode := if failure = "" then "request-failed" else failure
      retryAction := if failure = "protocol-mismatch" then .none else .refresh
      pageState := .terminal }

/-- Note one of the two replies to a refresh. -/
def finishRefreshReply (kcm : FaceAuthKcm) (versionReply succeeded : Bool)
    (errorCode : String) : FaceAuthKcm :=
  let noted :=
    if versionReply then
      { kcm with refreshVersionSucceeded := succeeded, refreshVersionError := errorCode }
    else
      { kcm with refreshEnrollmentSucceeded := succeeded, refreshEnrollmentError := errorCode }
  if noted.refreshRepliesPending = 0 then noted
  else
    let counted := { noted with refreshRepliesPending := noted.refreshRepliesPending - 1 }
    if counted.refreshRepliesPending ≠ 0 then counted else counted.concludeRefresh

/-- The reply to `GetVersion`. -/
def versionReply (kcm : FaceAuthKcm) (generation : Nat) (reply : Except BusError Nat) :
    FaceAuthKcm :=
  if generation ≠ kcm.generation then kcm
  else
    match reply with
    | .error error =>
        { kcm with schemaVersion := 0 }.finishRefreshReply true false
          (errorCodeFor error "request-failed")
    | .ok version =>
        { kcm with schemaVersion := version }.finishRefreshReply true true
          (if version ≠ supportedSchemaVersion then "protocol-mismatch" else "")

/-- The reply to `GetEnrollmentState`. -/
def enrollmentStateReply (kcm : FaceAuthKcm) (generation : Nat) (reply : Except BusError Bool) :
    FaceAuthKcm :=
  if generation ≠ kcm.generation then kcm
  else
    match reply with
    | .error error =>
        kcm.finishRefreshReply false false (errorCodeFor error "request-failed")
    | .ok enrolled => { kcm with enrolled := enrolled }.finishRefreshReply false true ""

/-- Begin an enrollment, when the service is there and the page is not busy. -/
def beginEnrollment (kcm : FaceAuthKcm) : FaceAuthKcm :=
  if kcm.busy ∨ kcm.daemonAvailable = false ∨ kcm.schemaVersion ≠ supportedSchemaVersion then kcm
  else
    { kcm with
      generation := kcm.generation + 1
      pageState := .authorizing
      retryAction := .none
      operationId := ""
      cue := ""
      outcome := ""
      errorCode := ""
      calls := kcm.calls ++ [.beginEnrollment (kcm.generation + 1)] }

/-- Give up an operation that could not be begun. -/
def abandon (kcm : FaceAuthKcm) (errorCode : String) (retryAction : RetryAction) : FaceAuthKcm :=
  { kcm.bestEffortCancel with
    operationId := ""
    cue := ""
    errorCode := errorCode
    retryAction := retryAction
    pageState := .terminal }

/-- The reply to `BeginEnrollment`. -/
def beginReply (kcm : FaceAuthKcm) (generation : Nat) (reply : Except BusError String) :
    FaceAuthKcm :=
  if generation ≠ kcm.generation then kcm
  else
    match reply with
    | .error error =>
        let errorCode := errorCodeFor error "enrollment-failed"
        kcm.abandon errorCode
          (if errorCode = "daemon-unavailable" then .refresh else .beginEnrollment)
    | .ok operationId =>
        if isCanonicalOperationId operationId = false ∨
            (kcm.operationId ≠ "" ∧ kcm.operationId ≠ operationId) then
          kcm.abandon "invalid-operation" .refresh
        else if kcm.pageState = .authorizing then
          { kcm with operationId := operationId, cue := "preparing", pageState := .starting }
        else { kcm with operationId := operationId }

/-- Cancel the operation and wait for the reply. -/
def cancelEnrollment (kcm : FaceAuthKcm) : FaceAuthKcm :=
  if kcm.canCancel = false then kcm
  else
    { kcm with
      stateBeforeCancel := kcm.pageState
      pageState := .cancelling
      retryAction := .none
      errorCode := ""
      calls := kcm.calls ++ [.cancelEnrollment kcm.operationId (some kcm.generation)] }

/-- The reply to `CancelEnrollment`. -/
def cancelReply (kcm : FaceAuthKcm) (generation : Nat) (reply : Except BusError Unit) :
    FaceAuthKcm :=
  if generation ≠ kcm.generation then kcm
  else
    match reply with
    | .error error =>
        { kcm with
          pageState := kcm.stateBeforeCancel
          errorCode := errorCodeFor error "cancel-failed"
          retryAction := .cancelEnrollment }
    | .ok () => kcm

/-- Repeat what failed, once. -/
def retry (kcm : FaceAuthKcm) : FaceAuthKcm :=
  match kcm.retryAction with
  | .none => { kcm with retryAction := .none }
  | .refresh => { kcm with retryAction := .none }.refresh
  | .beginEnrollment => { kcm with retryAction := .none }.beginEnrollment
  | .cancelEnrollment => { kcm with retryAction := .none }.cancelEnrollment

/-- The service has appeared on the bus. -/
def handleServiceRegistered (kcm : FaceAuthKcm) : FaceAuthKcm := kcm.refresh

/-- The service has left the bus. -/
def handleServiceUnregistered (kcm : FaceAuthKcm) : FaceAuthKcm :=
  { kcm with
    generation := kcm.generation + 1
    refreshRepliesPending := 0
    daemonAvailable := false
    schemaVersion := 0
    operationId := ""
    cue := ""
    outcome := "unavailable"
    errorCode := "daemon-unavailable"
    retryAction := .refresh
    pageState := .terminal }

/-- A signal without a canonical identifier. -/
def malformedSignal (kcm : FaceAuthKcm) : FaceAuthKcm :=
  if kcm.busy then { kcm with errorCode := "protocol-mismatch", retryAction := .none } else kcm

/-- Before the reply to `BeginEnrollment`, the identifier of a signal is taken for its own. -/
def adopt (kcm : FaceAuthKcm) (operationId : String) : FaceAuthKcm :=
  if kcm.operationId = "" ∧ kcm.pageState = .authorizing then
    { kcm with operationId := operationId }
  else kcm

/-- The signal `EnrollmentProgress`. -/
def handleEnrollmentProgress (kcm : FaceAuthKcm) (operationId progress : String) : FaceAuthKcm :=
  if isCanonicalOperationId operationId = false then kcm.malformedSignal
  else
    let adopted := kcm.adopt operationId
    if operationId ≠ adopted.operationId then adopted
    else if isKnownProgress progress = false then
      { adopted with errorCode := "protocol-mismatch", retryAction := .none }
    else if adopted.pageState = .cancelling then adopted
    else
      { adopted with
        cue := progress
        pageState := if progress = "preparing" then .starting else .capturing }

/-- The signal `EnrollmentCompleted`. -/
def handleEnrollmentCompleted (kcm : FaceAuthKcm) (operationId result : String) : FaceAuthKcm :=
  if isCanonicalOperationId operationId = false then kcm.malformedSignal
  else
    let adopted := kcm.adopt operationId
    if operationId ≠ adopted.operationId then adopted
    else
      { adopted with
        generation := adopted.generation + 1
        refreshRepliesPending := 0
        cue := ""
        outcome := if isKnownResult result then experienceOutcome result else "unavailable"
        errorCode := if isKnownResult result then "" else "protocol-mismatch"
        operationId := ""
        retryAction := .none
        pageState := .terminal
        enrolled := if result = "completed" then true else adopted.enrolled }

/-- The page as it is constructed, after its first refresh. -/
def opened : FaceAuthKcm := ({} : FaceAuthKcm).refresh

end FaceAuthKcm

end FaceAuth
