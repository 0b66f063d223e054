import Niralis.CallStates
import Niralis.LaunchPlan
import Niralis.PamTransaction
import Niralis.PrivilegeDrop
import Niralis.WorkerMessages

namespace Niralis.WorkerLaunch
open LaunchPlan (Bytes SessionExecPlan)
open PamTransaction (PamSessionEnvironment PamSessionMetadata PamSessionType)

inductive LaunchError
  | authenticationFailed
  | authenticatedSessionFailed
  | workerRejected
  | workerIoFailed
  | workerProtocolFailed
  | workerTimedOut
  deriving DecidableEq, Repr

inductive WorkerSessionFailureCode
  | pamIdentityUnavailable | identityResolutionFailed | supplementaryGroupsResolutionFailed
  | openFailed | internalPanic | sessionChildFailed | workerAlreadyInLogindSession | logindFailed
  | logindSessionIdMismatch | runtimeEnvironmentFailed | runtimeDirectoryInvalid
  | launchSpecMalformed | executableUnavailable | commitFailed
  deriving DecidableEq, Repr

inductive WorkerErrorCode
  | internalError | realGraphicalSessionNotAuthorized
  deriving DecidableEq, Repr

inductive AuthError
  | loginFailed | infrastructureFailed | authenticatedIdentityUnavailable
  deriving DecidableEq, Repr

/-- The passwd entry of the user, with the directories that the session child is given. -/
structure LoginIdentity extends UnixIdentity where
  home : Bytes
  shell : Bytes
  deriving DecidableEq, Repr

structure LogindSessionIdentity where
  id : String
  uid : Nat
  sessionType : String
  sessionClass : String
  desktop : Option String
  seat : Option String
  vtnr : Option Nat
  deriving DecidableEq, Repr

structure SessionChildTerminalProof where
  seat : String
  vtnr : Nat
  fd : Int
  deviceMajor : Nat
  deviceMinor : Nat
  controllingSid : Nat
  foregroundPgid : Nat
  deriving DecidableEq, Repr

structure SessionChildReport where
  childPid : Nat
  sid : Nat
  pgid : Nat
  terminalProof : Option SessionChildTerminalProof
  execProbeVersion : Nat
  deriving DecidableEq, Repr

structure SessionChildExpectation where
  canonicalUsername : String
  sessionId : String
  target : PrivilegeDropTarget
  home : Bytes
  shell : Bytes
  probePath : Bytes
  sessionType : String
  logindSessionId : String
  runtimeDir : Bytes
  importedLocale : List (String × String)
  seat : String
  vtnr : Nat
  selinuxContext : Option String
  execPlan : SessionExecPlan
  deriving DecidableEq

inductive WorkerLaunchPhase
  | pendingHandoffBeforeScope | scopePinnedBeforeAck | ackReceivedBeforeCommitExec
  deriving DecidableEq, Repr

inductive WorkerResponse
  | payloadScopePrepared (workerId : String) (transaction : WorkerTransactionIdentity)
      (workerPid sessionPid : Nat) (registrationNonce : String) (identity : PayloadScopeIdentity)
  | payloadScopeReleaseReady (workerId : String)
  | started (username sessionId : String) (sessionPid sessionPgid fixtureVersion : Nat)
      (workerId logindSessionId : String) (transaction : WorkerTransactionIdentity)
  | authenticationFailed
  | sessionFailed (code : WorkerSessionFailureCode)
  | rejected (code : WorkerErrorCode)
  deriving DecidableEq, Repr

/-- `WorkerControlRequest::PayloadScopeReleaseRequested`. -/
structure PayloadScopeReleaseRequest where
  transaction : ControlTransactionIdentity
  workerId : String
  workerPid : Nat
  registrationNonce : String
  releaseNonce : String
  identity : PayloadScopeIdentity
  localCleanupSucceeded : Bool
  deriving DecidableEq, Repr

/-- What the supervisor writes to a worker whose session has not started. -/
inductive SupervisorMessage
  | payloadScopeRegistered (transaction : ControlTransactionIdentity) (workerId : String)
      (workerPid : Nat) (registrationNonce : String)
  | payloadScopeReleased (transaction : ControlTransactionIdentity) (workerId : String)
      (workerPid : Nat) (registrationNonce releaseNonce : String)
  | payloadScopeRecoveryRequired (transaction : ControlTransactionIdentity) (workerId : String)
      (workerPid : Nat) (registrationNonce releaseNonce : String)
  | other
  deriving DecidableEq, Repr

/-- What `poll` reports about the signals and the supervisor's channel. -/
inductive ChannelPoll
  | timedOut
  | failed
  | ready (signal input hangup : Bool)
  deriving DecidableEq, Repr

inductive Opening
  | opened | failed | panicked
  deriving DecidableEq, Repr

/-- What the launch owns, each given back by its drop if not before. -/
inductive Resource
  | scope | handoff | runner | transaction | terminal
  deriving DecidableEq, Repr

/-- The calls of a launch on PAM, logind, NSS, SELinux, the terminal, the session child, the payload
scope, the launcher and the supervisor. -/
inductive LaunchCall
  | executableUsable (executable : Bytes)
  | authorizeLaunchWatchdog (sessionId : String)
  | resolveByPid (pid : Nat)
  | bindControlListener
  | allocateTerminal
  | authenticate (username : String)
  | resolveIdentity (username : String)
  | resolveGroups (identity : LoginIdentity)
  | openSession (metadata : PamSessionMetadata)
  | sessionEnvironment
  | validateRuntimeDir (path : Bytes) (uid : Nat)
  | capturePending
  | clearPending
  | duplicateTerminalFd
  | buildRunner
  | runChildUntilReady (expectation : SessionChildExpectation)
  | phaseReached (phase : WorkerLaunchPhase)
  | pendingWorkerSignal
  | deadlinePassed
  | activateTerminal
  | prepareScope (sessionPid uid : Nat) (logindSessionId : String)
  | write (response : WorkerResponse)
  | pollChannel
  | duplicateSupervisorChannel
  | readControlRequest
  | randomReleaseNonce
  | writeControlRequest (request : PayloadScopeReleaseRequest)
  | abort
  | commitExec
  | contextForPid (pid : Nat)
  | terminateChild
  | cleanup (preservingPin : Bool)
  | releasePin
  | drop (resource : Resource)
  deriving DecidableEq

abbrev LaunchCall.Answer : LaunchCall → Type
  | executableUsable _ | authorizeLaunchWatchdog _ | validateRuntimeDir _ _ | clearPending
  | duplicateTerminalFd | buildRunner | deadlinePassed | activateTerminal | abort | terminateChild
  | cleanup _ | releasePin => Bool
  | resolveByPid _ => Except Unit (Option LogindSessionIdentity)
  | bindControlListener | phaseReached _ | write _ | duplicateSupervisorChannel
  | writeControlRequest _ => Except LaunchError Unit
  | allocateTerminal => Option Nat
  | authenticate _ => Except AuthError String
  | resolveIdentity _ => Option LoginIdentity
  | resolveGroups _ => Option (List Nat)
  | openSession _ => Opening
  | sessionEnvironment => Option PamSessionEnvironment
  | capturePending => Except Unit (Option String)
  | runChildUntilReady _ | commitExec => Option SessionChildReport
  | pendingWorkerSignal => Except Unit (Option Int)
  | prepareScope _ _ _ => Except PayloadScopeError PayloadScopeIdentity
  | pollChannel => ChannelPoll
  | readControlRequest => Except LaunchError (Nat × SupervisorMessage)
  | randomReleaseNonce | contextForPid _ => Option String
  | drop _ => Unit

/-- How a launch ends before the session has started: with an error, or in the wait for an operator
that never returns. -/
inductive LaunchExit
  | failed (error : LaunchError)
  | recoveryHeld
  deriving DecidableEq, Repr

abbrev Launching := Calls LaunchCall LaunchCall.Answer LaunchExit

/-- The request, and what the worker was started with. -/
structure PamSessionLaunch where
  username : String
  session : SessionInfo
  launchPlan : SessionExecPlan
  sessionProbePath : Bytes
  controlPath : Bytes
  workerId : String
  workerPid : Nat
  transaction : WorkerTransactionIdentity
  requiresRegistration : Bool

def seat : String := "seat0"

def sessionType : SessionKind → String
  | .wayland => "wayland"
  | .x11 => "x11"

def pamSessionType : SessionKind → PamSessionType
  | .wayland => .wayland
  | .x11 => .x11

def validLogindIdentity (ctx : PamSessionLaunch) (uid vtnr : Nat) (identity : LogindSessionIdentity) :
    Bool :=
  identity.uid = uid && identity.sessionType = sessionType ctx.session.kind &&
    identity.sessionClass = "user" && identity.desktop.all (· = ctx.session.id) &&
    identity.seat = some seat && identity.vtnr = some vtnr

def validTerminalProof (report : SessionChildReport) (vtnr : Nat) : Bool :=
  report.terminalProof.any fun proof =>
    proof.seat = seat && proof.vtnr = vtnr && proof.fd = 3 && proof.deviceMajor = 4 &&
      proof.deviceMinor = vtnr && proof.controllingSid = report.sid &&
      proof.foregroundPgid = report.pgid

def validUnixPath (path : Bytes) : Bool := path ≠ [] && path.length ≤ 4096 && !path.contains 0

/-- `LogindSessionId::new` of the launcher's crate. -/
def validLogindSessionId (id : String) : Bool :=
  id ≠ "" && id.utf8ByteSize ≤ 128 && !id.toList.contains '\x00'

section Exits
variable {ε : Type}

def ensure (check : Bool) (exit : Launching Empty) : Launching Unit :=
  if check then pure () else exit >>= Empty.elim

def require {α : Type} (answer : Option α) (exit : Launching Empty) : Launching α :=
  match answer with
  | some a => pure a
  | none => exit >>= Empty.elim

/-- `return Err(error)`: what is owned is dropped, the last declared first. -/
def leave : List Resource → LaunchError → Launching Empty
  | [], error => Calls.fail (.failed error)
  | resource :: rest, error => do
    Calls.ask (LaunchCall.drop resource)
    leave rest error

/-- `write_envelope(..)?; return Err(error)`. -/
def respond (rest : List Resource) (response : WorkerResponse) (error : LaunchError) :
    Launching Empty := do
  let written : Except LaunchError Unit ← Calls.ask (LaunchCall.write response)
  match written with
  | .ok () => leave rest error
  | .error e => leave rest e

def sessionFailed (rest : List Resource) (code : WorkerSessionFailureCode) : Launching Empty :=
  respond rest (.sessionFailed code) .authenticatedSessionFailed

/-- `drop(transaction)` comes before the response. -/
def closeAndFail (rest : List Resource) (code : WorkerSessionFailureCode) : Launching Empty := do
  Calls.ask (LaunchCall.drop .transaction)
  sessionFailed rest code

def abortAndFail (code : WorkerSessionFailureCode) : Launching Empty := do
  let _aborted : Bool ← Calls.ask LaunchCall.abort
  closeAndFail [.runner, .terminal] code

/-- The worker goes on where the answer is fine, and else leaves with its error. -/
def orLeave (rest : List Resource) : Except LaunchError Unit → Launching Unit
  | .ok () => pure ()
  | .error e => leave rest e >>= Empty.elim

end Exits

/-- The supervisor has made the registration of this very scope durable. -/
def SupervisorMessage.registers (ctx : PamSessionLaunch) (nonce : String) : SupervisorMessage → Bool
  | payloadScopeRegistered transaction workerId workerPid registrationNonce =>
    workerId = ctx.workerId && workerPid = ctx.workerPid && registrationNonce = nonce &&
      transaction.matchesWorker ctx.transaction "scope_registered" 1
  | _ => false

/-- The supervisor has verified that the scope is gone. -/
def SupervisorMessage.releases (ctx : PamSessionLaunch) (nonce releaseNonce : String) :
    SupervisorMessage → Bool
  | payloadScopeReleased transaction workerId workerPid nonce' releaseNonce' =>
    workerId = ctx.workerId && workerPid = ctx.workerPid && nonce' = nonce &&
      releaseNonce' = releaseNonce &&
      transaction.matchesWorker ctx.transaction "scope_released" 3
  | _ => false

def SupervisorMessage.requiresRecovery (ctx : PamSessionLaunch) (nonce releaseNonce : String) :
    SupervisorMessage → Bool
  | payloadScopeRecoveryRequired transaction workerId workerPid nonce' releaseNonce' =>
    workerId = ctx.workerId && workerPid = ctx.workerPid && nonce' = nonce &&
      releaseNonce' = releaseNonce &&
      transaction.matchesWorker ctx.transaction "scope_recovery_required" 3
  | _ => false

abbrev Talking := Calls LaunchCall LaunchCall.Answer LaunchError

def orFail {α : Type} : Except LaunchError α → Talking α
  | .ok a => pure a
  | .error e => Calls.fail e

def awaitPayloadScopeAck (ctx : PamSessionLaunch) (nonce : String) : Talking Unit := do
  let late : Bool ← Calls.ask LaunchCall.deadlinePassed
  if late then Calls.fail .workerTimedOut
  else
    let polled : ChannelPoll ← Calls.ask LaunchCall.pollChannel
    match polled with
    | .timedOut => Calls.fail .workerTimedOut
    | .failed => Calls.fail .workerIoFailed
    | .ready signal input hangup =>
      if signal then
        let _signal : Except Unit (Option Int) ← Calls.ask LaunchCall.pendingWorkerSignal
        Calls.fail .authenticatedSessionFailed
      else if input then
        let stream : Except LaunchError Unit ← Calls.ask LaunchCall.duplicateSupervisorChannel
        orFail stream
        let request : Except LaunchError (Nat × SupervisorMessage) ←
          Calls.ask LaunchCall.readControlRequest
        match request with
        | .ok (version, message) =>
          if version = workerControlProtocolVersion ∧ message.registers ctx nonce then pure ()
          else Calls.fail .workerProtocolFailed
        -- a hangup explains the failed read
        | .error e => Calls.fail (if hangup then .authenticatedSessionFailed else e)
      else Calls.fail (if hangup then .authenticatedSessionFailed else .workerIoFailed)

inductive PayloadScopeReleaseOutcome
  | released | recoveryRequired
  deriving DecidableEq, Repr

def requestPayloadScopeRelease (ctx : PamSessionLaunch) (identity : PayloadScopeIdentity)
    (localCleanupSucceeded : Bool) : Talking PayloadScopeReleaseOutcome := do
  let written : Except LaunchError Unit ←
    Calls.ask (LaunchCall.write (.payloadScopeReleaseReady ctx.workerId))
  orFail written
  let stream : Except LaunchError Unit ← Calls.ask LaunchCall.duplicateSupervisorChannel
  orFail stream
  let nonce : Option String ← Calls.ask LaunchCall.randomReleaseNonce
  match nonce with
  | none => Calls.fail .workerIoFailed
  | some releaseNonce =>
    let requested : Except LaunchError Unit ← Calls.ask (LaunchCall.writeControlRequest
      { transaction := .fromWorker ctx.transaction "scope_release_requested" 2,
        workerId := ctx.workerId, workerPid := ctx.workerPid,
        registrationNonce := identity.invocationId, releaseNonce, identity, localCleanupSucceeded })
    orFail requested
    let late : Bool ← Calls.ask LaunchCall.deadlinePassed
    if late then Calls.fail .workerTimedOut
    else
      let polled : ChannelPoll ← Calls.ask LaunchCall.pollChannel
      match polled with
      | .timedOut => Calls.fail .workerTimedOut
      | .failed => Calls.fail .workerIoFailed
      | .ready _ input _ =>
        if !input then Calls.fail .workerIoFailed
        else
          let response : Except LaunchError (Nat × SupervisorMessage) ←
            Calls.ask LaunchCall.readControlRequest
          let (version, message) ← orFail response
          if version ≠ workerControlProtocolVersion then Calls.fail .workerProtocolFailed
          else if message.releases ctx identity.invocationId releaseNonce then pure .released
          else if message.requiresRecovery ctx identity.invocationId releaseNonce then
            pure .recoveryRequired
          else Calls.fail .workerProtocolFailed

/-- `wait_for_prestarted_recovery`: scope, transaction and terminal stay owned for good. -/
def waitForPrestartedRecovery : Launching Empty := Calls.fail .recoveryHeld

/-- The pin is released only on the supervisor's word. -/
def releasePinOrHold : Launching Unit := do
  let unpinned : Bool ← Calls.ask LaunchCall.releasePin
  ensure unpinned waitForPrestartedRecovery

def releaseBeforeStart (ctx : PamSessionLaunch) (identity : PayloadScopeIdentity)
    (registered cleaned : Bool) : Launching Unit :=
  if registered then
    (requestPayloadScopeRelease ctx identity cleaned).handle fun
      | .ok .released => releasePinOrHold
      | .ok .recoveryRequired | .error _ => waitForPrestartedRecovery >>= Empty.elim
  else releasePinOrHold

/-- What a launch does that is given up with its scope prepared and its probe blocked. -/
def cancelPreparedScope (ctx : PamSessionLaunch) (identity : PayloadScopeIdentity)
    (registered : Bool) : Launching Empty := do
  let reaped : Bool ← Calls.ask LaunchCall.abort
  let cleaned : Bool ← (if reaped then Calls.ask (LaunchCall.cleanup true) else pure false)
  releaseBeforeStart ctx identity registered cleaned
  closeAndFail [.scope, .runner, .terminal] .sessionChildFailed

/-- The supervisor is asked, and its answer is not waited on any further. -/
def reportRelease (ctx : PamSessionLaunch) (identity : PayloadScopeIdentity) (cleaned : Bool) :
    Launching Unit :=
  if ctx.requiresRegistration then
    (requestPayloadScopeRelease ctx identity cleaned).handle fun _ => pure ()
  else pure ()

/-- What a launch does that fails once the probe has been told to go on. -/
def cleanUpCommitted (ctx : PamSessionLaunch) (identity : PayloadScopeIdentity)
    (code : WorkerSessionFailureCode) : Launching Empty := do
  let cleaned : Bool ← Calls.ask (LaunchCall.cleanup false)
  Calls.ask (LaunchCall.drop .scope)
  reportRelease ctx identity cleaned
  closeAndFail [.runner, .terminal] code

/-- What the launch has found out when its PAM session is open. -/
structure OpenedSession where
  vtnr : Nat
  identity : LoginIdentity
  groups : List Nat

/-- A session that has started, with what its worker goes on with. -/
structure RunningSession where
  report : SessionChildReport
  scope : PayloadScopeIdentity
  deriving DecidableEq, Repr

/-- The logind session of the worker, which PAM has opened. -/
def workerSession (ctx : PamSessionLaunch) (o : OpenedSession) :
    Except Unit (Option LogindSessionIdentity) → Option LogindSessionIdentity
  | .ok (some identity) =>
    if validLogindIdentity ctx o.identity.uid o.vtnr identity then some identity else none
  | _ => none

def childIsInSession (ctx : PamSessionLaunch) (o : OpenedSession) (logind : LogindSessionIdentity) :
    Except Unit (Option LogindSessionIdentity) → Bool
  | .ok (some identity) =>
    identity.id = logind.id && validLogindIdentity ctx o.identity.uid o.vtnr identity
  | _ => false

/-- A captured context is cleared, so that only the session program gets it. -/
def clearCaptured : Option String → Launching Unit
  | none => pure ()
  | some _ => do
    let cleared : Bool ← Calls.ask LaunchCall.clearPending
    ensure cleared (closeAndFail [.terminal] .sessionChildFailed)

/-- A launch that is given no control path has no listener. -/
def bindListener (ctx : PamSessionLaunch) : Launching Unit :=
  if ctx.controlPath = [] then pure ()
  else do
    let bound : Except LaunchError Unit ← Calls.ask LaunchCall.bindControlListener
    orLeave [] bound

def openedRunning (ctx : PamSessionLaunch) (logind : LogindSessionIdentity)
    (identity : PayloadScopeIdentity) (report : SessionChildReport) : Launching RunningSession := do
  let written : Except LaunchError Unit ← Calls.ask (LaunchCall.write
    (.started ctx.username ctx.session.id report.childPid report.pgid report.execProbeVersion
      ctx.workerId logind.id { ctx.transaction with stage := "started" }))
  orLeave [.scope, .runner, .transaction, .terminal] written
  pure ⟨report, identity⟩

/-- The session program runs under the context that PAM has chosen for it. -/
def verifyContext (ctx : PamSessionLaunch) (identity : PayloadScopeIdentity) :
    Option String → SessionChildReport → Launching Unit
  | none, _ => pure ()
  | some expected, report => do
    let observed : Option String ← Calls.ask (LaunchCall.contextForPid report.childPid)
    ensure (observed = some expected) do
      let _terminated : Bool ← Calls.ask LaunchCall.terminateChild
      cleanUpCommitted ctx identity .sessionChildFailed

def openedCommit (ctx : PamSessionLaunch) (logind : LogindSessionIdentity)
    (selinuxContext : Option String) (identity : PayloadScopeIdentity) : Launching RunningSession := do
  let signal : Except Unit (Option Int) ← Calls.ask LaunchCall.pendingWorkerSignal
  match signal with
  | .error () => leave [.scope, .handoff, .runner, .transaction, .terminal] .workerIoFailed >>= Empty.elim
  | .ok (some _) => cancelPreparedScope ctx identity ctx.requiresRegistration >>= Empty.elim
  | .ok none =>
    let committed : Option SessionChildReport ← Calls.ask LaunchCall.commitExec
    let report ← require committed (cleanUpCommitted ctx identity .commitFailed)
    verifyContext ctx identity selinuxContext report
    openedRunning ctx logind identity report

/-- What a launch does whose scope could not even be announced. -/
def dropUnannounced (error : LaunchError) : Launching Empty := do
  let _aborted : Bool ← Calls.ask LaunchCall.abort
  let _cleaned : Bool ← Calls.ask (LaunchCall.cleanup false)
  Calls.ask (LaunchCall.drop .scope)
  Calls.ask (LaunchCall.drop .transaction)
  leave [.runner, .terminal] error

def scopeAcknowledged (ctx : PamSessionLaunch) (identity : PayloadScopeIdentity) : Launching Bool :=
  (awaitPayloadScopeAck ctx identity.invocationId).handle fun
    | .ok () => pure true
    | .error _ => pure false

/-- The supervisor is told of the scope, and has to acknowledge it. -/
def registerScope (ctx : PamSessionLaunch) (report : SessionChildReport)
    (identity : PayloadScopeIdentity) : Launching Unit := do
  let written : Except LaunchError Unit ← Calls.ask (LaunchCall.write
    (.payloadScopePrepared ctx.workerId { ctx.transaction with stage := "scope_prepared" }
      ctx.workerPid report.childPid identity.invocationId identity))
  match written with
  | .error e => dropUnannounced e >>= Empty.elim
  | .ok () =>
    let gate : Except LaunchError Unit ← Calls.ask (LaunchCall.phaseReached .scopePinnedBeforeAck)
    orLeave [.scope, .handoff, .runner, .transaction, .terminal] gate
    let acknowledged ← scopeAcknowledged ctx identity
    ensure acknowledged (cancelPreparedScope ctx identity true)
    let gate : Except LaunchError Unit ←
      Calls.ask (LaunchCall.phaseReached .ackReceivedBeforeCommitExec)
    orLeave [.scope, .handoff, .runner, .transaction, .terminal] gate

def openedRegistration (ctx : PamSessionLaunch) (logind : LogindSessionIdentity)
    (selinuxContext : Option String) (report : SessionChildReport) (identity : PayloadScopeIdentity) :
    Launching RunningSession := do
  (if ctx.requiresRegistration then registerScope ctx report identity else pure ())
  openedCommit ctx logind selinuxContext identity

/-- The probe is known to be in the session, and the terminal is active. -/
def preparePayload (ctx : PamSessionLaunch) (o : OpenedSession) (logind : LogindSessionIdentity)
    (selinuxContext : Option String) (report : SessionChildReport) : Launching RunningSession := do
  let late : Bool ← Calls.ask LaunchCall.deadlinePassed
  ensure (!late) (abortAndFail .sessionChildFailed)
  ensure (!ctx.requiresRegistration || ctx.controlPath ≠ []) (abortAndFail .sessionChildFailed)
  orLeave [.handoff, .runner, .transaction, .terminal]
    (if validLogindSessionId logind.id then .ok () else .error .authenticatedSessionFailed)
  let prepared : Except PayloadScopeError PayloadScopeIdentity ←
    Calls.ask (LaunchCall.prepareScope report.childPid o.identity.uid logind.id)
  match prepared with
  | .error _ => abortAndFail .sessionChildFailed >>= Empty.elim
  | .ok identity => openedRegistration ctx logind selinuxContext report identity

def checkedHandoff (ctx : PamSessionLaunch) (o : OpenedSession) (logind : LogindSessionIdentity)
    (selinuxContext : Option String) (report : SessionChildReport) : Launching RunningSession := do
  let late : Bool ← Calls.ask LaunchCall.deadlinePassed
  ensure (!late) (abortAndFail .sessionChildFailed)
  ensure (validTerminalProof report o.vtnr) (abortAndFail .sessionChildFailed)
  let resolved : Except Unit (Option LogindSessionIdentity) ←
    Calls.ask (LaunchCall.resolveByPid report.childPid)
  ensure (childIsInSession ctx o logind resolved) (abortAndFail .logindFailed)
  let activated : Bool ← Calls.ask LaunchCall.activateTerminal
  ensure activated (abortAndFail .sessionChildFailed)
  preparePayload ctx o logind selinuxContext report

def openedHandoffScope (ctx : PamSessionLaunch) (o : OpenedSession) (logind : LogindSessionIdentity)
    (selinuxContext : Option String) (expectation : SessionChildExpectation) :
    Launching RunningSession := do
  let ready : Option SessionChildReport ← Calls.ask (LaunchCall.runChildUntilReady expectation)
  let report ← require ready (closeAndFail [.runner, .terminal] .sessionChildFailed)
  let gate : Except LaunchError Unit ←
    Calls.ask (LaunchCall.phaseReached .pendingHandoffBeforeScope)
  orLeave [.handoff, .runner, .transaction, .terminal] gate
  let signal : Except Unit (Option Int) ← Calls.ask LaunchCall.pendingWorkerSignal
  match signal with
  | .error () => leave [.handoff, .runner, .transaction, .terminal] .workerIoFailed >>= Empty.elim
  | .ok (some _) => abortAndFail .sessionChildFailed >>= Empty.elim
  | .ok none => checkedHandoff ctx o logind selinuxContext report

def openedEnvironment (ctx : PamSessionLaunch) (o : OpenedSession) : Launching RunningSession := do
  let environment : Option PamSessionEnvironment ← Calls.ask LaunchCall.sessionEnvironment
  let environment ← require environment (closeAndFail [.terminal] .runtimeEnvironmentFailed)
  let resolved : Except Unit (Option LogindSessionIdentity) ←
    Calls.ask (LaunchCall.resolveByPid ctx.workerPid)
  let logind ← require (workerSession ctx o resolved) (closeAndFail [.terminal] .logindFailed)
  ensure (environment.sessionId = logind.id) (closeAndFail [.terminal] .logindSessionIdMismatch)
  let validated : Bool ←
    Calls.ask (LaunchCall.validateRuntimeDir environment.runtimeDir o.identity.uid)
  ensure validated (closeAndFail [.terminal] .runtimeDirectoryInvalid)
  let captured : Except Unit (Option String) ← Calls.ask LaunchCall.capturePending
  let selinuxContext ← require captured.toOption (closeAndFail [.terminal] .sessionChildFailed)
  clearCaptured selinuxContext
  let duplicated : Bool ← Calls.ask LaunchCall.duplicateTerminalFd
  ensure duplicated (closeAndFail [.terminal] .sessionChildFailed)
  let built : Bool ← Calls.ask LaunchCall.buildRunner
  ensure built (closeAndFail [.terminal] .sessionChildFailed)
  ensure (validUnixPath o.identity.home && validUnixPath o.identity.shell &&
    validUnixPath ctx.sessionProbePath) (closeAndFail [.runner, .terminal] .sessionChildFailed)
  openedHandoffScope ctx o logind selinuxContext
    { canonicalUsername := o.identity.username, sessionId := ctx.session.id,
      target := ⟨o.identity.uid, o.identity.gid, o.groups⟩, home := o.identity.home,
      shell := o.identity.shell, probePath := ctx.sessionProbePath,
      sessionType := sessionType ctx.session.kind, logindSessionId := logind.id,
      runtimeDir := environment.runtimeDir, importedLocale := environment.importedLocale, seat,
      vtnr := o.vtnr, selinuxContext, execPlan := ctx.launchPlan }

def authenticateAndOpen (ctx : PamSessionLaunch) (vtnr : Nat) : Launching RunningSession := do
  let authenticated : Except AuthError String ← Calls.ask (LaunchCall.authenticate ctx.username)
  match authenticated with
  | .error .loginFailed =>
    respond [.terminal] .authenticationFailed .authenticationFailed >>= Empty.elim
  | .error .infrastructureFailed =>
    respond [.terminal] (.rejected .internalError) .workerRejected >>= Empty.elim
  | .error .authenticatedIdentityUnavailable =>
    sessionFailed [.terminal] .pamIdentityUnavailable >>= Empty.elim
  | .ok pamUsername =>
    let identity : Option LoginIdentity ← Calls.ask (LaunchCall.resolveIdentity pamUsername)
    let identity ← require identity (closeAndFail [.terminal] .identityResolutionFailed)
    let groups : Option (List Nat) ← Calls.ask (LaunchCall.resolveGroups identity)
    let groups ← require groups (closeAndFail [.terminal] .supplementaryGroupsResolutionFailed)
    let opening : Opening ← Calls.ask (LaunchCall.openSession
      { sessionType := pamSessionType ctx.session.kind, sessionClass := .user,
        sessionDesktop := ctx.session.id, seat := some seat, vtnr := some vtnr,
        tty := some ("/dev/tty" ++ toString vtnr) })
    match opening with
    | .opened => openedEnvironment ctx ⟨vtnr, identity, groups⟩
    | .failed => closeAndFail [.terminal] .openFailed >>= Empty.elim
    | .panicked => closeAndFail [.terminal] .internalPanic >>= Empty.elim

/-- `run_pam_session`, until the session has started. -/
def runPamSession (ctx : PamSessionLaunch) : Launching RunningSession := do
  ensure ctx.launchPlan.validate (sessionFailed [] .launchSpecMalformed)
  let usable : Bool ← Calls.ask (LaunchCall.executableUsable ctx.launchPlan.executable)
  ensure usable (sessionFailed [] .executableUnavailable)
  let authorized : Bool ← Calls.ask (LaunchCall.authorizeLaunchWatchdog ctx.session.id)
  ensure authorized (respond [] (.rejected .realGraphicalSessionNotAuthorized) .workerRejected)
  let member : Except Unit (Option LogindSessionIdentity) ←
    Calls.ask (LaunchCall.resolveByPid ctx.workerPid)
  -- a query that fails leaves the decision to PAM
  ensure (!(member matches .ok (some _))) (sessionFailed [] .workerAlreadyInLogindSession)
  bindListener ctx
  let allocated : Option Nat ← Calls.ask LaunchCall.allocateTerminal
  let vtnr ← require allocated (sessionFailed [] .openFailed)
  authenticateAndOpen ctx vtnr

end Niralis.WorkerLaunch
