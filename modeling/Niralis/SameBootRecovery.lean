import Niralis.StartupProgram

namespace Niralis

inductive PersistedProcessIdentity
  | originalStillAlive
  | originalGone
  | pidReused
  | indeterminate
  deriving DecidableEq, Repr

/-- A call that is made only while its bus owner still holds, and after which the owner is asked
for again. -/
inductive CallAnswer
  | refused
  | answered (result : Except SupervisorRecoveryError Unit) (stillAuthorized : Bool)

/-- The emergency kill looks at the boundary once more before it calls. -/
inductive KillAnswer
  | refused
  | boundaryEmpty
  | called (result : Except SupervisorRecoveryError Unit) (ownerStillValid : Bool)

inductive StartupVtRecoveryState
  | recovered
  | needsRecovery
  deriving DecidableEq, Repr

/-- What the host answers in one reconciliation of one record. -/
structure SameBootHost where
  worker : PersistedProcessIdentity
  exitsOnSigterm : Bool
  workerAfterSigterm : PersistedProcessIdentity
  exitsOnSigkill : Bool
  leader : PersistedProcessIdentity
  ownerWatches : Bool
  /-- The control group systemd reports for the unit behind the invocation id. -/
  pin : Except SupervisorRecoveryError String
  absentBoundary : Except StartupRecoveryFailure Unit
  boundaryPopulated : Option Bool
  payloadOwnerStable : Bool
  emergencyKill : KillAnswer
  ownerAfterKill : Bool
  boundaryEmptied : Except StartupRecoveryFailure Unit
  proofOwnerStable : Bool
  boundaryProof : Except StartupRecoveryFailure Unit
  unrefOwnerValid : Bool
  unref : CallAnswer
  logindOwnerStable : Bool
  logindOwner : Bool
  sessionExists : Option Bool
  session : Option SupervisorLogindSessionIdentity
  logindAuthorized : Bool
  terminate : CallAnswer
  logindAuthorizedAfter : Bool
  logindOwnerSame : Bool
  vtState : Option StartupVtRecoveryState
  bootIdAtVt : Option String
  ttyContextRestored : Bool
  vtOwnerStable : Bool
  vtRecover : CallAnswer
  /-- What `inspect_vt_busy` finds when the kernel says that the terminal is busy. -/
  vtProvenance : VtBusyProvenance
  logindOwnerSameAtEnd : Bool

def logindSessionIdValid (value : String) : Bool :=
  value ≠ "" && value.utf8ByteSize ≤ 128 && !value.toList.contains '\x00'

structure RecoveryPinnedInvocationUnit where
  lifecycleId : String
  recordSequence : Nat
  invocationId : String
  controlGroup : String

namespace RecoveryPinnedInvocationUnit

def rehydrate (identity : PayloadScopeIdentity) (snapshot : RecoveryStateSnapshot)
    (observed : Except SupervisorRecoveryError String) :
    Except SupervisorRecoveryError RecoveryPinnedInvocationUnit :=
  let record := snapshot.record
  if !identity.validate || record.workerPid = 0 || record.launcherPid = 0 ||
      !snapshot.validates then .error .invalidPayloadIdentity
  else if record.invocationId ≠ some identity.invocationId ∨ record.controlGroup = none then
    .error .boundaryIdentityChanged
  else
    observed.map fun controlGroup =>
      ⟨record.lifecycleId, record.sequence, identity.invocationId, controlGroup⟩

def rebind (pin : RecoveryPinnedInvocationUnit) (snapshot : RecoveryStateSnapshot) :
    Option RecoveryPinnedInvocationUnit :=
  let record := snapshot.record
  if !snapshot.validates || pin.lifecycleId ≠ record.lifecycleId ||
      pin.invocationId ≠ record.invocationId.getD "" ||
      pin.controlGroup ≠ record.controlGroup.getD "" then none
  else some { pin with recordSequence := record.sequence }

/-- `validate_binding`, without the owner check at its end. -/
def bound (pin : RecoveryPinnedInvocationUnit) (snapshot : RecoveryStateSnapshot) : Bool :=
  let record := snapshot.record
  snapshot.validates && pin.lifecycleId = record.lifecycleId &&
    pin.recordSequence = record.sequence && pin.invocationId = record.invocationId.getD "" &&
    pin.controlGroup = record.controlGroup.getD ""

end RecoveryPinnedInvocationUnit

structure RecoveryBoundaryEmptyProof where
  bootId : String
  lifecycleId : String
  recordSequence : Nat
  invocationId : String
  controlGroup : String

structure AuthorizedRecoveryBoundaryProof where
  proof : RecoveryBoundaryEmptyProof
  authorizedSequence : Nat

namespace RecoveryBoundaryEmptyProof

def fromAbsentBoundary (snapshot : RecoveryStateSnapshot) : RecoveryBoundaryEmptyProof :=
  ⟨snapshot.currentBoot, snapshot.record.lifecycleId, snapshot.record.sequence,
    snapshot.record.invocationId.getD "", snapshot.record.controlGroup.getD ""⟩

def fromVerifiedBoundary (snapshot : RecoveryStateSnapshot) (pin : RecoveryPinnedInvocationUnit) :
    RecoveryBoundaryEmptyProof :=
  ⟨snapshot.currentBoot, snapshot.record.lifecycleId, snapshot.record.sequence,
    snapshot.record.invocationId.getD "", pin.controlGroup⟩

def matchesSnapshot (proof : RecoveryBoundaryEmptyProof) (snapshot : RecoveryStateSnapshot) :
    Bool :=
  proof.bootId = snapshot.currentBoot && proof.lifecycleId = snapshot.record.lifecycleId &&
    proof.recordSequence = snapshot.record.sequence &&
    proof.invocationId = snapshot.record.invocationId.getD "" &&
    proof.controlGroup = snapshot.record.controlGroup.getD ""

def authorize (proof : RecoveryBoundaryEmptyProof) (sequence : Nat) :
    AuthorizedRecoveryBoundaryProof :=
  ⟨{ proof with recordSequence := sequence }, sequence⟩

end RecoveryBoundaryEmptyProof

namespace AuthorizedRecoveryBoundaryProof

def authorizeNextSequence (p : AuthorizedRecoveryBoundaryProof) (sequence : Nat) :
    AuthorizedRecoveryBoundaryProof := p.proof.authorize sequence

def matchesSnapshot (p : AuthorizedRecoveryBoundaryProof) (snapshot : RecoveryStateSnapshot) :
    Bool :=
  p.authorizedSequence = snapshot.record.sequence && p.proof.bootId = snapshot.currentBoot &&
    p.proof.lifecycleId = snapshot.record.lifecycleId &&
    p.proof.invocationId = snapshot.record.invocationId.getD "" &&
    p.proof.controlGroup = snapshot.record.controlGroup.getD ""

def matchesPin (p : AuthorizedRecoveryBoundaryProof) (record : PersistentRecoveryRecord)
    (pin : RecoveryPinnedInvocationUnit) : Bool :=
  p.authorizedSequence = record.sequence && p.proof.recordSequence = record.sequence &&
    p.proof.invocationId = pin.invocationId && p.proof.controlGroup = pin.controlGroup

end AuthorizedRecoveryBoundaryProof

def validateVtIdentity (identity : SupervisorVtIdentity) : Bool :=
  identity.seat = "seat0" && 1 ≤ identity.number && identity.number ≤ 63 &&
    1 ≤ identity.previous.number && identity.previous.number ≤ 63 &&
    identity.number ≠ identity.previous.number && identity.deviceMajor = 4 &&
    identity.deviceMinor = identity.number

/-- `ValidatedRecoveryVtTarget::from_identity` accepts the identity. -/
def vtTargetValid (snapshot : RecoveryStateSnapshot) (identity : SupervisorVtIdentity)
    (proof : AuthorizedRecoveryBoundaryProof) : Bool :=
  validateVtIdentity identity && snapshot.validates && proof.matchesSnapshot snapshot &&
    identity.seat = snapshot.record.seat && some identity.number = snapshot.record.targetVt &&
    some identity.previous.number = snapshot.record.previousVt

/-- `ValidatedRecoveryLogindSession::from_identity` accepts the session. -/
def logindSessionValid (snapshot : RecoveryStateSnapshot)
    (identity : SupervisorLogindSessionIdentity) : Bool :=
  let record := snapshot.record
  snapshot.validates && identity.id = record.logindSessionId.getD "" &&
    identity.objectPath = record.logindObjectPath.getD "" && identity.seat = record.seat &&
    identity.leader = record.workerPid && some identity.vtNumber = record.targetVt

def persistedVtIdentity (record : PersistentRecoveryRecord) : Option SupervisorVtIdentity := do
  let target ← record.targetVt
  let previous ← record.previousVt
  some ⟨record.seat, target, ⟨previous⟩, 4, target⟩

section Worker
variable (record : PersistentRecoveryRecord) (host : SameBootHost)

def confirmRuntimeRelease (attempt : Nat) : StartupResult Unit :=
  persist record.lifecycleId (.operation .runtimeRelease (.confirmed attempt))
    .unsupportedRehydration

def forceWorkerExit (attempt : Nat) : StartupResult Unit :=
  match host.workerAfterSigterm with
  | .originalGone => confirmRuntimeRelease record attempt
  | .originalStillAlive => do
    .require host.exitsOnSigkill .workerIdentityIndeterminate
    confirmRuntimeRelease record attempt
  | .pidReused => .fail .workerIdentityIndeterminate
  | .indeterminate => .fail .workerIdentityIndeterminate

def runtimeReleaseStageSigtermInsufficient : Nat := 1

def signalWorker (attempt : Nat) : StartupResult Unit :=
  if host.exitsOnSigterm then confirmRuntimeRelease record attempt
  else do
    persist record.lifecycleId (.transitionWithOperation "started" .runtimeRelease
      (.indeterminate attempt runtimeReleaseStageSigtermInsufficient)) .unsupportedRehydration
    forceWorkerExit record host attempt

def recoverValidatedRuntimeRelease : StartupResult Unit :=
  match record.operationLedger.runtimeRelease with
  | .notStarted => do
    let attempt := saturatingAdd record.sequence 1
    persist record.lifecycleId (.operation .runtimeRelease (.intentPersisted attempt))
      .unsupportedRehydration
    signalWorker record host attempt
  | .intentPersisted attempt => signalWorker record host attempt
  | .indeterminate attempt _ => forceWorkerExit record host attempt
  | .confirmed _ => .fail .workerIdentityIndeterminate
  | .failed _ _ => .fail .workerIdentityIndeterminate

def settleWorker : StartupResult Unit :=
  match host.worker with
  | .originalStillAlive => recoverValidatedRuntimeRelease record host
  | .originalGone => pure ()
  | .pidReused => .fail .workerIdentityIndeterminate
  | .indeterminate => .fail .workerIdentityIndeterminate

end Worker

section Payload
variable (host : SameBootHost)

/-- The kill itself, once its intent is durable and the pin is bound to it. -/
def requestRecoveryEmergencyKill (pin : RecoveryPinnedInvocationUnit)
    (snapshot : RecoveryStateSnapshot) : StartupResult Unit := do
  .require (pin.bound snapshot) .boundaryIdentityChanged
  match host.emergencyKill with
  | .refused => .fail .boundaryIdentityChanged
  | .boundaryEmpty => pure ()
  | .called result ownerStillValid => do
    issue .payloadKill snapshot.record.lifecycleId
    .check (result.mapError fun _ => .boundaryIdentityChanged)
    .require ownerStillValid .boundaryIdentityChanged

def killPayload (snapshot : RecoveryStateSnapshot) (pin : RecoveryPinnedInvocationUnit) :
    StartupResult (RecoveryStateSnapshot × RecoveryPinnedInvocationUnit) := do
  .require host.payloadOwnerStable .systemdOwnerChanged
  .require (!snapshot.record.operationLedger.payloadKill.isUndecided) .boundaryIdentityChanged
  let attempt := saturatingAdd snapshot.record.sequence 1
  let next ← (persistRecoveryIntentFromSnapshot snapshot .payloadKill attempt).mapErr
    fun _ => StartupRecoveryFailure.unsupportedRehydration
  let pin ← .okOr (pin.rebind next) .boundaryIdentityChanged
  requestRecoveryEmergencyKill host pin next
  .require host.ownerAfterKill .systemdOwnerChanged
  .check host.boundaryEmptied
  persist next.record.lifecycleId (.operation .payloadKill (.confirmed attempt))
    .unsupportedRehydration
  let snapshot ← (refreshRecoverySnapshot next).mapErr
    fun _ => StartupRecoveryFailure.unsupportedRehydration
  let pin ← .okOr (pin.rebind snapshot) .boundaryIdentityChanged
  pure (snapshot, pin)

/-- The boundary's proof also compares two looks at the unit; they are one answer here. -/
def startupBoundaryProof (snapshot : RecoveryStateSnapshot) (pin : RecoveryPinnedInvocationUnit) :
    StartupResult RecoveryBoundaryEmptyProof := do
  .check host.boundaryProof
  .require snapshot.validates .boundaryIdentityChanged
  pure (.fromVerifiedBoundary snapshot pin)

def emptyPayloadBoundary (snapshot : RecoveryStateSnapshot) (pin : RecoveryPinnedInvocationUnit)
    (populated : Bool) : StartupResult (RecoveryStateSnapshot × RecoveryPinnedInvocationUnit) :=
  if populated then killPayload host snapshot pin else pure (snapshot, pin)

def reconcilePayload (snapshot : RecoveryStateSnapshot) (pin : RecoveryPinnedInvocationUnit) :
    StartupResult
      (RecoveryStateSnapshot × RecoveryPinnedInvocationUnit × RecoveryBoundaryEmptyProof) := do
  let populated ← .okOr host.boundaryPopulated .boundaryIdentityChanged
  let (snapshot, pin) ← emptyPayloadBoundary host snapshot pin populated
  .require (host.leader ≠ .originalStillAlive) .leaderIdentityIndeterminate
  .require host.proofOwnerStable .systemdOwnerChanged
  let proof ← startupBoundaryProof host snapshot pin
  pure (snapshot, pin, proof)

def persistRecoveryUnrefIntent (snapshot : RecoveryStateSnapshot)
    (proof : RecoveryBoundaryEmptyProof) (attempt : Nat) :
    IoResult (RecoveryStateSnapshot × AuthorizedRecoveryBoundaryProof) := do
  .require (snapshot.validates && proof.matchesSnapshot snapshot) ()
  let next ← persistRecoveryIntentFromSnapshot snapshot .supervisorUnref attempt
  pure (next, proof.authorize next.record.sequence)

def releaseRecovery (pin : RecoveryPinnedInvocationUnit) (snapshot : RecoveryStateSnapshot)
    (proof : AuthorizedRecoveryBoundaryProof) : StartupResult Unit := do
  .require (pin.bound snapshot && host.unrefOwnerValid) .boundaryIdentityChanged
  .require (proof.matchesPin snapshot.record pin) .boundaryIdentityChanged
  match host.unref with
  | .refused => .fail .boundaryIdentityChanged
  | .answered result _ => do
    issue .supervisorUnref snapshot.record.lifecycleId
    .check (result.mapError fun _ => .boundaryIdentityChanged)

def releasePin (snapshot : RecoveryStateSnapshot) (pin : RecoveryPinnedInvocationUnit)
    (proof : RecoveryBoundaryEmptyProof) :
    StartupResult (RecoveryStateSnapshot × AuthorizedRecoveryBoundaryProof) := do
  let attempt := saturatingAdd snapshot.record.sequence 1
  let (next, authorized) ← (persistRecoveryUnrefIntent snapshot proof attempt).mapErr
    fun _ => StartupRecoveryFailure.unsupportedRehydration
  let pin ← .okOr (pin.rebind next) .boundaryIdentityChanged
  releaseRecovery host pin next authorized
  persist next.record.lifecycleId (.operation .supervisorUnref (.confirmed attempt))
    .unsupportedRehydration
  let snapshot ← (refreshRecoverySnapshot next).mapErr
    fun _ => StartupRecoveryFailure.unsupportedRehydration
  pure (snapshot, authorized)

end Payload

section VirtualTerminal
variable (host : SameBootHost)

def recordVtBusy (id : String) (attempt : Nat) : StartupResult Unit := do
  persist id (.operation .vtDisallocate (.failed attempt ebusy)) .unsupportedRehydration
  persist id (.vtBusyProvenance host.vtProvenance) .unsupportedRehydration
  .fail .vtDisallocateBusy

/-- `SameBootVtEffects::recover`, and what its result makes durable. -/
def recoverVt (id : String) (attempt : Nat) : StartupResult Unit :=
  match host.vtRecover with
  | .refused => .fail .logindIdentityChanged
  | .answered result stillAuthorized => do
    issue .vtDisallocate id
    match stillAuthorized, result with
    | false, _ => .fail .logindIdentityChanged
    | true, .ok _ =>
      persist id (.operation .vtDisallocate (.confirmed attempt)) .unsupportedRehydration
    | true, .error .vtDisallocateBusy => recordVtBusy host id attempt
    | true, .error _ => .fail .logindIdentityChanged

def disallocateVt (snapshot : RecoveryStateSnapshot) (vt : SupervisorVtIdentity)
    (proof : AuthorizedRecoveryBoundaryProof) : StartupResult Unit := do
  let attempt := saturatingAdd snapshot.record.sequence 3
  .require host.vtOwnerStable .systemdOwnerChanged
  .require (vtTargetValid snapshot vt proof) .boundaryIdentityChanged
  let next ← (persistRecoveryIntentFromSnapshot snapshot .vtDisallocate attempt).mapErr
    fun _ => StartupRecoveryFailure.unsupportedRehydration
  .require (vtTargetValid next vt (proof.authorizeNextSequence next.record.sequence))
    .boundaryIdentityChanged
  recoverVt host next.record.lifecycleId attempt

def reconcileStartupVt (snapshot : RecoveryStateSnapshot)
    (proof : AuthorizedRecoveryBoundaryProof) : StartupResult Unit := do
  let vt ← .okOr (persistedVtIdentity snapshot.record) .logindIdentityChanged
  match snapshot.record.operationLedger.vtDisallocate with
  | .confirmed _ => pure ()
  | .failed _ failureClass =>
    .fail (if failureClass = ebusy then .vtDisallocateBusy else .logindIdentityChanged)
  | .intentPersisted _ => .fail .logindIdentityChanged
  | .indeterminate _ _ => .fail .logindIdentityChanged
  | .notStarted => disallocateVt host snapshot vt proof

end VirtualTerminal

section Logind
variable (host : SameBootHost)

/-- The session logind resolves is the one the record names. -/
def sessionMatchesRecord (record : PersistentRecoveryRecord)
    (session : SupervisorLogindSessionIdentity) : Bool :=
  some session.objectPath = record.logindObjectPath && session.uid = record.uid &&
    session.leader = record.workerPid && session.seat = record.seat &&
    some session.vtNumber = record.targetVt

def terminateFailure : SupervisorRecoveryError → StartupRecoveryFailure
  | .logindCleanupIndeterminate => .logindOwnerChanged
  | .logindOwnerChanged => .logindOwnerChanged
  | _ => .logindIdentityChanged

def terminateSession (id : String) : StartupResult Unit :=
  match host.terminate with
  | .refused => .fail .logindOwnerChanged
  | .answered result stillAuthorized => do
    issue .logindTermination id
    .check (result.mapError terminateFailure)
    .require stillAuthorized .logindOwnerChanged

def terminateLogindSession (snapshot : RecoveryStateSnapshot) :
    StartupResult RecoveryStateSnapshot := do
  let record := snapshot.record
  .require (record.payloadUnit.isSome && record.invocationId.isSome) .logindIdentityChanged
  let session ← .okOr host.session .logindIdentityChanged
  .require (sessionMatchesRecord record session) .logindIdentityChanged
  .require (logindSessionValid snapshot session) .logindIdentityChanged
  .require host.logindAuthorized .logindOwnerChanged
  let attempt := saturatingAdd record.sequence 2
  let next ← (persistRecoveryIntentFromSnapshot snapshot .logindTermination attempt).mapErr
    fun _ => StartupRecoveryFailure.unsupportedRehydration
  .require (logindSessionValid next session) .logindIdentityChanged
  terminateSession host next.record.lifecycleId
  .require host.logindAuthorizedAfter .logindOwnerChanged
  persist next.record.lifecycleId (.operation .logindTermination (.confirmed attempt))
    .unsupportedRehydration
  (refreshRecoverySnapshot next).mapErr fun _ => StartupRecoveryFailure.unsupportedRehydration

def removeLogindSession (snapshot : RecoveryStateSnapshot) (exists_ : Bool) :
    StartupResult RecoveryStateSnapshot :=
  if exists_ then terminateLogindSession host snapshot else pure snapshot

def reconcileLogindAndVt (snapshot : RecoveryStateSnapshot)
    (proof : AuthorizedRecoveryBoundaryProof) : StartupResult Unit := do
  .require (host.logindOwnerStable && host.logindOwner) .logindOwnerChanged
  .require (snapshot.record.logindSessionId.any logindSessionIdValid) .logindIdentityChanged
  let sessionExists ← .okOr host.sessionExists .logindOwnerChanged
  let snapshot ← removeLogindSession host snapshot sessionExists
  .require host.logindOwnerSame .logindOwnerChanged
  reconcileStartupVt host snapshot proof

def confirmDefaultTtyContext (record : PersistentRecoveryRecord) : StartupResult Unit :=
  match record.operationLedger.selinuxRestore with
  | .notStarted => do
    let attempt := saturatingAdd record.sequence 1
    persist record.lifecycleId (.operation .selinuxRestore (.intentPersisted attempt))
      .unsupportedRehydration
    .require host.ttyContextRestored .logindIdentityChanged
    persist record.lifecycleId (.operation .selinuxRestore (.confirmed attempt))
      .unsupportedRehydration
  | .confirmed _ => pure ()
  | .intentPersisted _ => .fail .logindIdentityChanged
  | .failed _ _ => .fail .logindIdentityChanged
  | .indeterminate _ _ => .fail .logindIdentityChanged

def recoverAbsentBoundaryVt (record : PersistentRecoveryRecord) :
    StartupVtRecoveryState → StartupResult Unit
  | .recovered => confirmDefaultTtyContext host record
  | .needsRecovery => do
    let boot ← .okOr host.bootIdAtVt .logindOwnerChanged
    .require (bootIdentityValid boot) .logindOwnerChanged
    let snapshot ← Attempt.okOr (RecoveryStateSnapshot.fromRecord boot record)
      .logindOwnerChanged
    reconcileStartupVt host snapshot
      ((RecoveryBoundaryEmptyProof.fromAbsentBoundary snapshot).authorize
        snapshot.record.sequence)

/-- Inspecting the terminal also validates its identity. -/
def confirmAbsentBoundaryLogindAndVt (record : PersistentRecoveryRecord) :
    StartupResult Unit := do
  .require (host.logindOwnerStable && host.logindOwner) .logindOwnerChanged
  .require record.logindSessionId.isSome .logindIdentityChanged
  let sessionExists ← .okOr host.sessionExists .logindOwnerChanged
  .require (!sessionExists) .logindIdentityChanged
  .require host.logindOwnerSame .logindOwnerChanged
  let vt ← .okOr (persistedVtIdentity record) .logindIdentityChanged
  .require (validateVtIdentity vt) .logindIdentityChanged
  let state ← .okOr host.vtState .logindIdentityChanged
  recoverAbsentBoundaryVt host record state
  .require host.logindOwnerSameAtEnd .logindOwnerChanged

end Logind

def proveStartupAbsentBoundary (record : PersistentRecoveryRecord) (identity : PayloadScopeIdentity)
    (host : SameBootHost) : StartupResult Unit := do
  let slice := "user-" ++ toString identity.expectedUid ++ ".slice"
  .require (host.leader ≠ .originalStillAlive && record.transient = some true &&
    record.payloadUnit = some identity.unitName &&
    record.controlGroup = some ("/user.slice/" ++ slice ++ "/" ++ identity.unitName) &&
    record.slice = some slice) .boundaryIdentityChanged
  .check host.absentBoundary

/-- `PayloadScopeIdentity` of the record, with the checks before it. -/
def recordedIdentity (record : PersistentRecoveryRecord) :
    Except StartupRecoveryFailure PayloadScopeIdentity :=
  match record.payloadUnit, record.invocationId, record.logindSessionId with
  | none, _, _ => .error .boundaryIdentityChanged
  | some _, none, _ => .error .boundaryIdentityChanged
  | some _, some _, none => .error .logindIdentityChanged
  | some unitName, some invocationId, some sessionId =>
    if !logindSessionIdValid sessionId then .error .logindIdentityChanged
    else
      let identity := ⟨unitName, invocationId, record.uid, sessionId⟩
      if record.transient ≠ some true ∨ !identity.validate then .error .boundaryIdentityChanged
      else .ok identity

def reconcileWithPin (host : SameBootHost) (snapshot : RecoveryStateSnapshot)
    (pin : RecoveryPinnedInvocationUnit) : StartupResult Unit := do
  let (snapshot, pin, proof) ← reconcilePayload host snapshot pin
  let (snapshot, authorized) ← releasePin host snapshot pin proof
  reconcileLogindAndVt host snapshot authorized

/-- Success stands for `StartupRecoveryOutcome::Free`, failure for `Quarantined`. -/
def reconcileSameBootRecord (host : SameBootHost) (snapshot : RecoveryStateSnapshot) :
    StartupResult Unit := do
  let record := snapshot.record
  .require snapshot.validates .boundaryIdentityChanged
  settleWorker record host
  .require (record.leaderPid.isSome && host.leader ≠ .indeterminate) .leaderIdentityIndeterminate
  let identity ← .check (recordedIdentity record)
  .require host.ownerWatches .systemdOwnerChanged
  match RecoveryPinnedInvocationUnit.rehydrate identity snapshot host.pin with
  | .ok pin => reconcileWithPin host snapshot pin
  | .error .boundaryIdentityChanged => do
    proveStartupAbsentBoundary record identity host
    confirmAbsentBoundaryLogindAndVt host record
  | .error .busUnavailable => .fail .systemdOwnerChanged
  | .error (.authorizationDenied _ _) => .fail .systemdOwnerChanged
  | .error _ => .fail .boundaryIdentityChanged

/-- The states whose records are left to the administrator. -/
def preservesQuarantine (record : PersistentRecoveryRecord) : Bool :=
  record.state = "quarantined" || record.state = "vt_disallocate_failed_busy"

def canRetryCoherentAbsentBoundary (record : PersistentRecoveryRecord) : Bool :=
  record.state = "quarantined" &&
    (record.quarantineReason = some "boundary_identity_changed" ||
      record.quarantineReason = some "logind_identity_changed") &&
    record.operationLedger = {}

/-- `provider.reconcile_startup`, and what its outcome makes of the record. -/
def reconcileThroughProvider (host : SameBootHost) (currentBoot : String)
    (record : PersistentRecoveryRecord) : StartupM Unit :=
  Program.bind (reconcileSameBootRecord host ⟨record, currentBoot⟩) fun
    | .ok _ => finalizeOrQuarantine record.lifecycleId
    | .error reason => quarantineStartupRecord record.lifecycleId reason

/-- An administrative attempt whose outcome was never recorded. -/
def undecidedVtAttempt (record : PersistentRecoveryRecord) : Option VtRecoveryAttempt :=
  record.vtRecoveryAttempts.getLast?.filter (·.state = .intentPersisted)

/-- The body of the startup loop for a record of the current boot. -/
def reconcileSameBootEntry (host : SameBootHost) (currentBoot : String) (blocked conflicted : Bool)
    (record : PersistentRecoveryRecord) : StartupM Unit :=
  match undecidedVtAttempt record with
  | some attempt =>
    .ask (.write record.lifecycleId (.finishVtRecoveryAttempt attempt.attemptId .indeterminate none))
      fun _ _ => .ask (.countQuarantined record.lifecycleId) fun _ _ => .done ()
  | none =>
    if blocked then quarantineStartupRecord record.lifecycleId .unknownPayloadScope
    else if record.state = "record_resolved" ∨ record.state = "cleared_by_boot_boundary" then
      finalizeOrQuarantine record.lifecycleId
    else if conflicted then
      quarantineStartupRecord record.lifecycleId .persistentRecordConflict
    else if preservesQuarantine record && !canRetryCoherentAbsentBoundary record then
      .ask (.countQuarantined record.lifecycleId) fun _ _ => .done ()
    else reconcileThroughProvider host currentBoot record

end Niralis
