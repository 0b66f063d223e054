import Niralis.RecoveryRecord

namespace Niralis

/-- The live boundary is kept as the identity it was prepared for; its system calls are answers. -/
structure SupervisorPreparedPayload where
  identity : PayloadScopeIdentity
  leaderPid : Nat
  controlGroup : Option String := none
  slice : Option String := none
  logind : SupervisorLogindSessionIdentity
  vt : SupervisorVtIdentity
  deriving DecidableEq, Repr

inductive SupervisorRetainedRecoveryIdentity
  | prePayload (previousVt : PreviousVtIdentity)
  | payload (payload : SupervisorPreparedPayload)
  | unavailable
  deriving DecidableEq, Repr

inductive SupervisorEmergencyRecoveryOutcome
  | recovered
  | quarantined (stage : EmergencyRecoveryStage) (reason : SupervisorRecoveryError)
  deriving DecidableEq, Repr

inductive SupervisorRecoveryState
  | workerSpawned (previousVt : PreviousVtIdentity)
  | payloadPrepared (payload : SupervisorPreparedPayload) (registrationNonce : String)
  | payloadRegistered (payload : SupervisorPreparedPayload) (registrationNonce : String)
  | payloadReleased (payload : SupervisorPreparedPayload)
  | started (payload : SupervisorPreparedPayload) (runtimeId : String)
  | workerExitedUnexpectedly (payload : SupervisorPreparedPayload)
      (classification : WorkerExitClassification)
  | emergencyRecovery (payload : SupervisorPreparedPayload)
      (classification : WorkerExitClassification)
  | recovered (outcome : SupervisorEmergencyRecoveryOutcome)
  | quarantined (stage : EmergencyRecoveryStage) (reason : SupervisorRecoveryError)
      (retainedIdentity : SupervisorRetainedRecoveryIdentity)
  deriving DecidableEq, Repr

namespace SupervisorRecoveryState

/-- The payload of the states in which a worker owns one. -/
def livePayload : SupervisorRecoveryState → Option SupervisorPreparedPayload
  | payloadPrepared payload _ => some payload
  | payloadRegistered payload _ => some payload
  | payloadReleased payload => some payload
  | started payload _ => some payload
  | workerExitedUnexpectedly payload _ => some payload
  | emergencyRecovery payload _ => some payload
  | _ => none

def placeholder : SupervisorRecoveryState :=
  quarantined .recoveryRecordValidation .invalidRecord .unavailable

end SupervisorRecoveryState

structure SupervisorSessionRecoveryRecord where
  lifecycleId : String
  workerPid : Nat
  launcherPid : Nat
  sessionName : String
  requestedUsername : String
  workerExitStatus : Option ExitStatus := none
  state : SupervisorRecoveryState
  deriving DecidableEq, Repr

structure StartedSession where
  username : String
  sessionId : String
  deriving DecidableEq, Repr

namespace SupervisorSessionRecoveryRecord

def workerSpawned (lifecycleId : String) (workerPid launcherPid : Nat) (session : StartedSession)
    (previousVt : PreviousVtIdentity) : SupervisorSessionRecoveryRecord where
  lifecycleId := lifecycleId
  workerPid := workerPid
  launcherPid := launcherPid
  sessionName := session.sessionId
  requestedUsername := session.username
  state := .workerSpawned previousVt

def phaseName (r : SupervisorSessionRecoveryRecord) : String :=
  match r.state with
  | .workerSpawned _ => "worker_spawned"
  | .payloadPrepared _ _ => "payload_prepared"
  | .payloadRegistered _ _ => "payload_registered"
  | .payloadReleased _ => "payload_released"
  | .started _ _ => "started"
  | .workerExitedUnexpectedly _ _ => "worker_exited_unexpectedly"
  | .emergencyRecovery _ _ => "emergency_recovery"
  | .recovered _ => "recovered"
  | .quarantined _ _ _ => "quarantined"

def payloadIdentity (r : SupervisorSessionRecoveryRecord) : Option PayloadScopeIdentity :=
  match r.state with
  | .quarantined _ _ (.payload payload) => some payload.identity
  | state => state.livePayload.map (·.identity)

def registrationNonce (r : SupervisorSessionRecoveryRecord) : Option String :=
  match r.state with
  | .payloadPrepared _ nonce => some nonce
  | .payloadRegistered _ nonce => some nonce
  | _ => none

def retainedIdentity (r : SupervisorSessionRecoveryRecord) : SupervisorRetainedRecoveryIdentity :=
  match r.state with
  | .workerSpawned previousVt => .prePayload previousVt
  | .quarantined _ _ retained => retained
  | state =>
    match state.livePayload with
    | some payload => .payload payload
    | none => .unavailable

def quarantine (r : SupervisorSessionRecoveryRecord) (stage : EmergencyRecoveryStage)
    (reason : SupervisorRecoveryError) : SupervisorSessionRecoveryRecord :=
  { r with state := .quarantined stage reason r.retainedIdentity }

end SupervisorSessionRecoveryRecord

def classifyWorkerExit (r : SupervisorSessionRecoveryRecord) (status : ExitStatus) :
    WorkerExitClassification :=
  match status.signal with
  | some signal => .killedBySignal signal
  | none =>
    match r.state with
    | .started _ _ => if status.success then .cleanFinalization else .unexpectedExitRunning
    | .payloadPrepared _ _ => .unexpectedExitBeforeStarted
    | .payloadRegistered _ _ => .unexpectedExitBeforeStarted
    | .payloadReleased _ => .failedAfterBoundaryCleanup
    | .workerExitedUnexpectedly _ classification => classification
    | .emergencyRecovery _ classification => classification
    | _ => .recoveryGateLost

def markWorkerExitedUnexpectedly (r : SupervisorSessionRecoveryRecord) (status : ExitStatus) :
    WorkerExitClassification × SupervisorSessionRecoveryRecord :=
  let classification := classifyWorkerExit r status
  match r.state with
  | .workerExitedUnexpectedly _ _ => (classification, r)
  | state =>
    match state.livePayload with
    | some payload =>
      (classification, { r with state := .workerExitedUnexpectedly payload classification })
    | none => (classification, r)

/-- What the boundary and logind answer when a finished worker is checked. -/
structure FinalizationAnswers where
  verifyEmpty : Except SupervisorRecoveryError Unit := .ok ()
  confirmLogindAbsent : Except SupervisorRecoveryError Bool := .ok true
  releaseLive : Except SupervisorRecoveryError Unit := .ok ()

def finalizePayload (a : FinalizationAnswers) : Except SupervisorRecoveryError Unit := do
  a.verifyEmpty
  let absent ← a.confirmLogindAbsent
  if absent then a.releaseLive else .error .logindIdentityChanged

def finalizeExpectedPrestartedExit (r : SupervisorSessionRecoveryRecord)
    (a : FinalizationAnswers) : Except SupervisorRecoveryError Unit :=
  match r.state with
  | .payloadReleased _ => finalizePayload a
  | _ => .error .invalidRecord

def finalizeCleanWorkerExit (r : SupervisorSessionRecoveryRecord) (status : ExitStatus)
    (a : FinalizationAnswers) : Except SupervisorRecoveryError Unit :=
  if !status.success then .error .invalidRecord
  else
    match r.state with
    | .started _ _ => finalizePayload a
    | _ => .error .invalidRecord

structure EmergencyAnswers where
  recoverLiveEmergency : Except SupervisorRecoveryError Unit := .ok ()
  releaseLive : Except SupervisorRecoveryError Unit := .ok ()
  cleanupLogind : Except SupervisorRecoveryError Unit := .ok ()
  recoverVt : Except SupervisorRecoveryError Unit := .ok ()

def boundaryErrorStage : SupervisorRecoveryError → EmergencyRecoveryStage
  | .busDeliveryIndeterminate => .emergencyKill
  | .boundaryObserverUnavailable => .boundaryObservation
  | .boundaryTimedOut => .boundaryObservation
  | .invalidPayloadIdentity => .payloadIdentityValidation
  | .boundaryIdentityChanged => .payloadIdentityValidation
  | .busUnavailable => .payloadIdentityValidation
  | .authorizationDenied _ _ => .payloadIdentityValidation
  | _ => .boundaryProof

def vtErrorStage : SupervisorRecoveryError → EmergencyRecoveryStage
  | .selinuxRestoreFailed _ => .selinuxTtyRestore
  | _ => .vtRecovery

/-- A failed release of the unit reference is reported last. -/
def recoverFromPayload (a : EmergencyAnswers) : SupervisorEmergencyRecoveryOutcome :=
  match a.recoverLiveEmergency with
  | .error reason => .quarantined (boundaryErrorStage reason) reason
  | .ok () =>
    match a.cleanupLogind with
    | .error reason => .quarantined .logindCleanup reason
    | .ok () =>
      match a.recoverVt with
      | .error reason => .quarantined (vtErrorStage reason) reason
      | .ok () =>
        match a.releaseLive with
        | .error reason => .quarantined .supervisorUnref reason
        | .ok () => .recovered

/-- `SupervisorEmergencyRecoveryCoordinator::recover` -/
def recoverEmergency (r : SupervisorSessionRecoveryRecord) (workerExit : ExitStatus)
    (a : EmergencyAnswers) :
    SupervisorEmergencyRecoveryOutcome × SupervisorSessionRecoveryRecord :=
  let exited := { r with workerExitStatus := some workerExit }
  match r.state.livePayload with
  | none => (.quarantined .recoveryRecordValidation .invalidRecord, exited)
  | some payload =>
    (recoverFromPayload a, { exited with
      state := .emergencyRecovery payload (classifyWorkerExit r workerExit) })

/-- `PersistentRecoveryRecord::prepared`, with the answer of `current_boot_id`. -/
def PersistentRecoveryRecord.prepared (id : String) (workerPid launcherPid : Nat)
    (previous : PreviousVtIdentity) (payload : SupervisorPreparedPayload)
    (bootId : Option String) : PersistentRecoveryRecord where
  lifecycleId := id
  sequence := 1
  createdBootId := bootId.getD "unavailable"
  lastUpdatedBootId := bootId.getD "unavailable"
  state := "payload_prepared"
  uid := payload.identity.expectedUid
  seat := payload.vt.seat
  workerPid := workerPid
  launcherPid := launcherPid
  leaderPid := some payload.leaderPid
  payloadUnit := some payload.identity.unitName
  transient := some true
  invocationId := some payload.identity.invocationId
  controlGroup := payload.controlGroup
  slice := payload.slice
  logindSessionId := some payload.identity.logindSessionId
  logindObjectPath := some payload.logind.objectPath
  targetVt := some payload.vt.number
  previousVt := some previous.number

section Identity
variable {r : SupervisorSessionRecoveryRecord} {payload : SupervisorPreparedPayload}

theorem payloadIdentity_of_live (h : r.state.livePayload = some payload) :
    r.payloadIdentity = some payload.identity := by
  unfold SupervisorSessionRecoveryRecord.payloadIdentity
  cases hs : r.state <;> rw [hs] at h <;> cases h <;> rfl

theorem payloadIdentity_quarantine (r : SupervisorSessionRecoveryRecord)
    (stage : EmergencyRecoveryStage) (reason : SupervisorRecoveryError) :
    (r.quarantine stage reason).payloadIdentity = r.payloadIdentity := by
  simp only [SupervisorSessionRecoveryRecord.payloadIdentity,
    SupervisorSessionRecoveryRecord.quarantine, SupervisorSessionRecoveryRecord.retainedIdentity]
  cases r.state with
  | quarantined s e retained => cases retained <;> rfl
  | _ => rfl

theorem payloadIdentity_markExited (r : SupervisorSessionRecoveryRecord) (status : ExitStatus) :
    (markWorkerExitedUnexpectedly r status).2.payloadIdentity = r.payloadIdentity := by
  simp only [markWorkerExitedUnexpectedly, SupervisorSessionRecoveryRecord.payloadIdentity]
  cases hs : r.state <;> simp [hs, SupervisorRecoveryState.livePayload]

theorem payloadIdentity_recover (r : SupervisorSessionRecoveryRecord) (status : ExitStatus)
    (a : EmergencyAnswers) : (recoverEmergency r status a).2.payloadIdentity = r.payloadIdentity := by
  unfold recoverEmergency
  cases hs : r.state.livePayload with
  | none => rfl
  | some payload => exact (payloadIdentity_of_live hs).symm

@[simp] theorem lifecycleId_markExited (status : ExitStatus) :
    (markWorkerExitedUnexpectedly r status).2.lifecycleId = r.lifecycleId := by
  simp only [markWorkerExitedUnexpectedly]
  cases r.state <;> rfl

@[simp] theorem workerPid_markExited (status : ExitStatus) :
    (markWorkerExitedUnexpectedly r status).2.workerPid = r.workerPid := by
  simp only [markWorkerExitedUnexpectedly]
  cases r.state <;> rfl

@[simp] theorem lifecycleId_recover (status : ExitStatus) (a : EmergencyAnswers) :
    (recoverEmergency r status a).2.lifecycleId = r.lifecycleId := by
  unfold recoverEmergency
  cases r.state.livePayload <;> rfl

@[simp] theorem workerPid_recover (status : ExitStatus) (a : EmergencyAnswers) :
    (recoverEmergency r status a).2.workerPid = r.workerPid := by
  unfold recoverEmergency
  cases r.state.livePayload <;> rfl

end Identity

end Niralis
