import Niralis.LedgerFrames
import Niralis.SeatAdmission
import Niralis.Slots
import Niralis.SupervisorRecord

namespace Niralis

inductive PendingReleaseState
  | notRequested
  | requested (nonce : String)
  | recoveryRequired (reason : PayloadScopeRecoveryReason)
  deriving DecidableEq, Repr

/-- `childPid` is the id of the child process, 0 if its lock cannot be taken. -/
structure PendingWorkerLifecycle where
  record : SupervisorSessionRecoveryRecord
  childPid : Nat
  release : PendingReleaseState
  generation : Nat
  terminalBeforeStarted : Bool
  deriving DecidableEq, Repr

def PendingWorkerLifecycle.withState (e : PendingWorkerLifecycle)
    (state : SupervisorRecoveryState) : PendingWorkerLifecycle :=
  { e with record.state := state }

structure SupervisedWorker where
  admission : RunningSeatReceipt
  record : SupervisorSessionRecoveryRecord
  childPid : Nat
  sessionPid : Nat
  workerId : String
  registrationNonce : String
  terminalVtReportedBusy : Bool
  deriving DecidableEq, Repr

/-- The startup marks of the precommit store, all that admission reads of it. -/
structure PreCommitRuntimeMarks where
  startupQuarantined : Bool := false
  startupQuarantinedSeats : List String := []
  deriving DecidableEq, Repr

structure AcceptedWorker where
  lifecycleId : String
  workerPid : Nat
  deriving DecidableEq, Repr

/-- Not part of the source's state: what happened so far. `payloads` are the payloads the provider
prepared, `finished` the lifecycles after whose recovery the seat was released. -/
structure SupervisorHistory where
  admitted : List String := []
  accepted : List AcceptedWorker := []
  payloads : List (String × PayloadScopeIdentity) := []
  finished : List String := []

structure SupervisorLoopState where
  processId : Nat
  children : List SupervisedWorker := []
  pending : List PendingWorkerLifecycle := []
  quarantined : List SupervisorSessionRecoveryRecord := []
  admission : SeatAdmissionController
  ledger : Option PersistentRecoveryLedger := none
  precommitStore : Option PreCommitRuntimeMarks := none
  history : SupervisorHistory := {}

inductive TransactionPhase
  | reserved
  | authenticated
  | prepared
  | committed
  deriving DecidableEq, Repr

/-- The login transaction of a pending launch; its lease is taken out once. -/
structure PendingLaunchTransaction where
  lifecycleId : String
  phase : TransactionPhase := .prepared
  pendingLease : Option PendingLifecycleLease
  deriving DecidableEq, Repr

def PendingLaunchTransaction.commit (t : PendingLaunchTransaction) (c : SeatAdmissionController)
    (recovery : RecoveryAdmissionState) (removed : Bool)
    (handoff : Except Unit PreCommitRuntimeBinding) :
    Except SessionError LaunchCommitReceipt × SeatAdmissionController :=
  if t.phase ≠ .prepared then (.error .workerProtocolFailed, c)
  else
    match t.pendingLease with
    | none => (.error .workerProtocolFailed, c)
    | some lease =>
      match c.commit lease recovery with
      | (.error (e, lease), c) => (.error e, (c.cancel (.pending lease) removed).2)
      | (.ok receipt, c) =>
        match receipt.markPrecommitHandoffCommitted handoff with
        | (.error e, _) => (.error e, c)
        | (.ok (), receipt) => (.ok receipt, c)

/-- What the file system answers when a record is resolved and removed. -/
structure ResolveAnswers where
  resolve : WriteAnswer
  remove : RemoveAnswer := .synced

/-- Without a ledger every durable operation is a success. -/
def onLedger (ledger : Option PersistentRecoveryLedger)
    (f : PersistentRecoveryLedger → Bool × PersistentRecoveryLedger) :
    Bool × Option PersistentRecoveryLedger :=
  match ledger with
  | none => (true, none)
  | some l => ((f l).1, some (f l).2)

def transitionIn (ledger : Option PersistentRecoveryLedger) (id state : String)
    (answer : WriteAnswer) : Bool × Option PersistentRecoveryLedger :=
  onLedger ledger (·.transition id state answer)

def resolveIn (ledger : Option PersistentRecoveryLedger) (id : String) (answer : ResolveAnswers) :
    Bool × Option PersistentRecoveryLedger :=
  onLedger ledger (·.resolveAndRemove id answer.resolve answer.remove)

def createIn (ledger : Option PersistentRecoveryLedger) (r : PersistentRecoveryRecord)
    (answer : CommitAnswer) : Bool × Option PersistentRecoveryLedger :=
  onLedger ledger (·.create r answer)

section Messages

structure SpawnedWorker where
  workerPid : Nat
  launcherPid : Nat
  childPid : Nat
  session : StartedSession

/-- What the provider, the boot id file and the file system answer to a prepared scope. -/
structure PreparedScopeAnswers where
  preparePayload : Except SupervisorRecoveryError SupervisorPreparedPayload
  bootId : Option String
  create : CommitAnswer := .synced

def nonceValid (nonce : String) : Bool := nonce ≠ "" && nonce.utf8ByteSize ≤ 128

structure ReleaseRequest where
  workerId : String
  workerPid : Nat
  registrationNonce : String
  releaseNonce : String
  identity : PayloadScopeIdentity
  deriving DecidableEq, Repr

structure ReleaseToken where
  workerId : String
  workerPid : Nat
  registrationNonce : String
  releaseNonce : String
  identity : PayloadScopeIdentity
  generation : Nat
  deriving DecidableEq, Repr

/-- The entry may still be released, or is being released under the same nonce. -/
def releasable (e : PendingWorkerLifecycle) (request : ReleaseRequest) : Bool :=
  !e.terminalBeforeStarted && e.record.payloadIdentity = some request.identity &&
    e.record.registrationNonce = some request.registrationNonce &&
    (e.release = .notRequested || e.release = .requested request.releaseNonce)

def tokenMatches (token : ReleaseToken) (e : PendingWorkerLifecycle) : Bool :=
  e.record.lifecycleId = token.workerId && e.record.workerPid = token.workerPid &&
    e.generation = token.generation && e.record.payloadIdentity = some token.identity &&
    e.record.registrationNonce = some token.registrationNonce &&
    e.release = .requested token.releaseNonce

/-- What the child, the provider and the file system answer when a pending worker is given up. -/
structure AbortAnswers where
  reap : Option ExitStatus
  finalization : FinalizationAnswers := {}
  emergency : EmergencyAnswers := {}
  prePayload : Except SupervisorRecoveryError Unit := .ok ()
  started : WriteAnswer
  busy : WriteAnswer
  resolve : ResolveAnswers
  removed : Bool := true

/-- The exit was expected and, where there is a payload, verified. -/
def expectedCleanupVerified (entry : PendingWorkerLifecycle) (expectedClean : Bool)
    (a : AbortAnswers) : Bool :=
  expectedClean && (entry.record.payloadIdentity.isNone ||
    (finalizeExpectedPrestartedExit entry.record a.finalization).isOk)

structure RunningRegistration where
  transaction : PendingLaunchTransaction
  runtimeId : String
  sessionPid : Nat
  workerId : String
  logindSessionId : String
  payloadScope : PayloadScopeIdentity
  registrationNonce : String

/-- `removedPending` and `removedCommitted` are the precommit store's answers to the removal of a
cancelled and of a promoted launch, `cloned` that of the control channel. -/
structure RegistrationAnswers where
  started : WriteAnswer
  handoff : Except Unit PreCommitRuntimeBinding
  removedPending : Bool := true
  removedCommitted : Bool := true
  cloned : Bool := true

def registrable (r : RunningRegistration) (e : PendingWorkerLifecycle) : Bool :=
  e.record.lifecycleId = r.workerId && e.record.workerPid = e.childPid &&
    e.record.payloadIdentity = some r.payloadScope && e.release = .notRequested &&
    !e.terminalBeforeStarted &&
    (match e.record.state with
      | .payloadRegistered _ _ => true
      | _ => false)

structure ExitAnswers where
  finalization : FinalizationAnswers := {}
  resolve : ResolveAnswers
  exited : WriteAnswer
  emergency : EmergencyAnswers := {}
  busy : WriteAnswer

end Messages

namespace SupervisorLoopState

section Construction

def new (processId : Nat) (ledger : Option PersistentRecoveryLedger)
    (precommitStore : Option PreCommitRuntimeMarks) : SupervisorLoopState where
  processId := processId
  admission := .new "seat0" <|
    match ledger with
    | none => .free
    | some l =>
      if l.startupQuarantined || l.recordSet.globalQuarantine ||
          l.seatStartupQuarantined "seat0" || l.recordSet.seatBlocked "seat0" then
        .quarantined "consolidated-recovery-seat0" .recoveryRecordValidation .unknownPayloadScope
      else .free
  ledger := ledger
  precommitStore := precommitStore

def recoveryAdmissionState (s : SupervisorLoopState) (seat : String) : RecoveryAdmissionState :=
  match s.ledger with
  | none => .clear
  | some l =>
    if l.startupQuarantined || l.recordSet.globalQuarantine then
      .globallyBlocked "recovery_global_quarantine"
    else if s.precommitStore.any (·.startupQuarantined) then
      .globallyBlocked "precommit_runtime_quarantine"
    else if s.precommitStore.any (·.startupQuarantinedSeats.contains seat) then
      .seatBlocked seat "precommit_runtime_seat_blocked"
    else if l.seatStartupQuarantined seat || l.recordSet.seatBlocked seat then
      .seatBlocked seat "recovery_seat_blocked"
    else .clear

end Construction

section Ledger

def persistTransition (s : SupervisorLoopState) (id state : String) (answer : WriteAnswer) :
    Bool × SupervisorLoopState :=
  let (ok, ledger) := transitionIn s.ledger id state answer
  (ok, { s with ledger })

def persistResolve (s : SupervisorLoopState) (id : String) (answer : ResolveAnswers) :
    Bool × SupervisorLoopState :=
  let (ok, ledger) := resolveIn s.ledger id answer
  (ok, { s with ledger })

def persistNewRecord (s : SupervisorLoopState) (r : PersistentRecoveryRecord)
    (answer : CommitAnswer) : Bool × SupervisorLoopState :=
  let (ok, ledger) := createIn s.ledger r answer
  (ok, { s with ledger })

end Ledger

section Release

/-- An admission call that gives the seat back at the end of a lifecycle. -/
def releaseSeat (s : SupervisorLoopState) (id : String)
    (result : Except SessionError Unit × SeatAdmissionController) : SupervisorLoopState :=
  match result with
  | (.ok (), admission) =>
    { s with admission, history.finished := id :: s.history.finished }
  | (.error _, admission) => { s with admission }

end Release

section Reservation

/-- `created` is the answer of the precommit store's `create_reserved`. -/
def reserveSeat (s : SupervisorLoopState) (lifecycleId : String)
    (previousVt : Option PreviousVtIdentity) (created : Option PreCommitRuntimeBinding) :
    Except SessionError AdmissionLease × SupervisorLoopState :=
  if !s.admission.isFree then (.error .sessionSeatUnavailable, s)
  else
    match previousVt with
    | none => (.error .workerIoFailed, s)
    | some vt =>
      match s.admission.reserve lifecycleId (s.recoveryAdmissionState "seat0") vt with
      | (.error e, admission) => (.error e, { s with admission })
      | (.ok lease, admission) =>
        let s := { s with admission, history.admitted := lifecycleId :: s.history.admitted }
        match s.precommitStore with
        | none => (.ok lease, s)
        | some _ =>
          match created with
          | none => (.error .persistentRecoveryUnavailable, s)
          | some binding => (lease.attachPrecommitRuntime binding, s)

/-- The reservation guard is the only sender, so that the lease is a reserved one. -/
def cancelAdmission (s : SupervisorLoopState) (lease : AdmissionLease) (removed : Bool) :
    Except SessionError Unit × SupervisorLoopState :=
  let (result, admission) := s.admission.cancel (.reserved lease) removed
  (result, { s with admission })

def beginPending (s : SupervisorLoopState) (lease : AdmissionLease) (worker : SpawnedWorker)
    (removed : Bool) : Except SessionError PendingLifecycleLease × SupervisorLoopState :=
  if worker.workerPid = 0 || worker.launcherPid ≠ s.processId ||
      s.pending.any (·.record.lifecycleId = lease.lifecycleId) then
    (.error .sessionSeatUnavailable, (s.cancelAdmission lease removed).2)
  else
    match s.admission.promote lease (s.recoveryAdmissionState "seat0") with
    | (.error (e, lease), admission) =>
      (.error e, ({ s with admission }.cancelAdmission lease removed).2)
    | (.ok (pendingLease, previousVt), admission) =>
      (.ok pendingLease, { s with
        admission
        pending := s.pending ++ [{
          record := .workerSpawned lease.lifecycleId worker.workerPid worker.launcherPid
            worker.session previousVt
          childPid := worker.childPid
          release := .notRequested
          generation := 0
          terminalBeforeStarted := false }]
        history.accepted := ⟨lease.lifecycleId, worker.workerPid⟩ :: s.history.accepted })

end Reservation

section Pending

def recordPreparedScope (s : SupervisorLoopState) (workerId : String) (workerPid : Nat)
    (registrationNonce : String) (a : PreparedScopeAnswers) :
    Except SessionError Unit × SupervisorLoopState :=
  match Slot.first (fun e => e.record.lifecycleId = workerId && e.record.workerPid = workerPid)
      s.pending with
  | none => (.error .workerProtocolFailed, s)
  | some slot =>
    let entry := slot.entry
    if entry.terminalBeforeStarted || entry.release ≠ .notRequested ||
        !nonceValid registrationNonce then (.error .workerProtocolFailed, s)
    else
      match entry.record.state with
      | .workerSpawned previousVt =>
        match a.preparePayload with
        | .ok payload =>
          let durable := PersistentRecoveryRecord.prepared entry.record.lifecycleId workerPid
            entry.record.launcherPid previousVt payload a.bootId
          let (created, s) := s.persistNewRecord durable a.create
          let history := { s.history with
            payloads := (entry.record.lifecycleId, payload.identity) :: s.history.payloads }
          if created then
            (.ok (), { s with
              history
              pending := slot.put { entry.withState (.payloadPrepared payload registrationNonce)
                with generation := wrappingAdd entry.generation 1 } })
          else
            -- the early return leaves the taken state's placeholder, and drops the payload
            (.error .persistentRecoveryUnavailable, { s with
              history
              pending := slot.put (entry.withState .placeholder) })
        | .error _ =>
          (.error .workerProtocolFailed, { s with
            pending := slot.put { entry.withState (.quarantined .payloadIdentityValidation
                .invalidPayloadIdentity (.prePayload previousVt)) with
              terminalBeforeStarted := true }
            admission := (s.admission.quarantinePendingLifecycle workerId
              .payloadIdentityValidation .invalidPayloadIdentity).2 })
      | _ => (.error .workerProtocolFailed, s)

def markPayloadRegistered (s : SupervisorLoopState) (workerId : String) (workerPid : Nat)
    (answer : WriteAnswer) : Except SessionError Unit × SupervisorLoopState :=
  match Slot.first (fun e => e.record.lifecycleId = workerId && e.record.workerPid = workerPid)
      s.pending with
  | none => (.error .workerProtocolFailed, s)
  | some slot =>
    match slot.entry.record.state with
    | .payloadPrepared payload nonce =>
      let s := { s with
        pending := slot.put (slot.entry.withState (.payloadRegistered payload nonce)) }
      let (ok, s) := s.persistTransition workerId "payload_registered" answer
      (if ok then .ok () else .error .persistentRecoveryUnavailable, s)
    | _ => (.error .workerProtocolFailed, s)

def beginRelease (s : SupervisorLoopState) (request : ReleaseRequest) :
    Except SessionError ReleaseToken × SupervisorLoopState :=
  match Slot.first (fun e => e.record.lifecycleId = request.workerId &&
      e.record.workerPid = request.workerPid) s.pending with
  | none => (.error .workerProtocolFailed, s)
  | some slot =>
    if !releasable slot.entry request then (.error .workerProtocolFailed, s)
    else
      let generation := wrappingAdd slot.entry.generation 1
      (.ok ⟨request.workerId, request.workerPid, request.registrationNonce, request.releaseNonce,
          request.identity, generation⟩,
        { s with pending := slot.put { slot.entry with
          release := .requested request.releaseNonce, generation } })

def completeRelease (s : SupervisorLoopState) (token : ReleaseToken)
    (verification : ScopeReleaseVerification) (answer : WriteAnswer) :
    Except SessionError Unit × SupervisorLoopState :=
  match Slot.first (tokenMatches token) s.pending with
  | none => (.error .workerProtocolFailed, s)
  | some slot =>
    match verification with
    | .recoveryRequired reason =>
      (.ok (), { s with pending := slot.put { slot.entry with
        release := .recoveryRequired reason, terminalBeforeStarted := true } })
    | .released =>
      let released (payload : SupervisorPreparedPayload) :
          Except SessionError Unit × SupervisorLoopState :=
        let s := { s with pending := slot.put (slot.entry.withState (.payloadReleased payload)) }
        let (ok, s) := s.persistTransition token.workerId "payload_boundary_proven_empty" answer
        (if ok then .ok () else .error .persistentRecoveryUnavailable, s)
      match slot.entry.record.state with
      | .payloadPrepared payload _ => released payload
      | .payloadRegistered payload _ => released payload
      | _ => (.error .workerProtocolFailed, s)

end Pending

section Abort

def recoverPayloadEntry (s : SupervisorLoopState) (entry : PendingWorkerLifecycle)
    (status : ExitStatus) (recovery : RecoverySeatReceipt) (a : AbortAnswers) :
    Except SessionError Unit × SupervisorLoopState :=
  let id := entry.record.lifecycleId
  let s := (s.persistTransition id "emergency_recovery_started" a.started).2
  match recoverEmergency entry.record status a.emergency with
  | (.recovered, _) =>
    match s.persistResolve id a.resolve with
    | (false, s) => (.error .persistentRecoveryUnavailable, s)
    | (true, s) =>
      let result := s.admission.releaseAfterA3Finalization recovery
      (result.1, s.releaseSeat id result)
  | (.quarantined stage reason, record) =>
    let s := if reason = .vtDisallocateBusy then
      (s.persistTransition id "vt_disallocate_failed_busy" a.busy).2 else s
    match s.admission.enterQuarantineFromRecovery recovery stage reason with
    | (.error e, admission) => (.error e, { s with admission })
    | (.ok (), admission) =>
      (.error .workerRecoveryIncomplete, { s with
        admission, quarantined := s.quarantined ++ [record.quarantine stage reason] })

def quarantinePrePayload (s : SupervisorLoopState) (entry : PendingWorkerLifecycle)
    (stage : EmergencyRecoveryStage) (reason : SupervisorRecoveryError)
    (recovery : RecoverySeatReceipt) : Except SessionError Unit × SupervisorLoopState :=
  match s.admission.enterQuarantineFromRecovery recovery stage reason with
  | (.error e, admission) => (.error e, { s with admission })
  | (.ok (), admission) =>
    (.error .workerRecoveryIncomplete, { s with
      admission, quarantined := s.quarantined ++ [entry.record.quarantine stage reason] })

def recoverPrePayloadEntry (s : SupervisorLoopState) (entry : PendingWorkerLifecycle)
    (recovery : RecoverySeatReceipt) (a : AbortAnswers) :
    Except SessionError Unit × SupervisorLoopState :=
  match entry.record.state with
  | .workerSpawned _ =>
    match a.prePayload with
    | .ok () =>
      let result := s.admission.releaseAfterA3Finalization recovery
      (result.1, s.releaseSeat entry.record.lifecycleId result)
    | .error reason => s.quarantinePrePayload entry .logindCleanup reason recovery
  | _ => s.quarantinePrePayload entry .recoveryRecordValidation .invalidRecord recovery

/-- What happens to an entry taken out of the table, once its worker is reaped. -/
def settlePending (s : SupervisorLoopState) (lease : PendingLifecycleLease)
    (entry : PendingWorkerLifecycle) (expectedClean : Bool) (status : ExitStatus)
    (a : AbortAnswers) : Except SessionError Unit × SupervisorLoopState :=
  if expectedCleanupVerified entry expectedClean a then
    let s := (s.persistResolve lease.lifecycleId a.resolve).2
    (.ok (), s.releaseSeat entry.record.lifecycleId (s.admission.cancel (.pending lease) a.removed))
  else if entry.record.payloadIdentity.isSome then
    let (classification, record) := markWorkerExitedUnexpectedly entry.record status
    match s.admission.pendingRecovery entry.record.lifecycleId record.phaseName classification with
    | (.error e, admission) => (.error e, { s with admission })
    | (.ok recovery, admission) =>
      { s with admission }.recoverPayloadEntry { entry with record } status recovery a
  else
    match s.admission.pendingRecovery entry.record.lifecycleId entry.record.phaseName
        .unexpectedExitBeforeStarted with
    | (.error e, admission) => (.error e, { s with admission })
    | (.ok recovery, admission) => { s with admission }.recoverPrePayloadEntry entry recovery a

def abortPending (s : SupervisorLoopState) (lease : PendingLifecycleLease) (expectedClean : Bool)
    (workerExitStatus : Option ExitStatus) (a : AbortAnswers) :
    Except SessionError Unit × SupervisorLoopState :=
  if !s.admission.matchesPending lease then (.error .sessionSeatUnavailable, s)
  else
    match Slot.first (fun e => e.record.lifecycleId = lease.lifecycleId) s.pending with
    | none =>
      (.error .sessionSeatUnavailable,
        { s with admission := (s.admission.cancel (.pending lease) a.removed).2 })
    | some slot =>
      let s := { s with pending := slot.swapRemove }
      match workerExitStatus.or a.reap with
      | none => (.error .workerIoFailed, s)
      | some status => s.settlePending lease slot.entry expectedClean status a

end Abort

section Running

/-- `self.admission` after the pending lease of the transaction went to an admission call. -/
def withPendingLease (s : SupervisorLoopState) (t : PendingLaunchTransaction)
    (call : PendingLifecycleLease → SeatAdmissionController) : SupervisorLoopState :=
  match t.pendingLease with
  | none => s
  | some lease => { s with admission := call lease }

/-- A registration that does not agree with the prepared payload. -/
def rejectRegistration (s : SupervisorLoopState) (entry : PendingWorkerLifecycle)
    (payload : SupervisorPreparedPayload) (r : RunningRegistration) : SupervisorLoopState :=
  match r.transaction.pendingLease with
  | none => s
  | some lease =>
    { s with
      admission := (s.admission.enterQuarantineFromPending lease .recoveryRecordValidation
        .invalidRecord).2
      quarantined := s.quarantined ++ [(entry.withState (.quarantined .recoveryRecordValidation
        .invalidRecord (.payload payload))).record] }

/-- The steps from the durable `started` state to the running table. -/
def startRunning (s : SupervisorLoopState) (entry : PendingWorkerLifecycle)
    (payload : SupervisorPreparedPayload) (r : RunningRegistration) (a : RegistrationAnswers) :
    Except SessionError Unit × SupervisorLoopState :=
  match s.persistTransition r.workerId "started" a.started with
  | (false, s) => (.error .persistentRecoveryUnavailable, s)
  | (true, s) =>
    match r.transaction.commit s.admission (s.recoveryAdmissionState "seat0") a.removedPending
        a.handoff with
    | (.error e, admission) => (.error e, { s with admission })
    | (.ok receipt, admission) =>
      match admission.promoteCommittedToRunning receipt a.removedCommitted with
      | (.error e, admission) => (.error e, { s with admission })
      | (.ok receipt, admission) =>
        (if a.cloned then .ok () else .error .workerIoFailed, { s with
          admission
          children := s.children ++ [{
            admission := receipt
            record := (entry.withState (.started payload r.runtimeId)).record
            childPid := entry.childPid
            sessionPid := r.sessionPid
            workerId := r.workerId
            registrationNonce := r.registrationNonce
            terminalVtReportedBusy := false }] })

def registerRunning (s : SupervisorLoopState) (r : RunningRegistration) (a : RegistrationAnswers) :
    Except SessionError Unit × SupervisorLoopState :=
  if r.transaction.lifecycleId ≠ r.workerId then (.error .workerProtocolFailed, s)
  else
    match Slot.first (registrable r) s.pending with
    | none =>
      (.error .workerProtocolFailed, s.withPendingLease r.transaction fun lease =>
        (s.admission.cancel (.pending lease) a.removedPending).2)
    | some slot =>
      let s := { s with pending := slot.swapRemove }
      match slot.entry.record.state with
      | .payloadRegistered payload _ =>
        if payload.logind.id ≠ r.logindSessionId ∨ payload.leaderPid ≠ r.sessionPid then
          (.error .workerProtocolFailed, s.rejectRegistration slot.entry payload r)
        else s.startRunning slot.entry payload r a
      -- unreachable: the test above looked at the state
      | _ => (.error .workerProtocolFailed, s)

end Running

section Exit

/-- The emergency recovery of a worker that left the running table. -/
def recoverExitedWorker (s : SupervisorLoopState) (worker : SupervisedWorker)
    (status : ExitStatus) (a : ExitAnswers) : SupervisorLoopState :=
  let id := worker.record.lifecycleId
  let (classification, record) := markWorkerExitedUnexpectedly worker.record status
  let s := (s.persistTransition id "worker_exited_unexpectedly" a.exited).2
  match s.admission.enterRecovery worker.admission record.phaseName classification with
  | (.error _, admission) => { s with admission }
  | (.ok recovery, admission) =>
    let s := { s with admission }
    match recoverEmergency record status a.emergency with
    | (.recovered, _) => s.releaseSeat id (s.admission.releaseAfterA3Finalization recovery)
    | (.quarantined stage reason, record) =>
      let s := if reason = .vtDisallocateBusy then
        (s.persistTransition id "vt_disallocate_failed_busy" a.busy).2 else s
      { s with
        admission := (s.admission.enterQuarantineFromRecovery recovery stage reason).2
        quarantined := s.quarantined ++ [record.quarantine stage reason] }

def finishExitedWorker (s : SupervisorLoopState) (slot : Slot SupervisedWorker)
    (status : ExitStatus) (a : ExitAnswers) : SupervisorLoopState :=
  let worker := slot.entry
  let s := { s with children := slot.swapRemove }
  if worker.terminalVtReportedBusy then
    { s with
      admission := (s.admission.enterQuarantineFromRunning worker.admission .vtRecovery
        .vtDisallocateBusy).2
      quarantined := s.quarantined ++ [worker.record] }
  else if (finalizeCleanWorkerExit worker.record status a.finalization).isOk then
    let (resolved, s) := s.persistResolve worker.record.lifecycleId a.resolve
    if resolved then
      s.releaseSeat worker.record.lifecycleId
        (s.admission.releaseRunningAfterA3Finalization worker.admission)
    else s.recoverExitedWorker worker status a
  else s.recoverExitedWorker worker status a

/-- The loop visits every worker once: a removed one leaves its index to the next. `none` stands
for a worker that runs on, or whose status cannot be read. -/
def reapFrom (s : SupervisorLoopState) : Nat → Nat → List (Option (ExitStatus × ExitAnswers)) →
    SupervisorLoopState
  | 0, _, _ => s
  | _ + 1, _, [] => s
  | visits + 1, index, none :: answers => s.reapFrom visits (index + 1) answers
  | visits + 1, index, some (status, a) :: answers =>
    match Slot.nth index s.children with
    | none => s
    | some slot => (s.finishExitedWorker slot status a).reapFrom visits index answers

def reapExitedWorkers (s : SupervisorLoopState)
    (answers : List (Option (ExitStatus × ExitAnswers))) : SupervisorLoopState :=
  s.reapFrom s.children.length 0 answers

end Exit

section TerminalVt

def acceptTerminalVtIntent (s : SupervisorLoopState) (workerId : String) (workerPid : Nat)
    (nonce : String) (identity : PayloadScopeIdentity) (answer : WriteAnswer) :
    Except SessionError Nat × SupervisorLoopState :=
  match s.children.find? (·.workerId = workerId) with
  | none => (.error .workerProtocolFailed, s)
  | some worker =>
    if worker.record.workerPid ≠ workerPid || worker.registrationNonce ≠ nonce ||
        worker.record.payloadIdentity ≠ some identity || !nonceValid nonce then
      (.error .workerProtocolFailed, s)
    else
      match s.ledger with
      | none => (.error .workerIoFailed, s)
      | some l =>
        match l.get workerId with
        | none => (.error .workerProtocolFailed, s)
        | some record =>
          if record.workerPid ≠ workerPid ∨ record.state ≠ "started" then
            (.error .workerProtocolFailed, s)
          else
            match checkedAdd record.sequence 1 with
            | none => (.error .workerProtocolFailed, s)
            | some attemptId =>
              let (ok, l) := l.write workerId (.workerVtCleanupIntent attemptId) answer
              (if ok then .ok attemptId else .error .workerIoFailed, { s with ledger := some l })

def acceptTerminalVtResult (s : SupervisorLoopState) (workerId : String) (workerPid : Nat)
    (nonce : String) (attemptId : Nat) (result : TerminalVtCleanupResult) (answer : WriteAnswer) :
    Except SessionError Unit × SupervisorLoopState :=
  if !nonceValid nonce then (.error .workerProtocolFailed, s)
  else
    match Slot.first (fun w => w.workerId = workerId) s.children with
    | none => (.error .workerProtocolFailed, s)
    | some slot =>
      if slot.entry.record.workerPid ≠ workerPid ∨ slot.entry.registrationNonce ≠ nonce then
        (.error .workerProtocolFailed, s)
      else
        match s.ledger with
        | none => (.error .workerIoFailed, s)
        | some l =>
          match l.get workerId with
          | none => (.error .workerProtocolFailed, s)
          | some record =>
            if record.operationLedger.vtDisallocate ≠ .intentPersisted attemptId then
              (.error .workerProtocolFailed, s)
            else
              match l.write workerId (.workerVtCleanupResult attemptId result) answer with
              | (false, l) => (.error .workerIoFailed, { s with ledger := some l })
              | (true, l) =>
                (.ok (), { s with
                  ledger := some l
                  children := slot.put { slot.entry with
                    terminalVtReportedBusy := result = .vtDisallocateBusy } })

end TerminalVt

end SupervisorLoopState

end Niralis
