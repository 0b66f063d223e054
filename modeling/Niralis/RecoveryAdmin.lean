import Niralis.SeatAdmission
import Niralis.TypedFinalization

namespace Niralis

structure RetryVtDisallocate where
  seat : String
  recordId : String
  recordSequence : Nat
  acknowledgeIndeterminate : Option Nat
  deriving DecidableEq, Repr

inductive RecoveryAdminResponse
  | retryAccepted (recordId : String) (sequence attemptId : Nat)
  | rejected (reason : String) (sequence : Option Nat)
  deriving DecidableEq, Repr

def reject (reason : String) (sequence : Option Nat) : RecoveryAdminResponse :=
  .rejected reason sequence

section Debug

def SystemdUnitOperation.debug : SystemdUnitOperation → String
  | ref => "Ref"
  | kill => "Kill"
  | unref => "Unref"

/-- `format!("{error:?}")` -/
def SupervisorRecoveryError.debug : SupervisorRecoveryError → String
  | invalidRecord => "InvalidRecord"
  | invalidPayloadIdentity => "InvalidPayloadIdentity"
  | boundaryIdentityChanged => "BoundaryIdentityChanged"
  | busUnavailable => "BusUnavailable"
  | authorizationDenied action operation =>
    "AuthorizationDenied \x7b action: \"" ++ action ++ "\", operation: " ++ operation.debug ++ " \x7d"
  | busDeliveryIndeterminate => "BusDeliveryIndeterminate"
  | leaderPidfdUnavailable => "LeaderPidfdUnavailable"
  | leaderAlreadyDead => "LeaderAlreadyDead"
  | leaderStillAlive => "LeaderStillAlive"
  | boundaryStillPopulated => "BoundaryStillPopulated"
  | boundaryObserverUnavailable => "BoundaryObserverUnavailable"
  | boundaryTimedOut => "BoundaryTimedOut"
  | supervisorUnrefFailed => "SupervisorUnrefFailed"
  | logindUnavailable => "LogindUnavailable"
  | logindIdentityChanged => "LogindIdentityChanged"
  | logindCleanupIndeterminate => "LogindCleanupIndeterminate"
  | logindRemovalTimedOut => "LogindRemovalTimedOut"
  | vtIdentityChanged => "VtIdentityChanged"
  | vtOpenFailed errno => "VtOpenFailed(" ++ toString errno ++ ")"
  | vtKernelRestoreFailed errno => "VtKernelRestoreFailed(" ++ toString errno ++ ")"
  | selinuxRestoreFailed errno => "SelinuxRestoreFailed(" ++ toString errno ++ ")"
  | vtActivationFailed errno => "VtActivationFailed(" ++ toString errno ++ ")"
  | vtDisallocateBusy => "VtDisallocateBusy"
  | vtDisallocateFailed errno => "VtDisallocateFailed(" ++ toString errno ++ ")"
  | systemdOwnerChanged => "SystemdOwnerChanged"
  | logindOwnerChanged => "LogindOwnerChanged"
  | unknownPayloadScope => "UnknownPayloadScope"

end Debug

/-- What the recovery host answers to one request. `bootId` is the current boot when the record is
looked at; the terminal is inspected once before the ioctl and once after it. -/
structure RecoveryAdminHost where
  bootId : Option String
  boundaryAbsent : Bool
  persistedVtIdentity : Except SupervisorRecoveryError SupervisorVtIdentity
  inspectedBefore : VtBusyProvenance
  disallocateVtOnce : Except SupervisorRecoveryError Unit
  inspectedAfter : VtBusyProvenance
  runtimeRelease : Except SupervisorRecoveryError Unit

/-- The part of a supervisor with a ledger that the administrator can reach. -/
structure AdminWorld where
  recovery : StartupWorld
  admission : SeatAdmissionController

inductive AdminRequest
  | recovery (request : StartupRequest)
  | enterQuarantineForAdmin (lifecycleId : String)
  | releaseAfterAdminFinalization (receipt : AdminFinalizationReceipt)

namespace AdminWorld

def ledger (w : AdminWorld) : PersistentRecoveryLedger := w.recovery.ledger

def onAdmission (w : AdminWorld) (result : Except SessionError Unit × SeatAdmissionController) :
    Bool × AdminWorld := (result.1.isOk, { w with admission := result.2 })

def perform (w : AdminWorld) (request : AdminRequest) (answer : StartupAnswer) :
    Bool × AdminWorld :=
  match request with
  | .recovery request =>
    ((w.recovery.perform request answer).1,
      { w with recovery := (w.recovery.perform request answer).2 })
  | .enterQuarantineForAdmin id => w.onAdmission (w.admission.enterQuarantineForAdmin id)
  | .releaseAfterAdminFinalization receipt =>
    w.onAdmission (w.admission.releaseAfterAdminFinalization receipt)

end AdminWorld

abbrev AdminM (ε α : Type) := Attempt AdminWorld AdminRequest ε α

section Requests
variable {ε ε' α : Type}

/-- A program of the ledger, run by the administrator. -/
def onRecovery (p : Attempt StartupWorld StartupRequest ε α) : AdminM ε α :=
  Program.zoom AdminWorld.recovery .recovery p

def readAdmin : AdminM ε AdminWorld := .ask (.recovery .inspect) fun _ w => .done (.ok w)

/-- A call to the ledger, and the error its failure is reported as. -/
def ledgerCall (p : IoResult α) (e : ε) : AdminM ε α := (onRecovery p).mapErr fun _ => e

end Requests

section Finalization

def eio : Int := 5

def confirmRuntimeReleaseTyped (s : RecoveryStateSnapshot) (resolved : PersistedRecordResolved)
    (permit : RuntimeReleasePermit) : IoResult (RecoveryStateSnapshot × PersistedRecordResolved ×
      RuntimeReleaseConfirmed × RecordRemovalPermit) := do
  let record ← readRecord s.record.lifecycleId ()
  .require (!PersistentRecoveryLedger.releaseMismatch s record resolved permit) ()
  persist record.lifecycleId (.operation .runtimeRelease (.confirmed record.sequence)) ()
  let next ← refreshRecoverySnapshot s
  let ledger ← readLedger
  let file ← .okOr (ledger.recordFileIdentity record.lifecycleId) ()
  pure (next, ⟨next.binding⟩, ⟨next.binding⟩, ⟨next.binding, file⟩)

/-- `remove_record_typed`, with its receipts. -/
def removeReleasedRecord (s : RecoveryStateSnapshot) (resolved : PersistedRecordResolved)
    (confirmed : RuntimeReleaseConfirmed) (permit : RecordRemovalPermit) :
    IoResult RecordRemovedReceipt := do
  let ledger ← readLedger
  let record ← .okOr (ledger.get s.record.lifecycleId) ()
  .require (!ledger.removalMismatch s record resolved confirmed permit) ()
  .perform (.removeResolved record.lifecycleId) ()
  pure ⟨{ permit.toRecordBinding with sequence := record.sequence }⟩

/-- The receipt of the removed record opens the seat that waits for the administrator. -/
def publishAdminFinalization (removed : RecordRemovedReceipt) : AdminM String Unit := do
  let w ← readAdmin
  let receipt ← .check ((w.admission.issueAdminFinalizationReceipt removed).mapError fun _ =>
    "seat authority changed before finalization receipt")
  let permit ← .okOr (w.ledger.issueSeatFreePermit removed) "seat free preconditions changed"
  -- `consume_seat_free_permit` repeats the conditions the permit was issued on
  .require (w.ledger.issueSeatFreePermit ⟨permit.toRecordBinding⟩).isSome
    "seat free preconditions changed"
  .perform (.releaseAfterAdminFinalization receipt) "seat authority changed before publication"

def releaseAndRemove (resolved : RecoveryStateSnapshot) : AdminM String Unit := do
  let (released, resolved, confirmed, permit) ← ledgerCall
    (confirmRuntimeReleaseTyped resolved ⟨resolved.binding⟩ ⟨resolved.binding⟩)
    "could not persist runtime release confirmation"
  let removed ← ledgerCall (removeReleasedRecord released resolved confirmed permit)
    "could not remove the exact resolved record"
  publishAdminFinalization removed

/-- The completion proof and the receipts of the resolution are bound to the snapshot they are
made from. -/
def finalizeAdminSuccess (host : RecoveryAdminHost) (recordId : String) (attemptId : Nat) :
    AdminM String Unit := do
  let w ← readAdmin
  let record ← .okOr (w.ledger.get recordId) "recovery record disappeared"
  .require (bootIdentityValid record.createdBootId) "invalid recovery boot identity"
  let snapshot ← .okOr (RecoveryStateSnapshot.fromRecord record.createdBootId record)
    "stale recovery authority"
  let _ ← .okOr (FinalizationCompletionProof.fromSnapshot snapshot) "invalid completion proof"
  let resolved ← ledgerCall (markRecordResolvedTyped snapshot) "could not persist RecordResolved"
  match host.runtimeRelease with
  | .error error => do
    ledgerCall (persist recordId (.operation .runtimeRelease (.failed attemptId eio)) ())
      "could not persist runtime release failure"
    .fail ("runtime release failed: " ++ error.debug)
  | .ok () => releaseAndRemove resolved

end Finalization

section Retry
variable (host : RecoveryAdminHost) (request : RetryVtDisallocate)

def nextAttemptId (record : PersistentRecoveryRecord) : Nat :=
  saturatingAdd ((record.vtRecoveryAttempts.map (·.attemptId)).foldl max 0) 1

def attempt (id sequence : Nat) (state : VtRecoveryAttemptState) (before : VtBusyProvenance)
    (after : Option VtBusyProvenance) : VtRecoveryAttempt where
  attemptId := id
  requestedBy := 0
  expectedSequence := sequence
  state := state
  provenanceBefore := before
  provenanceAfter := after

/-- `boot_relation(record) == SameBoot` -/
def sameBoot (record : PersistentRecoveryRecord) : Bool := host.bootId = some record.createdBootId

/-- The last attempt's outcome is unknown, and the administrator has not named it. -/
def unacknowledged (record : PersistentRecoveryRecord) : Bool :=
  record.vtRecoveryAttempts.getLast?.any fun previous => previous.state = .indeterminate &&
    request.acknowledgeIndeterminate ≠ some previous.attemptId

def attemptOpen (record : PersistentRecoveryRecord) : Bool :=
  record.vtRecoveryAttempts.getLast?.any (·.state = .intentPersisted)

/-- The checks that turn a request away before anything is done for it. -/
def retryRefusal (ledger : PersistentRecoveryLedger) (record : PersistentRecoveryRecord) :
    Option String :=
  if record.seat ≠ request.seat ∨ record.sequence ≠ request.recordSequence then
    some "record identity or sequence changed"
  else if !sameBoot host record ∨ record.state ≠ "quarantined" ∨
      record.quarantineReason ≠ some "vt_disallocate_busy" then
    some "record is not an eligible VT busy quarantine"
  else if ledger.records.any fun other => other.seat = request.seat &&
      other.lifecycleId ≠ request.recordId && record.sequence ≤ other.sequence then
    some "a newer record exists for this seat"
  else if record.vtBusyProvenance.isNone then some "no durable busy provenance"
  else if unacknowledged request record then
    some "indeterminate attempt requires exact acknowledgement"
  else if attemptOpen record then
    some "previous administrative attempt is indeterminate and requires durable resolution"
  else if !record.operationLedger.payloadKill.isConfirmed ||
      !record.operationLedger.supervisorUnref.isConfirmed then
    some "payload boundary has not been durably finalized"
  else if !host.boundaryAbsent then
    some "recovery boundary, worker, launcher, or logind session is not proven absent"
  else none

def vtPreconditionsChanged (vt : SupervisorVtIdentity) : Bool :=
  host.inspectedBefore.targetIsForeground ≠ some false ||
    host.inspectedBefore.classification ≠ .kernelBusyUnattributed ||
    host.inspectedBefore.observedActiveVt ≠ some vt.previous.number

abbrev RetryM := AdminM SessionError RecoveryAdminResponse

def persistAttempt (write : RecordWrite) : AdminM SessionError Unit :=
  ledgerCall (persist request.recordId write ()) .persistentRecoveryUnavailable

def finishAs (id : Nat) (state : VtRecoveryAttemptState) (after : Option VtBusyProvenance) :
    AdminM SessionError Unit :=
  persistAttempt request (.finishVtRecoveryAttempt id state after)

def retryDisallocated (id : Nat) : RetryM :=
  if host.inspectedAfter.targetIsForeground ≠ some false then do
    finishAs request id .indeterminate (some host.inspectedAfter)
    pure (reject "VT state changed after administrative ioctl" none)
  else do
    persistAttempt request (.operation .vtDisallocate (.confirmed id))
    finishAs request id .confirmed (some host.inspectedAfter)
    Program.bind (finalizeAdminSuccess host request.recordId id) fun
      | .error reason => .done (.ok (reject reason none))
      | .ok () => .done (.ok (.retryAccepted request.recordId
        (saturatingAdd request.recordSequence 3) id))

def retryBusy (id : Nat) : RetryM := do
  finishAs request id (.failed ebusy) (some host.inspectedAfter)
  persistAttempt request (.vtBusyProvenance host.inspectedAfter)
  pure (.retryAccepted request.recordId (saturatingAdd request.recordSequence 2) id)

def retryFailed (id : Nat) (error : SupervisorRecoveryError) : RetryM := do
  let errno := match error with
    | .vtDisallocateFailed errno => errno
    | _ => eio
  finishAs request id (.failed errno) none
  pure (reject ("VT retry failed: " ++ error.debug) none)

def retryOnce (record : PersistentRecoveryRecord) : RetryM := do
  .perform (.enterQuarantineForAdmin request.recordId) .sessionSeatUnavailable
  let id := nextAttemptId record
  persistAttempt request (.appendVtRecoveryAttempt (attempt id request.recordSequence
    .intentPersisted host.inspectedBefore none))
  onRecovery (issue .vtDisallocate request.recordId)
  match host.disallocateVtOnce with
  | .ok () => retryDisallocated host request id
  | .error .vtDisallocateBusy => retryBusy host request id
  | .error error => retryFailed request id error

/-- The terminal is not as the quarantine left it: the attempt is recorded and nothing is done. -/
def retryRejected (record : PersistentRecoveryRecord) : RetryM := do
  persistAttempt request (.appendVtRecoveryAttempt (attempt (nextAttemptId record)
    request.recordSequence (.rejected "VT preconditions changed") host.inspectedBefore none))
  pure (reject "VT preconditions changed" (some (saturatingAdd record.sequence 1)))

/-- `recovery_admin` for `RetryVtDisallocate` -/
def recoveryAdmin : RetryM := do
  let w ← readAdmin
  match w.ledger.get request.recordId with
  | none => pure (reject "record does not exist" none)
  | some record =>
    match retryRefusal host request w.ledger record with
    | some reason => pure (reject reason (some record.sequence))
    | none =>
      match host.persistedVtIdentity with
      | .error _ => pure (reject "VT identity unavailable" (some record.sequence))
      | .ok vt =>
        if vtPreconditionsChanged host vt then retryRejected host request record
        else retryOnce host request record

end Retry

end Niralis
