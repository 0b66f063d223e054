import Niralis.LedgerRuns
import Niralis.SameBootRecovery

namespace Niralis

structure FinalizationCompletionProof extends RecordBinding
  deriving DecidableEq, Repr

structure PersistedRecordResolved extends RecordBinding
  deriving DecidableEq, Repr

structure RuntimeReleasePermit extends RecordBinding
  deriving DecidableEq, Repr

structure RuntimeReleaseConfirmed extends RecordBinding
  deriving DecidableEq, Repr

structure RecordRemovalPermit extends RecordBinding where
  fileIdentity : Nat
  deriving DecidableEq, Repr

structure SeatFreePermit extends RecordBinding
  deriving DecidableEq, Repr

structure RecoveryOperationPermit where
  recordId : String
  lifecycleId : String
  bootId : String
  sequence : Nat
  attemptId : Nat
  deriving DecidableEq, Repr

namespace RecoveryStateSnapshot

def binding (s : RecoveryStateSnapshot) : RecordBinding :=
  ⟨s.currentBoot, s.record.lifecycleId, s.record.lifecycleId, s.record.sequence, s.record.seat⟩

def matchesBinding (s : RecoveryStateSnapshot) (b : RecordBinding) : Bool :=
  b.bootId = s.currentBoot && b.recordId = s.record.lifecycleId &&
    b.lifecycleId = s.record.lifecycleId && b.sequence = s.record.sequence &&
    b.seat = s.record.seat

theorem matchesBinding_iff (s : RecoveryStateSnapshot) (b : RecordBinding) :
    s.matchesBinding b = true ↔ b = s.binding := by
  obtain ⟨bootId, recordId, lifecycleId, sequence, seat⟩ := b
  simp [matchesBinding, binding, and_assoc]

end RecoveryStateSnapshot

/-- `FinalizationCompletionProof::from_snapshot` -/
def FinalizationCompletionProof.fromSnapshot (s : RecoveryStateSnapshot) :
    Option FinalizationCompletionProof := if s.validates then some ⟨s.binding⟩ else none

/-- The answers of the file system to the three commits of a resolution. -/
structure ResolutionAnswers where
  intent : WriteAnswer
  confirmed : WriteAnswer
  resolved : WriteAnswer

namespace PersistentRecoveryLedger

/-- The snapshot of the record as it is now, under the boot of an earlier snapshot. -/
def snapshotOf (l : PersistentRecoveryLedger) (id currentBoot : String) :
    Option RecoveryStateSnapshot :=
  (l.get id).bind (RecoveryStateSnapshot.fromRecord currentBoot)

def refreshRecoverySnapshot (l : PersistentRecoveryLedger) (s : RecoveryStateSnapshot) :
    Option RecoveryStateSnapshot :=
  if s.validates then l.snapshotOf s.record.lifecycleId s.currentBoot else none

def persistRecoveryIntentFromSnapshot (l : PersistentRecoveryLedger) (s : RecoveryStateSnapshot)
    (operation : DurableOperation) (attemptId : Nat) (answer : WriteAnswer) :
    Option (RecoveryStateSnapshot × RecoveryOperationPermit) × PersistentRecoveryLedger :=
  if !s.validates then (none, l)
  else
    match l.operationIntent s.record.lifecycleId operation attemptId answer with
    | (false, l) => (none, l)
    | (true, l) =>
      ((l.snapshotOf s.record.lifecycleId s.currentBoot).map fun next =>
        (next, ⟨next.record.lifecycleId, next.record.lifecycleId, next.record.createdBootId,
          next.record.sequence, attemptId⟩), l)

def persistRecoveryUnrefIntent (l : PersistentRecoveryLedger) (s : RecoveryStateSnapshot)
    (proof : RecoveryBoundaryEmptyProof) (attemptId : Nat) (answer : WriteAnswer) :
    Option (RecoveryStateSnapshot × RecoveryOperationPermit × AuthorizedRecoveryBoundaryProof) ×
      PersistentRecoveryLedger :=
  if !s.validates || !proof.matchesSnapshot s then (none, l)
  else
    match l.persistRecoveryIntentFromSnapshot s .supervisorUnref attemptId answer with
    | (none, l) => (none, l)
    | (some (next, permit), l) =>
      (some (next, permit, proof.authorize next.record.sequence), l)

def confirmResolution (l : PersistentRecoveryLedger) (id : String) (attempt : Nat)
    (answers : ResolutionAnswers) : DurableOperationState → Bool × PersistentRecoveryLedger
  | .notStarted =>
    match l.operationIntent id .recordResolution attempt answers.intent with
    | (false, l) => (false, l)
    | (true, l) => l.operationConfirmed id .recordResolution attempt answers.confirmed
  | .confirmed _ => (true, l)
  | .intentPersisted _ => (false, l)
  | .indeterminate _ _ => (false, l)
  | .failed _ _ => (false, l)

/-- The state half of the resolution, and the receipts for the resolved record. -/
def resolveSnapshot (l : PersistentRecoveryLedger) (s : RecoveryStateSnapshot)
    (answer : WriteAnswer) :
    Option (RecoveryStateSnapshot × PersistedRecordResolved × RuntimeReleasePermit) ×
      PersistentRecoveryLedger :=
  match l.markRecordResolved s.record.lifecycleId answer with
  | (false, l) => (none, l)
  | (true, l) =>
    ((l.snapshotOf s.record.lifecycleId s.currentBoot).map fun next =>
      (next, ⟨next.binding⟩, ⟨next.binding⟩), l)

def markRecordResolvedTyped (l : PersistentRecoveryLedger) (s : RecoveryStateSnapshot)
    (completion : FinalizationCompletionProof) (answers : ResolutionAnswers) :
    Option (RecoveryStateSnapshot × PersistedRecordResolved × RuntimeReleasePermit) ×
      PersistentRecoveryLedger :=
  if !s.validates || !s.matchesBinding completion.toRecordBinding then (none, l)
  else
    match l.get s.record.lifecycleId with
    | none => (none, l)
    | some current =>
      if current.sequence ≠ s.record.sequence ∨ current.lifecycleId ≠ s.record.lifecycleId ∨
          current.createdBootId ≠ s.record.createdBootId ∨ current.seat ≠ s.record.seat then
        (none, l)
      else
        match l.confirmResolution s.record.lifecycleId (saturatingAdd s.record.sequence 1) answers
            current.operationLedger.recordResolution with
        | (false, l) => (none, l)
        | (true, l) => l.resolveSnapshot s answers.resolved

/-- "runtime release capability mismatch": the receipts are checked against the snapshot, the
state against the ledger. -/
def releaseMismatch (s : RecoveryStateSnapshot) (record : PersistentRecoveryRecord)
    (resolved : PersistedRecordResolved) (permit : RuntimeReleasePermit) : Bool :=
  !s.validates || record.state ≠ "record_resolved" ||
    !s.matchesBinding resolved.toRecordBinding || !s.matchesBinding permit.toRecordBinding

def confirmRuntimeReleaseTyped (l : PersistentRecoveryLedger) (s : RecoveryStateSnapshot)
    (resolved : PersistedRecordResolved) (permit : RuntimeReleasePermit) (answer : WriteAnswer) :
    Option (RecoveryStateSnapshot × PersistedRecordResolved × RuntimeReleaseConfirmed ×
      RecordRemovalPermit) × PersistentRecoveryLedger :=
  match l.get s.record.lifecycleId with
  | none => (none, l)
  | some record =>
    if releaseMismatch s record resolved permit then (none, l)
    else
      match l.operationConfirmed record.lifecycleId .runtimeRelease record.sequence answer with
      | (false, l) => (none, l)
      | (true, l) =>
        ((l.refreshRecoverySnapshot s).bind fun next =>
          (l.recordFileIdentity record.lifecycleId).map fun file =>
            (next, ⟨next.binding⟩, ⟨next.binding⟩, ⟨next.binding, file⟩), l)

def removalMismatch (l : PersistentRecoveryLedger) (s : RecoveryStateSnapshot)
    (record : PersistentRecoveryRecord) (resolved : PersistedRecordResolved)
    (confirmed : RuntimeReleaseConfirmed) (permit : RecordRemovalPermit) : Bool :=
  !s.validates || !s.matchesBinding resolved.toRecordBinding ||
    !s.matchesBinding confirmed.toRecordBinding || !s.matchesBinding permit.toRecordBinding ||
    record.state ≠ "record_resolved" || !record.operationLedger.runtimeRelease.isConfirmed ||
    l.recordFileIdentity record.lifecycleId ≠ some permit.fileIdentity

def removeRecordTyped (l : PersistentRecoveryLedger) (s : RecoveryStateSnapshot)
    (resolved : PersistedRecordResolved) (confirmed : RuntimeReleaseConfirmed)
    (permit : RecordRemovalPermit) (answer : RemoveAnswer) :
    Option RecordRemovedReceipt × PersistentRecoveryLedger :=
  match l.get s.record.lifecycleId with
  | none => (none, l)
  | some record =>
    if l.removalMismatch s record resolved confirmed permit then (none, l)
    else
      match l.removeResolved record.lifecycleId answer with
      | (false, l) => (none, l)
      | (true, l) =>
        (some ⟨{ permit.toRecordBinding with sequence := record.sequence }⟩, l)

/-- `finalization_capabilities`: the receipts repeat the snapshot's binding, and nothing is looked at
but the record's file. -/
def finalizationCapabilities (l : PersistentRecoveryLedger) (s : RecoveryStateSnapshot) :
    Option (PersistedRecordResolved × RuntimeReleaseConfirmed × RecordRemovalPermit) :=
  (l.recordFileIdentity s.record.lifecycleId).map fun file =>
    (⟨s.binding⟩, ⟨s.binding⟩, ⟨s.binding, file⟩)

def issueSeatFreePermit (l : PersistentRecoveryLedger) (receipt : RecordRemovedReceipt) :
    Option SeatFreePermit :=
  if l.records.any (·.seat = receipt.seat) || l.seatStartupQuarantined receipt.seat ||
      l.startupQuarantined then none
  else some ⟨receipt.toRecordBinding⟩

theorem releaseMismatch_eq_false {s : RecoveryStateSnapshot} {record : PersistentRecoveryRecord}
    {resolved : PersistedRecordResolved} {permit : RuntimeReleasePermit} :
    releaseMismatch s record resolved permit = false ↔
      s.validates = true ∧ record.state = "record_resolved" ∧
        resolved.toRecordBinding = s.binding ∧ permit.toRecordBinding = s.binding := by
  simp [releaseMismatch, s.matchesBinding_iff, and_assoc]

theorem removalMismatch_eq_false {l : PersistentRecoveryLedger} {s : RecoveryStateSnapshot}
    {record : PersistentRecoveryRecord} {resolved : PersistedRecordResolved}
    {confirmed : RuntimeReleaseConfirmed} {permit : RecordRemovalPermit} :
    l.removalMismatch s record resolved confirmed permit = false ↔
      s.validates = true ∧ resolved.toRecordBinding = s.binding ∧
        confirmed.toRecordBinding = s.binding ∧ permit.toRecordBinding = s.binding ∧
        record.state = "record_resolved" ∧
        record.operationLedger.runtimeRelease.isConfirmed = true ∧
        l.recordFileIdentity record.lifecycleId = some permit.fileIdentity := by
  simp [removalMismatch, s.matchesBinding_iff, and_assoc]

end PersistentRecoveryLedger

end Niralis
