import Niralis.Machine
import Niralis.RecoveryModel
import Niralis.Text

namespace Niralis

inductive DurableOperationState
  | notStarted
  | intentPersisted (attemptId : Nat)
  | confirmed (attemptId : Nat)
  | failed (attemptId : Nat) (failureClass : Int)
  | indeterminate (attemptId : Nat) (stage : Nat)
  deriving DecidableEq, Repr

namespace DurableOperationState

def attemptId : DurableOperationState → Option Nat
  | notStarted => none
  | intentPersisted a => some a
  | confirmed a => some a
  | failed a _ => some a
  | indeterminate a _ => some a

def isConfirmed : DurableOperationState → Bool
  | confirmed _ => true
  | _ => false

def isIntentPersisted : DurableOperationState → Bool
  | intentPersisted _ => true
  | _ => false

def isUndecided : DurableOperationState → Bool
  | intentPersisted _ => true
  | indeterminate _ _ => true
  | _ => false

/-- Some result is durable, if only that the outcome is unknown. -/
def hasResult : DurableOperationState → Bool
  | confirmed _ => true
  | failed _ _ => true
  | indeterminate _ _ => true
  | _ => false

end DurableOperationState

inductive DurableOperation
  | payloadKill
  | supervisorUnref
  | logindTermination
  | selinuxRestore
  | vtActivation
  | vtDisallocate
  | runtimeRelease
  | recordResolution
  deriving DecidableEq, Repr

structure DurableOperationLedger where
  payloadKill : DurableOperationState := .notStarted
  supervisorUnref : DurableOperationState := .notStarted
  logindTermination : DurableOperationState := .notStarted
  selinuxRestore : DurableOperationState := .notStarted
  vtActivation : DurableOperationState := .notStarted
  vtDisallocate : DurableOperationState := .notStarted
  runtimeRelease : DurableOperationState := .notStarted
  recordResolution : DurableOperationState := .notStarted
  deriving DecidableEq, Repr

namespace DurableOperationLedger

def get (l : DurableOperationLedger) : DurableOperation → DurableOperationState
  | .payloadKill => l.payloadKill
  | .supervisorUnref => l.supervisorUnref
  | .logindTermination => l.logindTermination
  | .selinuxRestore => l.selinuxRestore
  | .vtActivation => l.vtActivation
  | .vtDisallocate => l.vtDisallocate
  | .runtimeRelease => l.runtimeRelease
  | .recordResolution => l.recordResolution

def set (l : DurableOperationLedger) (op : DurableOperation) (s : DurableOperationState) :
    DurableOperationLedger :=
  match op with
  | .payloadKill => { l with payloadKill := s }
  | .supervisorUnref => { l with supervisorUnref := s }
  | .logindTermination => { l with logindTermination := s }
  | .selinuxRestore => { l with selinuxRestore := s }
  | .vtActivation => { l with vtActivation := s }
  | .vtDisallocate => { l with vtDisallocate := s }
  | .runtimeRelease => { l with runtimeRelease := s }
  | .recordResolution => { l with recordResolution := s }

theorem get_set (l : DurableOperationLedger) (op op' : DurableOperation)
    (s : DurableOperationState) :
    (l.set op s).get op' = if op' = op then s else l.get op' := by
  cases op <;> cases op' <;> rfl

end DurableOperationLedger

inductive VtRecoveryAttemptState
  | intentPersisted
  | confirmed
  | failed (errno : Int)
  | rejected (reason : String)
  | indeterminate
  deriving DecidableEq, Repr

/-- A result that presupposes one of the VT operation itself. -/
def VtRecoveryAttemptState.hasResult : VtRecoveryAttemptState → Bool
  | confirmed => true
  | failed _ => true
  | indeterminate => true
  | _ => false

inductive VtBusyClassification
  | targetStillForeground
  | visibleUserspaceHolder
  | multipleVisibleUserspaceHolders
  | kernelBusyUnattributed
  | inspectionUnavailable
  | internalNiralisHolder
  deriving DecidableEq, Repr

structure VtBusyProvenance where
  targetVt : Nat
  observedActiveVt : Option Nat
  targetIsForeground : Option Bool
  classification : VtBusyClassification
  deriving DecidableEq, Repr

structure VtRecoveryAttempt where
  attemptId : Nat
  requestedBy : Nat
  expectedSequence : Nat
  state : VtRecoveryAttemptState
  provenanceBefore : VtBusyProvenance
  provenanceAfter : Option VtBusyProvenance
  deriving DecidableEq, Repr

structure PersistentRecoveryRecord where
  formatVersion : Nat := 2
  lifecycleId : String
  sequence : Nat
  createdBootId : String
  lastUpdatedBootId : String
  state : String
  uid : Nat
  seat : String
  workerPid : Nat
  launcherPid : Nat
  leaderPid : Option Nat := none
  payloadUnit : Option String := none
  transient : Option Bool := none
  invocationId : Option String := none
  controlGroup : Option String := none
  slice : Option String := none
  logindSessionId : Option String := none
  logindObjectPath : Option String := none
  targetVt : Option Nat := none
  previousVt : Option Nat := none
  pamStatus : String := "opened_by_worker"
  operationLedger : DurableOperationLedger := {}
  quarantineReason : Option String := none
  vtBusyProvenance : Option VtBusyProvenance := none
  vtRecoveryAttempts : List VtRecoveryAttempt := []
  deriving DecidableEq, Repr

/-- `BootIdentity::parse` accepts the text. -/
def bootIdentityValid (value : String) : Bool :=
  value ≠ "" && value.utf8ByteSize ≤ 128 && !value.toList.any Text.isAsciiWhitespace

def validateLifecycleId (value : String) : Bool :=
  !(value = "" || value.utf8ByteSize > 128 || value = "." || value = ".." ||
    value.toList.contains '/' || value.toList.contains '\x00')

def validateRecord (r : PersistentRecoveryRecord) : Bool :=
  (r.formatVersion = 1 || r.formatVersion = 2) && r.lifecycleId ≠ "" && r.sequence ≠ 0 &&
    r.createdBootId ≠ "" && r.state ≠ "" && r.seat ≠ "" && r.workerPid ≠ 0 &&
    r.launcherPid ≠ 0 && bootIdentityValid r.createdBootId &&
    bootIdentityValid r.lastUpdatedBootId && validateLifecycleId r.lifecycleId

section Valid
variable {r : PersistentRecoveryRecord}

theorem createdBoot_of_valid (h : validateRecord r = true) :
    bootIdentityValid r.createdBootId = true := by
  simp only [validateRecord, Bool.and_eq_true] at h
  exact h.1.1.2

theorem lastUpdatedBoot_of_valid (h : validateRecord r = true) :
    bootIdentityValid r.lastUpdatedBootId = true := by
  simp only [validateRecord, Bool.and_eq_true] at h
  exact h.1.2

theorem lifecycleName_of_valid (h : validateRecord r = true) :
    validateLifecycleId r.lifecycleId = true := by
  simp only [validateRecord, Bool.and_eq_true] at h
  exact h.2

end Valid

/-- `PersistentRecoveryRecord::transition`, with the answer of `current_boot_id`. -/
def PersistentRecoveryRecord.transition (r : PersistentRecoveryRecord) (state : String)
    (bootId : Option String) : Option PersistentRecoveryRecord :=
  if state = "" || state.utf8ByteSize > 64 || state.toList.contains '\x00' then none
  else do
    let sequence ← checkedAdd r.sequence 1
    let lastUpdatedBootId ← bootId
    some { r with sequence, state, lastUpdatedBootId }

theorem transition_eq_some {r next : PersistentRecoveryRecord} {state : String}
    {bootId : Option String} (h : r.transition state bootId = some next) :
    ∃ boot, bootId = some boot ∧
      next = { r with sequence := r.sequence + 1, state, lastUpdatedBootId := boot } := by
  unfold PersistentRecoveryRecord.transition at h
  split at h
  · cases h
  · cases hs : checkedAdd r.sequence 1 with
    | none => simp [hs] at h
    | some sequence =>
      cases bootId with
      | none => simp at h
      | some boot =>
        obtain ⟨-, rfl⟩ := checkedAdd_eq_some.mp hs
        simp only [hs, Option.bind_eq_bind, Option.bind_some, Option.some.injEq] at h
        exact ⟨boot, rfl, h.symm⟩

end Niralis
