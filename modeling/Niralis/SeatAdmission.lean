import Niralis.Machine
import Niralis.RecoveryModel

namespace Niralis

structure PreCommitRuntimeBinding where
  lifecycleId : String
  stage : String
  sequence : Nat
  handoffCommitted : Bool
  deriving DecidableEq, Repr

structure AdmissionLease where
  seat : String
  attemptId : Nat
  lifecycleId : String
  generation : Nat
  previousVt : PreviousVtIdentity
  precommitRuntime : Option PreCommitRuntimeBinding
  deriving DecidableEq, Repr

structure PendingLifecycleLease where
  seat : String
  attemptId : Nat
  lifecycleId : String
  generation : Nat
  precommitRuntime : Option PreCommitRuntimeBinding
  deriving DecidableEq, Repr

structure LaunchCommitReceipt where
  seat : String
  attemptId : Nat
  lifecycleId : String
  generation : Nat
  precommitRuntime : Option PreCommitRuntimeBinding
  deriving DecidableEq, Repr

structure RunningSeatReceipt where
  seat : String
  lifecycleId : String
  generation : Nat
  deriving DecidableEq, Repr

structure RecoverySeatReceipt where
  seat : String
  lifecycleId : String
  generation : Nat
  deriving DecidableEq, Repr

structure AdminFinalizationReceipt where
  seat : String
  lifecycleId : String
  seatGeneration : Nat
  recoveryRecordId : String
  finalizationSequence : Nat
  deriving DecidableEq, Repr

inductive AdmissionRollbackLease
  | reserved (lease : AdmissionLease)
  | pending (lease : PendingLifecycleLease)
  deriving DecidableEq, Repr

inductive RecoveryAdmissionState
  | clear
  | seatBlocked (seat reason : String)
  | globallyBlocked (reason : String)
  deriving DecidableEq, Repr

inductive AdmissionPhase
  | free
  | reserved (attemptId : Nat) (lifecycleId : String) (generation : Nat)
  | pendingLifecycle (attemptId : Nat) (lifecycleId : String) (generation : Nat)
  | launchCommitted (attemptId : Nat) (lifecycleId : String) (generation : Nat)
  deriving DecidableEq, Repr

structure SeatAdmissionController where
  seat : String
  lifecycle : SeatLifecycle
  generation : Nat
  nextAttemptId : Nat
  phase : AdmissionPhase
  deriving DecidableEq, Repr

/-- `remove_precommit_runtime`: without a binding there is nothing to remove; with one, the
process store answers whether the record went away. -/
def removePrecommitRuntime (binding : Option PreCommitRuntimeBinding) (removed : Bool) :
    Except SessionError Unit :=
  match binding with
  | none => .ok ()
  | some _ => if removed then .ok () else .error .persistentRecoveryUnavailable

@[simp] theorem removePrecommitRuntime_true (binding : Option PreCommitRuntimeBinding) :
    removePrecommitRuntime binding true = .ok () := by
  cases binding <;> rfl

namespace SeatAdmissionController

def new (seat : String) (lifecycle : SeatLifecycle) : SeatAdmissionController where
  seat := seat
  lifecycle := lifecycle
  generation := if lifecycle = .free then 0 else 1
  nextAttemptId := 1
  phase := .free

def isFree (c : SeatAdmissionController) : Bool := c.lifecycle = .free

def matchesReserved (c : SeatAdmissionController) (lease : AdmissionLease) : Bool :=
  match c.phase with
  | .reserved attemptId lifecycleId generation =>
    lease.seat == c.seat && lease.attemptId == attemptId && lease.lifecycleId == lifecycleId &&
      lease.generation == generation && lease.generation == c.generation
  | _ => false

def matchesPending (c : SeatAdmissionController) (lease : PendingLifecycleLease) : Bool :=
  match c.phase with
  | .pendingLifecycle attemptId lifecycleId generation =>
    lease.seat == c.seat && lease.attemptId == attemptId && lease.lifecycleId == lifecycleId &&
      lease.generation == generation && lease.generation == c.generation
  | _ => false

def matchesCommitted (c : SeatAdmissionController) (receipt : LaunchCommitReceipt) : Bool :=
  match c.phase with
  | .launchCommitted attemptId lifecycleId generation =>
    receipt.seat == c.seat && receipt.attemptId == attemptId &&
      receipt.lifecycleId == lifecycleId && receipt.generation == generation &&
      receipt.generation == c.generation
  | _ => false

/-- The check shared by the operations that consume a running receipt. -/
def matchesRunning (c : SeatAdmissionController) (receipt : RunningSeatReceipt) : Bool :=
  match c.lifecycle with
  | .active lifecycleId =>
    receipt.seat == c.seat && receipt.generation == c.generation &&
      lifecycleId == receipt.lifecycleId
  | _ => false

/-- The check shared by the operations that consume a recovery receipt. -/
def matchesRecovering (c : SeatAdmissionController) (receipt : RecoverySeatReceipt) : Bool :=
  match c.lifecycle with
  | .recovering lifecycleId _ _ =>
    receipt.seat == c.seat && receipt.generation == c.generation &&
      lifecycleId == receipt.lifecycleId
  | _ => false

/-- The check of the two operations that know a pending lifecycle only by its id. -/
def pendingLifecycleIs (c : SeatAdmissionController) (lifecycleId : String) : Bool :=
  match c.phase with
  | .pendingLifecycle _ current _ => current == lifecycleId
  | _ => false

def quarantinedAs (c : SeatAdmissionController) (lifecycleId : String) : Bool :=
  match c.lifecycle with
  | .quarantined current _ _ => current == lifecycleId
  | _ => false

def reserve (c : SeatAdmissionController) (lifecycleId : String)
    (recovery : RecoveryAdmissionState) (previousVt : PreviousVtIdentity) :
    Except SessionError AdmissionLease × SeatAdmissionController :=
  if lifecycleId.isEmpty || recovery ≠ .clear || c.phase ≠ .free || c.lifecycle ≠ .free then
    (.error .sessionSeatUnavailable, c)
  else
    let generation := wrappingAdd c.generation 1
    (.ok { seat := c.seat, attemptId := c.nextAttemptId, lifecycleId, generation, previousVt,
           precommitRuntime := none },
      { c with
        nextAttemptId := max (wrappingAdd c.nextAttemptId 1) 1
        generation
        phase := .reserved c.nextAttemptId lifecycleId generation })

def promote (c : SeatAdmissionController) (lease : AdmissionLease)
    (recovery : RecoveryAdmissionState) :
    Except (SessionError × AdmissionLease) (PendingLifecycleLease × PreviousVtIdentity) ×
      SeatAdmissionController :=
  if recovery ≠ .clear || !c.matchesReserved lease then
    (.error (.sessionSeatUnavailable, lease), c)
  else
    (.ok ({ seat := lease.seat, attemptId := lease.attemptId, lifecycleId := lease.lifecycleId,
            generation := lease.generation, precommitRuntime := lease.precommitRuntime },
          lease.previousVt),
      { c with
        phase := .pendingLifecycle lease.attemptId lease.lifecycleId lease.generation })

def commit (c : SeatAdmissionController) (lease : PendingLifecycleLease)
    (recovery : RecoveryAdmissionState) :
    Except (SessionError × PendingLifecycleLease) LaunchCommitReceipt ×
      SeatAdmissionController :=
  if recovery ≠ .clear || !c.matchesPending lease then
    (.error (.sessionSeatUnavailable, lease), c)
  else
    (.ok { seat := lease.seat, attemptId := lease.attemptId, lifecycleId := lease.lifecycleId,
           generation := lease.generation, precommitRuntime := lease.precommitRuntime },
      { c with
        phase := .launchCommitted lease.attemptId lease.lifecycleId lease.generation })

def promoteCommittedToRunning (c : SeatAdmissionController) (receipt : LaunchCommitReceipt)
    (removed : Bool) : Except SessionError RunningSeatReceipt × SeatAdmissionController :=
  if !c.matchesCommitted receipt then
    (.error .workerProtocolFailed, c)
  else
    match removePrecommitRuntime receipt.precommitRuntime removed with
    | .error e => (.error e, c)
    | .ok () =>
      (.ok { seat := receipt.seat, lifecycleId := receipt.lifecycleId,
             generation := receipt.generation },
        { c with phase := .free, lifecycle := .active receipt.lifecycleId })

def enterRecovery (c : SeatAdmissionController) (receipt : RunningSeatReceipt) (phase : String)
    (reason : WorkerExitClassification) :
    Except SessionError RecoverySeatReceipt × SeatAdmissionController :=
  if !c.matchesRunning receipt then
    (.error .sessionSeatUnavailable, c)
  else
    (.ok { seat := receipt.seat, lifecycleId := receipt.lifecycleId,
           generation := receipt.generation },
      { c with lifecycle := .recovering receipt.lifecycleId phase reason })

def enterQuarantineFromPending (c : SeatAdmissionController) (receipt : PendingLifecycleLease)
    (stage : EmergencyRecoveryStage) (reason : SupervisorRecoveryError) :
    Except SessionError Unit × SeatAdmissionController :=
  if !c.matchesPending receipt then
    (.error .sessionSeatUnavailable, c)
  else
    (.ok (), { c with phase := .free, lifecycle := .quarantined receipt.lifecycleId stage reason })

def quarantinePendingLifecycle (c : SeatAdmissionController) (lifecycleId : String)
    (stage : EmergencyRecoveryStage) (reason : SupervisorRecoveryError) :
    Except SessionError Unit × SeatAdmissionController :=
  if !c.pendingLifecycleIs lifecycleId then
    (.error .sessionSeatUnavailable, c)
  else
    (.ok (), { c with phase := .free, lifecycle := .quarantined lifecycleId stage reason })

def enterQuarantineFromRunning (c : SeatAdmissionController) (receipt : RunningSeatReceipt)
    (stage : EmergencyRecoveryStage) (reason : SupervisorRecoveryError) :
    Except SessionError Unit × SeatAdmissionController :=
  if !c.matchesRunning receipt then
    (.error .sessionSeatUnavailable, c)
  else
    (.ok (), { c with lifecycle := .quarantined receipt.lifecycleId stage reason })

def enterQuarantineFromRecovery (c : SeatAdmissionController) (receipt : RecoverySeatReceipt)
    (stage : EmergencyRecoveryStage) (reason : SupervisorRecoveryError) :
    Except SessionError Unit × SeatAdmissionController :=
  if !c.matchesRecovering receipt then
    (.error .sessionSeatUnavailable, c)
  else
    (.ok (), { c with lifecycle := .quarantined receipt.lifecycleId stage reason })

def releaseAfterA3Finalization (c : SeatAdmissionController) (receipt : RecoverySeatReceipt) :
    Except SessionError Unit × SeatAdmissionController :=
  if !c.matchesRecovering receipt then
    (.error .sessionSeatUnavailable, c)
  else
    (.ok (), { c with lifecycle := .free })

def releaseRunningAfterA3Finalization (c : SeatAdmissionController)
    (receipt : RunningSeatReceipt) : Except SessionError Unit × SeatAdmissionController :=
  if !c.matchesRunning receipt then
    (.error .sessionSeatUnavailable, c)
  else
    (.ok (), { c with lifecycle := .free })

def enterQuarantineForAdmin (c : SeatAdmissionController) (lifecycleId : String) :
    Except SessionError Unit × SeatAdmissionController :=
  if lifecycleId.isEmpty then
    (.error .sessionSeatUnavailable, c)
  else if c.quarantinedAs lifecycleId then
    (.ok (), c)
  else if !c.isFree || c.phase ≠ .free then
    (.error .sessionSeatUnavailable, c)
  else
    (.ok (), { c with
      generation := max (wrappingAdd c.generation 1) 1
      lifecycle := .quarantined lifecycleId .vtRecovery .vtDisallocateBusy })

def pendingRecovery (c : SeatAdmissionController) (lifecycleId : String) (phase : String)
    (reason : WorkerExitClassification) :
    Except SessionError RecoverySeatReceipt × SeatAdmissionController :=
  if !c.pendingLifecycleIs lifecycleId then
    (.error .sessionSeatUnavailable, c)
  else
    (.ok { seat := c.seat, lifecycleId, generation := c.generation },
      { c with phase := .free, lifecycle := .recovering lifecycleId phase reason })

def issueAdminFinalizationReceipt (c : SeatAdmissionController)
    (removed : RecordRemovedReceipt) : Except SessionError AdminFinalizationReceipt :=
  if removed.seat ≠ c.seat || !c.quarantinedAs removed.lifecycleId || c.generation = 0 then
    .error .sessionSeatUnavailable
  else
    match c.lifecycle with
    | .quarantined lifecycleId _ _ =>
      .ok { seat := removed.seat, lifecycleId, seatGeneration := c.generation,
            recoveryRecordId := removed.recordId, finalizationSequence := removed.sequence }
    | _ => .error .sessionSeatUnavailable

def releaseAfterAdminFinalization (c : SeatAdmissionController)
    (receipt : AdminFinalizationReceipt) : Except SessionError Unit × SeatAdmissionController :=
  if receipt.seat ≠ c.seat || receipt.seatGeneration ≠ c.generation ||
      receipt.recoveryRecordId.isEmpty || receipt.finalizationSequence = 0 ||
      !c.quarantinedAs receipt.lifecycleId then
    (.error .sessionSeatUnavailable, c)
  else
    (.ok (), { c with lifecycle := .free })

def matchesRollback (c : SeatAdmissionController) : AdmissionRollbackLease → Bool
  | .reserved value => c.matchesReserved value
  | .pending value => c.matchesPending value

def cancel (c : SeatAdmissionController) (lease : AdmissionRollbackLease) (removed : Bool) :
    Except SessionError Unit × SeatAdmissionController :=
  if !c.matchesRollback lease then
    (.error .sessionSeatUnavailable, c)
  else
    let binding := match lease with
      | .reserved value => value.precommitRuntime
      | .pending value => value.precommitRuntime
    match removePrecommitRuntime binding removed with
    | .error e => (.error e, c)
    | .ok () => (.ok (), { c with phase := .free })

section Matching
variable (c : SeatAdmissionController)

theorem matchesReserved_iff (lease : AdmissionLease) : c.matchesReserved lease = true ↔
    c.phase = .reserved lease.attemptId lease.lifecycleId lease.generation ∧
      lease.seat = c.seat ∧ lease.generation = c.generation := by
  unfold matchesReserved
  split
  next h =>
    simp only [h, Bool.and_eq_true, beq_iff_eq, AdmissionPhase.reserved.injEq]
    tauto
  next h =>
    refine iff_of_false Bool.false_ne_true fun hc => ?_
    exact h _ _ _ hc.1

theorem matchesPending_iff (lease : PendingLifecycleLease) : c.matchesPending lease = true ↔
    c.phase = .pendingLifecycle lease.attemptId lease.lifecycleId lease.generation ∧
      lease.seat = c.seat ∧ lease.generation = c.generation := by
  unfold matchesPending
  split
  next h =>
    simp only [h, Bool.and_eq_true, beq_iff_eq, AdmissionPhase.pendingLifecycle.injEq]
    tauto
  next h =>
    refine iff_of_false Bool.false_ne_true fun hc => ?_
    exact h _ _ _ hc.1

theorem matchesRunning_iff (receipt : RunningSeatReceipt) : c.matchesRunning receipt = true ↔
    c.lifecycle = .active receipt.lifecycleId ∧ receipt.seat = c.seat ∧
      receipt.generation = c.generation := by
  unfold matchesRunning
  split
  next h =>
    simp only [h, Bool.and_eq_true, beq_iff_eq, SeatLifecycle.active.injEq]
    tauto
  next h =>
    refine iff_of_false Bool.false_ne_true fun hc => ?_
    exact h _ hc.1

end Matching

end SeatAdmissionController

/-- `attach_precommit_runtime` on a fresh lease. -/
def AdmissionLease.attachPrecommitRuntime (lease : AdmissionLease)
    (binding : PreCommitRuntimeBinding) : Except SessionError AdmissionLease :=
  if binding.lifecycleId ≠ lease.lifecycleId then .error .workerProtocolFailed
  else .ok { lease with precommitRuntime := some binding }

/-- The binding is taken out of its lease first, so a failed store call leaves `none`. -/
def updateBinding (binding : Option PreCommitRuntimeBinding)
    (answer : Except Unit PreCommitRuntimeBinding) :
    Except SessionError Unit × Option PreCommitRuntimeBinding :=
  match binding with
  | none => (.ok (), none)
  | some _ =>
    match answer with
    | .ok updated => (.ok (), some updated)
    | .error () => (.error .persistentRecoveryUnavailable, none)

def AdmissionLease.updatePrecommitRuntime (lease : AdmissionLease)
    (answer : Except Unit PreCommitRuntimeBinding) :
    Except SessionError Unit × AdmissionLease :=
  let (result, precommitRuntime) := updateBinding lease.precommitRuntime answer
  (result, { lease with precommitRuntime })

def LaunchCommitReceipt.markPrecommitHandoffCommitted (receipt : LaunchCommitReceipt)
    (answer : Except Unit PreCommitRuntimeBinding) :
    Except SessionError Unit × LaunchCommitReceipt :=
  let (result, precommitRuntime) := updateBinding receipt.precommitRuntime answer
  (result, { receipt with precommitRuntime })

end Niralis
