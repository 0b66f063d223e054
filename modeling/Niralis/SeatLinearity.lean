import Mathlib.Order.Basic
import Niralis.Runs
import Niralis.SeatAdmission

namespace Niralis

/-- A lease or receipt in circulation. Administrative receipts are kept apart: several may be
issued for one quarantine. -/
inductive Capability
  | admission (lease : AdmissionLease)
  | pending (lease : PendingLifecycleLease)
  | commit (receipt : LaunchCommitReceipt)
  | running (receipt : RunningSeatReceipt)
  | recovery (receipt : RecoverySeatReceipt)
  deriving DecidableEq, Repr

namespace Capability

def generation : Capability → Nat
  | admission l => l.generation
  | pending l => l.generation
  | commit r => r.generation
  | running r => r.generation
  | recovery r => r.generation

/-- The place of the capability in the life of its generation. -/
def rank : Capability → Nat
  | admission _ => 1
  | pending _ => 2
  | commit _ => 3
  | running _ => 4
  | recovery _ => 5

/-- The capability without its pre-commit binding, which changes while the lease is held. -/
def unbound : Capability → Capability
  | admission l => admission { l with precommitRuntime := none }
  | pending l => pending { l with precommitRuntime := none }
  | commit r => commit { r with precommitRuntime := none }
  | running r => running r
  | recovery r => recovery r

end Capability

inductive AdmissionOp
  | reserve (lifecycleId : String) (recovery : RecoveryAdmissionState)
      (previousVt : PreviousVtIdentity)
  | promote (lease : AdmissionLease) (recovery : RecoveryAdmissionState)
  | commit (lease : PendingLifecycleLease) (recovery : RecoveryAdmissionState)
  | promoteCommittedToRunning (receipt : LaunchCommitReceipt) (removed : Bool)
  | enterRecovery (receipt : RunningSeatReceipt) (phase : String)
      (reason : WorkerExitClassification)
  | pendingRecovery (lifecycleId : String) (phase : String) (reason : WorkerExitClassification)
  | enterQuarantineFromPending (receipt : PendingLifecycleLease)
      (stage : EmergencyRecoveryStage) (reason : SupervisorRecoveryError)
  | quarantinePendingLifecycle (lifecycleId : String) (stage : EmergencyRecoveryStage)
      (reason : SupervisorRecoveryError)
  | enterQuarantineFromRunning (receipt : RunningSeatReceipt) (stage : EmergencyRecoveryStage)
      (reason : SupervisorRecoveryError)
  | enterQuarantineFromRecovery (receipt : RecoverySeatReceipt)
      (stage : EmergencyRecoveryStage) (reason : SupervisorRecoveryError)
  | releaseAfterA3Finalization (receipt : RecoverySeatReceipt)
  | releaseRunningAfterA3Finalization (receipt : RunningSeatReceipt)
  | enterQuarantineForAdmin (lifecycleId : String)
  | issueAdminFinalizationReceipt (removed : RecordRemovedReceipt)
  | releaseAfterAdminFinalization (receipt : AdminFinalizationReceipt)
  | cancel (lease : AdmissionRollbackLease) (removed : Bool)
  deriving DecidableEq, Repr

/-- What a successful operation hands to its caller. -/
inductive Issued
  | nothing
  | capability (t : Capability)
  | adminReceipt (r : AdminFinalizationReceipt)
  deriving DecidableEq, Repr

namespace AdmissionOp

/-- The lease or receipt the operation takes by value. -/
def consumes : AdmissionOp → Option Capability
  | promote lease _ => some (.admission lease)
  | commit lease _ => some (.pending lease)
  | promoteCommittedToRunning receipt _ => some (.commit receipt)
  | enterRecovery receipt _ _ => some (.running receipt)
  | enterQuarantineFromPending receipt _ _ => some (.pending receipt)
  | enterQuarantineFromRunning receipt _ _ => some (.running receipt)
  | enterQuarantineFromRecovery receipt _ _ => some (.recovery receipt)
  | releaseAfterA3Finalization receipt => some (.recovery receipt)
  | releaseRunningAfterA3Finalization receipt => some (.running receipt)
  | cancel (.reserved lease) _ => some (.admission lease)
  | cancel (.pending lease) _ => some (.pending lease)
  | _ => none

/-- The lifecycle id by which an operation reaches a pending lease it does not hold. -/
def pendingId : AdmissionOp → Option String
  | pendingRecovery lifecycleId _ _ => some lifecycleId
  | quarantinePendingLifecycle lifecycleId _ _ => some lifecycleId
  | _ => none

/-- No recovery block and no store failure stands in the way of the operation. -/
def Unobstructed : AdmissionOp → Prop
  | reserve _ recovery _ => recovery = .clear
  | promote _ recovery => recovery = .clear
  | commit _ recovery => recovery = .clear
  | promoteCommittedToRunning _ removed => removed = true
  | cancel _ removed => removed = true
  | _ => True

def apply (c : SeatAdmissionController) : AdmissionOp →
    Except SessionError Issued × SeatAdmissionController
  | reserve lifecycleId recovery previousVt =>
    (c.reserve lifecycleId recovery previousVt).map
      (Except.map fun l => .capability (.admission l)) id
  | promote lease recovery =>
    (c.promote lease recovery).map
      (fun r => (r.mapError Prod.fst).map fun p => .capability (.pending p.1)) id
  | commit lease recovery =>
    (c.commit lease recovery).map
      (fun r => (r.mapError Prod.fst).map fun p => .capability (.commit p)) id
  | promoteCommittedToRunning receipt removed =>
    (c.promoteCommittedToRunning receipt removed).map
      (Except.map fun r => .capability (.running r)) id
  | enterRecovery receipt phase reason =>
    (c.enterRecovery receipt phase reason).map
      (Except.map fun r => .capability (.recovery r)) id
  | pendingRecovery lifecycleId phase reason =>
    (c.pendingRecovery lifecycleId phase reason).map
      (Except.map fun r => .capability (.recovery r)) id
  | enterQuarantineFromPending receipt stage reason =>
    (c.enterQuarantineFromPending receipt stage reason).map
      (Except.map fun _ => .nothing) id
  | quarantinePendingLifecycle lifecycleId stage reason =>
    (c.quarantinePendingLifecycle lifecycleId stage reason).map
      (Except.map fun _ => .nothing) id
  | enterQuarantineFromRunning receipt stage reason =>
    (c.enterQuarantineFromRunning receipt stage reason).map
      (Except.map fun _ => .nothing) id
  | enterQuarantineFromRecovery receipt stage reason =>
    (c.enterQuarantineFromRecovery receipt stage reason).map
      (Except.map fun _ => .nothing) id
  | releaseAfterA3Finalization receipt =>
    (c.releaseAfterA3Finalization receipt).map (Except.map fun _ => .nothing) id
  | releaseRunningAfterA3Finalization receipt =>
    (c.releaseRunningAfterA3Finalization receipt).map (Except.map fun _ => .nothing) id
  | enterQuarantineForAdmin lifecycleId =>
    (c.enterQuarantineForAdmin lifecycleId).map (Except.map fun _ => .nothing) id
  | issueAdminFinalizationReceipt removed =>
    ((c.issueAdminFinalizationReceipt removed).map .adminReceipt, c)
  | releaseAfterAdminFinalization receipt =>
    (c.releaseAfterAdminFinalization receipt).map (Except.map fun _ => .nothing) id
  | cancel lease removed =>
    (c.cancel lease removed).map (Except.map fun _ => .nothing) id

end AdmissionOp

/-- The controller together with every lease and receipt it ever issued. A consumed one stays
listed, so the results also cover callers that would try it again. -/
structure SeatWorld where
  controller : SeatAdmissionController
  issued : List Capability
  adminIssued : List AdminFinalizationReceipt

inductive AdmissionAction
  | operation (op : AdmissionOp)
  | attachPrecommitRuntime (lease : AdmissionLease) (binding : PreCommitRuntimeBinding)
  | updatePrecommitRuntime (lease : AdmissionLease)
      (answer : Except Unit PreCommitRuntimeBinding)
  | markPrecommitHandoffCommitted (receipt : LaunchCommitReceipt)
      (answer : Except Unit PreCommitRuntimeBinding)

namespace SeatWorld

def new (seat : String) (lifecycle : SeatLifecycle) : SeatWorld where
  controller := .new seat lifecycle
  issued := []
  adminIssued := []

def replace (w : SeatWorld) (old updated : Capability) : SeatWorld :=
  { w with issued := w.issued.map fun t => if t = old then updated else t }

def perform (w : SeatWorld) (op : AdmissionOp) : SeatWorld :=
  match op.apply w.controller with
  | (.ok (.capability t), c) => { w with controller := c, issued := t :: w.issued }
  | (.ok (.adminReceipt r), c) => { w with controller := c, adminIssued := r :: w.adminIssued }
  | (_, c) => { w with controller := c }

def step (w : SeatWorld) : AdmissionAction → SeatWorld
  | .operation op => w.perform op
  | .attachPrecommitRuntime lease binding =>
    match lease.attachPrecommitRuntime binding with
    | .ok updated => w.replace (.admission lease) (.admission updated)
    | .error _ => w
  | .updatePrecommitRuntime lease answer =>
    w.replace (.admission lease) (.admission (lease.updatePrecommitRuntime answer).2)
  | .markPrecommitHandoffCommitted receipt answer =>
    w.replace (.commit receipt) (.commit (receipt.markPrecommitHandoffCommitted answer).2)

/-- The operation is applied to a capability that was issued, and its step does not wrap the
generation counter. -/
def Admits (w : SeatWorld) : AdmissionAction → Prop
  | .operation op =>
    (∀ t, op.consumes = some t → t ∈ w.issued) ∧
      (∀ r, op = .releaseAfterAdminFinalization r → r ∈ w.adminIssued) ∧
      w.controller.generation ≤ (op.apply w.controller).2.generation
  | _ => True

end SeatWorld

/-- Some operation that takes the capability succeeds. -/
def Accepted (c : SeatAdmissionController) (t : Capability) : Prop :=
  ∃ op : AdmissionOp, op.consumes = some t ∧ (op.apply c).1.isOk = true

/-- The operation would decide the fate of `t`: it takes `t`, or it reaches the pending lease
`t` by the lifecycle id while `t` is the one the phase stands for. -/
def Competes (c : SeatAdmissionController) (op : AdmissionOp) (t : Capability) : Prop :=
  op.consumes = some t ∨
    ∃ lease, t = .pending lease ∧ op.pendingId = some lease.lifecycleId ∧
      c.matchesPending lease = true

def Wins (c : SeatAdmissionController) (op : AdmissionOp) (t : Capability) : Prop :=
  Competes c op t ∧ (op.apply c).1.isOk = true

namespace SeatAdmissionController

/-- How far the current generation has come; `Free` and `Quarantined` end it. -/
def progress (c : SeatAdmissionController) : Nat :=
  match c.phase with
  | .reserved .. => 1
  | .pendingLifecycle .. => 2
  | .launchCommitted .. => 3
  | .free =>
    match c.lifecycle with
    | .active _ => 4
    | .recovering .. => 5
    | .free | .quarantined .. => 6

structure WellFormed (c : SeatAdmissionController) : Prop where
  exclusive : c.phase = .free ∨ c.lifecycle = .free
  reserved_generation : ∀ a l g, c.phase = .reserved a l g → g = c.generation
  pending_generation : ∀ a l g, c.phase = .pendingLifecycle a l g → g = c.generation
  committed_generation : ∀ a l g, c.phase = .launchCommitted a l g → g = c.generation

/-- Later in the lexicographic order of generation and progress. -/
def Before (c c' : SeatAdmissionController) : Prop :=
  c.generation < c'.generation ∨ c.generation = c'.generation ∧ c.progress ≤ c'.progress

theorem Before.refl (c : SeatAdmissionController) : c.Before c := Or.inr ⟨rfl, le_rfl⟩

/-- The capability is the one the phase or the lifecycle of the controller stands for. -/
def stands (c : SeatAdmissionController) : Capability → Bool
  | .admission lease => c.matchesReserved lease
  | .pending lease => c.matchesPending lease
  | .commit receipt => c.matchesCommitted receipt
  | .running receipt => c.matchesRunning receipt
  | .recovery receipt => c.matchesRecovering receipt

end SeatAdmissionController

open SeatAdmissionController

/-- Everything a successful operation can do, with the guards it passed. -/
inductive SeatTransition (c : SeatAdmissionController) :
    AdmissionOp → Issued → SeatAdmissionController → Prop
  | reserve {lifecycleId : String} {previousVt : PreviousVtIdentity} :
    c.phase = .free → c.lifecycle = .free →
    SeatTransition c (.reserve lifecycleId .clear previousVt)
      (.capability (.admission ⟨c.seat, c.nextAttemptId, lifecycleId,
        wrappingAdd c.generation 1, previousVt, none⟩))
      { c with
        nextAttemptId := max (wrappingAdd c.nextAttemptId 1) 1
        generation := wrappingAdd c.generation 1
        phase := .reserved c.nextAttemptId lifecycleId (wrappingAdd c.generation 1) }
  | promote {lease : AdmissionLease} : c.stands (.admission lease) = true →
    SeatTransition c (.promote lease .clear)
      (.capability (.pending ⟨lease.seat, lease.attemptId, lease.lifecycleId, lease.generation,
        lease.precommitRuntime⟩))
      { c with phase := .pendingLifecycle lease.attemptId lease.lifecycleId lease.generation }
  | commit {lease : PendingLifecycleLease} : c.stands (.pending lease) = true →
    SeatTransition c (.commit lease .clear)
      (.capability (.commit ⟨lease.seat, lease.attemptId, lease.lifecycleId, lease.generation,
        lease.precommitRuntime⟩))
      { c with phase := .launchCommitted lease.attemptId lease.lifecycleId lease.generation }
  | promoteCommittedToRunning {receipt : LaunchCommitReceipt} {removed : Bool} :
    c.stands (.commit receipt) = true →
    SeatTransition c (.promoteCommittedToRunning receipt removed)
      (.capability (.running ⟨receipt.seat, receipt.lifecycleId, receipt.generation⟩))
      { c with phase := .free, lifecycle := .active receipt.lifecycleId }
  | enterRecovery {receipt : RunningSeatReceipt} {phase : String}
      {reason : WorkerExitClassification} : c.stands (.running receipt) = true →
    SeatTransition c (.enterRecovery receipt phase reason)
      (.capability (.recovery ⟨receipt.seat, receipt.lifecycleId, receipt.generation⟩))
      { c with lifecycle := .recovering receipt.lifecycleId phase reason }
  | pendingRecovery {lifecycleId phase : String} {reason : WorkerExitClassification} :
    c.pendingLifecycleIs lifecycleId = true →
    SeatTransition c (.pendingRecovery lifecycleId phase reason)
      (.capability (.recovery ⟨c.seat, lifecycleId, c.generation⟩))
      { c with phase := .free, lifecycle := .recovering lifecycleId phase reason }
  | enterQuarantineFromPending {lease : PendingLifecycleLease} {stage : EmergencyRecoveryStage}
      {reason : SupervisorRecoveryError} : c.stands (.pending lease) = true →
    SeatTransition c (.enterQuarantineFromPending lease stage reason) .nothing
      { c with phase := .free, lifecycle := .quarantined lease.lifecycleId stage reason }
  | quarantinePendingLifecycle {lifecycleId : String} {stage : EmergencyRecoveryStage}
      {reason : SupervisorRecoveryError} : c.pendingLifecycleIs lifecycleId = true →
    SeatTransition c (.quarantinePendingLifecycle lifecycleId stage reason) .nothing
      { c with phase := .free, lifecycle := .quarantined lifecycleId stage reason }
  | enterQuarantineFromRunning {receipt : RunningSeatReceipt} {stage : EmergencyRecoveryStage}
      {reason : SupervisorRecoveryError} : c.stands (.running receipt) = true →
    SeatTransition c (.enterQuarantineFromRunning receipt stage reason) .nothing
      { c with lifecycle := .quarantined receipt.lifecycleId stage reason }
  | enterQuarantineFromRecovery {receipt : RecoverySeatReceipt}
      {stage : EmergencyRecoveryStage} {reason : SupervisorRecoveryError} :
    c.stands (.recovery receipt) = true →
    SeatTransition c (.enterQuarantineFromRecovery receipt stage reason) .nothing
      { c with lifecycle := .quarantined receipt.lifecycleId stage reason }
  | releaseAfterA3Finalization {receipt : RecoverySeatReceipt} :
    c.stands (.recovery receipt) = true →
    SeatTransition c (.releaseAfterA3Finalization receipt) .nothing { c with lifecycle := .free }
  | releaseRunningAfterA3Finalization {receipt : RunningSeatReceipt} :
    c.stands (.running receipt) = true →
    SeatTransition c (.releaseRunningAfterA3Finalization receipt) .nothing
      { c with lifecycle := .free }
  | alreadyQuarantined {lifecycleId : String} : c.quarantinedAs lifecycleId = true →
    SeatTransition c (.enterQuarantineForAdmin lifecycleId) .nothing c
  | enterQuarantineForAdmin {lifecycleId : String} : c.phase = .free → c.lifecycle = .free →
    SeatTransition c (.enterQuarantineForAdmin lifecycleId) .nothing
      { c with
        generation := max (wrappingAdd c.generation 1) 1
        lifecycle := .quarantined lifecycleId .vtRecovery .vtDisallocateBusy }
  | issueAdminFinalizationReceipt {removed : RecordRemovedReceipt}
      {receipt : AdminFinalizationReceipt} :
    c.quarantinedAs receipt.lifecycleId = true → receipt.seatGeneration = c.generation →
    SeatTransition c (.issueAdminFinalizationReceipt removed) (.adminReceipt receipt) c
  | releaseAfterAdminFinalization {receipt : AdminFinalizationReceipt} :
    receipt.seat = c.seat → receipt.seatGeneration = c.generation →
    receipt.recoveryRecordId.isEmpty = false → receipt.finalizationSequence ≠ 0 →
    c.quarantinedAs receipt.lifecycleId = true →
    SeatTransition c (.releaseAfterAdminFinalization receipt) .nothing { c with lifecycle := .free }
  | cancelReserved {lease : AdmissionLease} {removed : Bool} :
    c.stands (.admission lease) = true →
    SeatTransition c (.cancel (.reserved lease) removed) .nothing { c with phase := .free }
  | cancelPending {lease : PendingLifecycleLease} {removed : Bool} :
    c.stands (.pending lease) = true →
    SeatTransition c (.cancel (.pending lease) removed) .nothing { c with phase := .free }

section Apply
variable {c : SeatAdmissionController} {op : AdmissionOp}

theorem apply_cases (c : SeatAdmissionController) (op : AdmissionOp) :
    (∃ e, op.apply c = (.error e, c)) ∨
      ∃ out c', op.apply c = (.ok out, c') ∧ SeatTransition c op out c' := by
  -- every operation has one guard, and moves the seat only behind it
  cases op with
  | reserve lifecycleId recovery previousVt =>
    simp only [AdmissionOp.apply, reserve]
    split
    · exact Or.inl ⟨_, rfl⟩
    · next h =>
      simp only [Bool.or_eq_true, decide_eq_true_eq, not_or, not_not] at h
      obtain ⟨⟨⟨-, rfl⟩, hp⟩, hl⟩ := h
      exact Or.inr ⟨_, _, rfl, .reserve hp hl⟩
  | promote lease recovery =>
    simp only [AdmissionOp.apply, promote]
    split
    · exact Or.inl ⟨_, rfl⟩
    · next h =>
      simp only [Bool.or_eq_true, decide_eq_true_eq, not_or, not_not, Bool.not_eq_true',
        Bool.not_eq_false] at h
      obtain ⟨rfl, hm⟩ := h
      exact Or.inr ⟨_, _, rfl, .promote hm⟩
  | commit lease recovery =>
    simp only [AdmissionOp.apply, commit]
    split
    · exact Or.inl ⟨_, rfl⟩
    · next h =>
      simp only [Bool.or_eq_true, decide_eq_true_eq, not_or, not_not, Bool.not_eq_true',
        Bool.not_eq_false] at h
      obtain ⟨rfl, hm⟩ := h
      exact Or.inr ⟨_, _, rfl, .commit hm⟩
  | promoteCommittedToRunning receipt removed =>
    simp only [AdmissionOp.apply, promoteCommittedToRunning]
    split
    · exact Or.inl ⟨_, rfl⟩
    · next h =>
      split
      · exact Or.inl ⟨_, rfl⟩
      · exact Or.inr ⟨_, _, rfl, .promoteCommittedToRunning (by simpa [stands] using h)⟩
  | enterRecovery receipt phase reason =>
    simp only [AdmissionOp.apply, enterRecovery]
    split
    · exact Or.inl ⟨_, rfl⟩
    · next h => exact Or.inr ⟨_, _, rfl, .enterRecovery (by simpa [stands] using h)⟩
  | pendingRecovery lifecycleId phase reason =>
    simp only [AdmissionOp.apply, pendingRecovery]
    split
    · exact Or.inl ⟨_, rfl⟩
    · next h => exact Or.inr ⟨_, _, rfl, .pendingRecovery (by simpa using h)⟩
  | enterQuarantineFromPending lease stage reason =>
    simp only [AdmissionOp.apply, enterQuarantineFromPending]
    split
    · exact Or.inl ⟨_, rfl⟩
    · next h => exact Or.inr ⟨_, _, rfl, .enterQuarantineFromPending (by simpa [stands] using h)⟩
  | quarantinePendingLifecycle lifecycleId stage reason =>
    simp only [AdmissionOp.apply, quarantinePendingLifecycle]
    split
    · exact Or.inl ⟨_, rfl⟩
    · next h => exact Or.inr ⟨_, _, rfl, .quarantinePendingLifecycle (by simpa using h)⟩
  | enterQuarantineFromRunning receipt stage reason =>
    simp only [AdmissionOp.apply, enterQuarantineFromRunning]
    split
    · exact Or.inl ⟨_, rfl⟩
    · next h => exact Or.inr ⟨_, _, rfl, .enterQuarantineFromRunning (by simpa [stands] using h)⟩
  | enterQuarantineFromRecovery receipt stage reason =>
    simp only [AdmissionOp.apply, enterQuarantineFromRecovery]
    split
    · exact Or.inl ⟨_, rfl⟩
    · next h =>
      exact Or.inr ⟨_, _, rfl, .enterQuarantineFromRecovery (by simpa [stands] using h)⟩
  | releaseAfterA3Finalization receipt =>
    simp only [AdmissionOp.apply, releaseAfterA3Finalization]
    split
    · exact Or.inl ⟨_, rfl⟩
    · next h => exact Or.inr ⟨_, _, rfl, .releaseAfterA3Finalization (by simpa [stands] using h)⟩
  | releaseRunningAfterA3Finalization receipt =>
    simp only [AdmissionOp.apply, releaseRunningAfterA3Finalization]
    split
    · exact Or.inl ⟨_, rfl⟩
    · next h =>
      exact Or.inr ⟨_, _, rfl, .releaseRunningAfterA3Finalization (by simpa [stands] using h)⟩
  | enterQuarantineForAdmin lifecycleId =>
    simp only [AdmissionOp.apply, enterQuarantineForAdmin]
    split
    · exact Or.inl ⟨_, rfl⟩
    split
    · next h => exact Or.inr ⟨_, _, rfl, .alreadyQuarantined h⟩
    split
    · exact Or.inl ⟨_, rfl⟩
    · next h =>
      simp only [isFree, Bool.or_eq_true, Bool.not_eq_true', decide_eq_false_iff_not,
        decide_eq_true_eq, not_or, not_not] at h
      exact Or.inr ⟨_, _, rfl, .enterQuarantineForAdmin h.2 h.1⟩
  | issueAdminFinalizationReceipt removed =>
    simp only [AdmissionOp.apply, issueAdminFinalizationReceipt]
    split
    · exact Or.inl ⟨_, rfl⟩
    split
    · next h =>
      exact Or.inr ⟨_, _, rfl, .issueAdminFinalizationReceipt (by simp [quarantinedAs, h]) rfl⟩
    · exact Or.inl ⟨_, rfl⟩
  | releaseAfterAdminFinalization receipt =>
    simp only [AdmissionOp.apply, releaseAfterAdminFinalization]
    split
    · exact Or.inl ⟨_, rfl⟩
    · next h =>
      simp only [Bool.or_eq_true, decide_eq_true_eq, not_or, not_not, Bool.not_eq_true',
        Bool.not_eq_false, Bool.not_eq_true] at h
      obtain ⟨⟨⟨⟨hs, hg⟩, hr⟩, hn⟩, hq⟩ := h
      exact Or.inr ⟨_, _, rfl, .releaseAfterAdminFinalization hs hg hr hn hq⟩
  | cancel lease removed =>
    simp only [AdmissionOp.apply, cancel]
    split
    · exact Or.inl ⟨_, rfl⟩
    · next h =>
      have hm : c.matchesRollback lease = true := by simpa using h
      split
      · exact Or.inl ⟨_, rfl⟩
      · cases lease with
        | reserved lease => exact Or.inr ⟨_, _, rfl, .cancelReserved hm⟩
        | pending lease => exact Or.inr ⟨_, _, rfl, .cancelPending hm⟩

theorem apply_error {e : SessionError} (h : (op.apply c).1 = .error e) : (op.apply c).2 = c := by
  rcases apply_cases c op with ⟨e', he⟩ | ⟨out, c', ho, -⟩
  · rw [he]
  · simp [ho] at h

theorem transition_of_ok (h : (op.apply c).1.isOk = true) :
    ∃ out, (op.apply c).1 = .ok out ∧ SeatTransition c op out (op.apply c).2 := by
  rcases apply_cases c op with ⟨e, he⟩ | ⟨out, c', ho, ht⟩
  · rw [he] at h
    cases h
  · rw [ho]
    exact ⟨out, rfl, ht⟩

end Apply

section Transition
variable {c c' : SeatAdmissionController} {op : AdmissionOp} {out : Issued}

/-- A capability taken with success is the one the controller stands for. -/
theorem SeatTransition.stands {t : Capability} (h : SeatTransition c op out c')
    (hop : op.consumes = some t) : c.stands t = true := by
  cases h <;> simp_all [AdmissionOp.consumes]

theorem position_of_stands {t : Capability} (hw : c.WellFormed) (h : c.stands t = true) :
    t.generation = c.generation ∧ t.rank = c.progress := by
  have := hw.exclusive
  cases t <;>
    simp only [stands, matchesReserved, matchesPending, matchesCommitted, matchesRunning,
      matchesRecovering, Capability.generation, Capability.rank, progress] at h ⊢ <;>
    grind

theorem phase_of_pendingLifecycleIs {lifecycleId : String}
    (h : c.pendingLifecycleIs lifecycleId = true) :
    c.progress = 2 ∧ c.phase ≠ .free := by
  unfold pendingLifecycleIs at h
  unfold progress
  split at h <;> simp_all

theorem phase_of_quarantinedAs {lifecycleId : String} (hw : c.WellFormed)
    (h : c.quarantinedAs lifecycleId = true) : c.phase = .free ∧ c.progress = 6 := by
  have := hw.exclusive
  unfold quarantinedAs at h
  unfold progress
  split at h <;> simp_all

theorem Capability.rank_le (t : Capability) : t.rank ≤ 5 := by
  cases t <;> simp [Capability.rank]

theorem phase_free_iff_rank {t : Capability} (hw : c.WellFormed) (h : c.stands t = true) :
    c.phase = .free ↔ 4 ≤ t.rank := by
  have := hw.exclusive
  cases t <;>
    simp only [stands, matchesReserved, matchesPending, matchesCommitted, matchesRunning,
      matchesRecovering, Capability.rank] at h ⊢ <;>
    grind

theorem lifecycle_free_of_phase (hw : c.WellFormed) (h : c.phase ≠ .free) :
    c.lifecycle = .free := hw.exclusive.resolve_left h

theorem SeatTransition.wellFormed (h : SeatTransition c op out c') (hw : c.WellFormed) :
    c'.WellFormed := by
  cases h with
  | reserve hp hl => constructor <;> simp_all
  | promote hs =>
    have := phase_free_iff_rank hw hs
    have := (position_of_stands hw hs).1
    constructor <;> simp_all [Capability.rank, Capability.generation, lifecycle_free_of_phase]
  | commit hs =>
    have := phase_free_iff_rank hw hs
    have := (position_of_stands hw hs).1
    constructor <;> simp_all [Capability.rank, Capability.generation, lifecycle_free_of_phase]
  | enterRecovery hs | enterQuarantineFromRunning hs | enterQuarantineFromRecovery hs =>
    have := phase_free_iff_rank hw hs
    constructor <;> simp_all [Capability.rank]
  | alreadyQuarantined | issueAdminFinalizationReceipt => exact hw
  | enterQuarantineForAdmin hp => constructor <;> simp_all
  | releaseAfterA3Finalization hs | releaseRunningAfterA3Finalization hs =>
    have := phase_free_iff_rank hw hs
    constructor <;> simp_all [Capability.rank]
  | releaseAfterAdminFinalization _ _ _ _ hq =>
    have := phase_of_quarantinedAs hw hq
    constructor <;> simp_all
  | _ => constructor <;> simp

/-- Deciding a lease or receipt moves the seat strictly forward in its generation. -/
theorem SeatTransition.progress_lt (h : SeatTransition c op out c') (hw : c.WellFormed)
    (hop : op.consumes ≠ none ∨ op.pendingId ≠ none) :
    c'.generation = c.generation ∧ c.progress < c'.progress := by
  cases h with
  | reserve | alreadyQuarantined | enterQuarantineForAdmin | issueAdminFinalizationReceipt
  | releaseAfterAdminFinalization => simp [AdmissionOp.consumes, AdmissionOp.pendingId] at hop
  | pendingRecovery hs | quarantinePendingLifecycle hs =>
    rw [(phase_of_pendingLifecycleIs hs).1]
    simp [progress]
  | promote hs | commit hs | promoteCommittedToRunning hs | enterQuarantineFromPending hs
  | cancelReserved hs | cancelPending hs =>
    have := phase_free_iff_rank hw hs
    have hp := lifecycle_free_of_phase hw (by simp_all [Capability.rank])
    rw [← (position_of_stands hw hs).2]
    simp [progress, Capability.rank, hp]
  | enterRecovery hs | enterQuarantineFromRunning hs | enterQuarantineFromRecovery hs
  | releaseAfterA3Finalization hs | releaseRunningAfterA3Finalization hs =>
    have := phase_free_iff_rank hw hs
    rw [← (position_of_stands hw hs).2]
    simp_all [progress, Capability.rank]

theorem SeatTransition.before (h : SeatTransition c op out c') (hw : c.WellFormed)
    (hle : c.generation ≤ c'.generation) : c.Before c' := by
  by_cases hop : op.consumes ≠ none ∨ op.pendingId ≠ none
  · obtain ⟨hg, hp⟩ := h.progress_lt hw hop
    exact Or.inr ⟨hg.symm, Nat.le_of_lt hp⟩
  cases h with
  | reserve =>
    left
    simp only [wrappingAdd, u64Bound] at hle ⊢
    omega
  | alreadyQuarantined | issueAdminFinalizationReceipt => exact Before.refl c
  | enterQuarantineForAdmin hp hl =>
    simp only [Before, wrappingAdd, u64Bound, progress, hp, hl] at hle ⊢
    omega
  | releaseAfterAdminFinalization _ _ _ _ hq =>
    obtain ⟨hp, hq⟩ := phase_of_quarantinedAs hw hq
    exact Or.inr ⟨rfl, by rw [hq]; simp [progress, hp]⟩
  | _ => simp [AdmissionOp.consumes, AdmissionOp.pendingId] at hop

/-- An issued capability is fresh: its generation, or its rank in it, was not reached before. -/
theorem SeatTransition.fresh {t : Capability} (h : SeatTransition c op (.capability t) c')
    (hw : c.WellFormed) (hle : c.generation ≤ c'.generation) :
    t.generation = c'.generation ∧ t.rank = c'.progress ∧
      (c.generation < t.generation ∨ c.generation = t.generation ∧ c.progress < t.rank) := by
  by_cases hop : op.consumes ≠ none ∨ op.pendingId ≠ none
  · obtain ⟨hg, hp⟩ := h.progress_lt hw hop
    have ht : t.generation = c'.generation ∧ t.rank = c'.progress := by
      cases h with
      | promote hs | commit hs => exact ⟨(position_of_stands hw hs).1, rfl⟩
      | promoteCommittedToRunning hs => exact ⟨(position_of_stands hw hs).1, rfl⟩
      | enterRecovery hs =>
        have := phase_free_iff_rank hw hs
        exact ⟨(position_of_stands hw hs).1, by simp_all [Capability.rank, progress]⟩
      | pendingRecovery => exact ⟨rfl, rfl⟩
      | reserve => simp [AdmissionOp.consumes, AdmissionOp.pendingId] at hop
    exact ⟨ht.1, ht.2, Or.inr ⟨by omega, by omega⟩⟩
  cases h with
  | reserve =>
    refine ⟨rfl, rfl, Or.inl ?_⟩
    simp only [Capability.generation, wrappingAdd, u64Bound] at hle ⊢
    omega
  | _ => simp [AdmissionOp.consumes, AdmissionOp.pendingId] at hop

/-- Only the matching administrative receipt takes a quarantined seat elsewhere. -/
theorem SeatTransition.quarantine_left {l : String} {st : EmergencyRecoveryStage}
    {r : SupervisorRecoveryError} (h : SeatTransition c op out c')
    (hq : c.lifecycle = .quarantined l st r) (hw : c.WellFormed)
    (hne : c'.lifecycle ≠ c.lifecycle) :
    ∃ receipt, op = .releaseAfterAdminFinalization receipt ∧ receipt.seat = c.seat ∧
      receipt.seatGeneration = c.generation ∧ receipt.lifecycleId = l ∧
      receipt.recoveryRecordId.isEmpty = false ∧ receipt.finalizationSequence ≠ 0 ∧
      c'.lifecycle = .free := by
  have hp : c.progress = 6 := by
    have : c.phase = .free := hw.exclusive.resolve_right (by simp [hq])
    simp [progress, this, hq]
  have hs (t : Capability) : ¬ c.stands t = true := by
    intro h
    have := (position_of_stands hw h).2
    have := t.rank_le
    omega
  have hn (lifecycleId : String) : ¬ c.pendingLifecycleIs lifecycleId = true := by
    intro h
    have := (phase_of_pendingLifecycleIs h).1
    omega
  cases h with
  | releaseAfterAdminFinalization hs hg hr hn hm =>
    simp only [quarantinedAs, hq, beq_iff_eq] at hm
    exact ⟨_, rfl, hs, hg, hm.symm, hr, hn, rfl⟩
  | _ => simp_all

end Transition

/-- The capability has been overtaken: no operation will take it again. -/
def Retired (c : SeatAdmissionController) (t : Capability) : Prop :=
  t.generation < c.generation ∨ t.generation = c.generation ∧ t.rank < c.progress

theorem not_stands_of_retired {c : SeatAdmissionController} {t : Capability}
    (hw : c.WellFormed) (hr : Retired c t) : c.stands t = false := by
  by_contra h
  obtain ⟨hg, hp⟩ := position_of_stands hw (by simpa using h)
  rcases hr with hr | ⟨-, hr⟩ <;> omega

theorem Retired.later {c c' : SeatAdmissionController} {t : Capability} (hr : Retired c t)
    (hb : c.Before c') : Retired c' t := by
  unfold Retired Before at *
  omega

theorem stands_of_wins {c : SeatAdmissionController} {op : AdmissionOp} {t : Capability}
    (h : Wins c op t) : c.stands t = true := by
  obtain ⟨hop | ⟨lease, rfl, -, hm⟩, hok⟩ := h
  · obtain ⟨out, -, ht⟩ := transition_of_ok hok
    exact ht.stands hop
  · exact hm

theorem retired_of_wins {c : SeatAdmissionController} {op : AdmissionOp} {t : Capability}
    (hw : c.WellFormed) (h : Wins c op t) : Retired (op.apply c).2 t := by
  obtain ⟨hg, hp⟩ := position_of_stands hw (stands_of_wins h)
  have hop : op.consumes ≠ none ∨ op.pendingId ≠ none := by
    obtain ⟨hop | ⟨lease, -, hop, -⟩, -⟩ := h
    · exact Or.inl (by simp [hop])
    · exact Or.inr (by simp [hop])
  obtain ⟨out, -, ht⟩ := transition_of_ok h.2
  obtain ⟨hg', hp'⟩ := ht.progress_lt hw hop
  exact Or.inr ⟨by omega, by omega⟩

/-- A capability the controller stands for is decided by the first unobstructed operation. -/
theorem wins_of_stands {c : SeatAdmissionController} {op : AdmissionOp} {t : Capability}
    (h : c.stands t = true) (hc : Competes c op t) (hu : op.Unobstructed) : Wins c op t := by
  refine ⟨hc, ?_⟩
  obtain hop | ⟨lease, rfl, hop, hm⟩ := hc
  · cases op <;>
      simp only [AdmissionOp.consumes, AdmissionOp.apply, AdmissionOp.Unobstructed, promote,
        commit, promoteCommittedToRunning, enterRecovery, enterQuarantineFromPending,
        enterQuarantineFromRunning, enterQuarantineFromRecovery, releaseAfterA3Finalization,
        releaseRunningAfterA3Finalization, cancel, reduceCtorEq, Option.some.injEq] at hop hu ⊢ <;>
      grind [Except.map, Except.mapError, Except.toBool, matchesRollback, stands,
        removePrecommitRuntime_true]
  · have hi : c.pendingLifecycleIs lease.lifecycleId = true := by
      unfold matchesPending at hm
      unfold pendingLifecycleIs
      split at hm <;> simp_all
    cases op <;> simp_all [AdmissionOp.pendingId, AdmissionOp.apply, pendingRecovery,
      quarantinePendingLifecycle, Except.map, Except.toBool]

theorem position_of_unbound {t u : Capability} (h : t.unbound = u.unbound) :
    t.generation = u.generation ∧ t.rank = u.rank := by
  cases t <;> cases u <;> simp_all [Capability.unbound, Capability.generation, Capability.rank]

structure SeatWorld.Linear (w : SeatWorld) : Prop where
  wellFormed : w.controller.WellFormed
  /-- nothing was issued ahead of the controller -/
  reached : ∀ t ∈ w.issued, t.generation < w.controller.generation ∨
    t.generation = w.controller.generation ∧ t.rank ≤ w.controller.progress
  /-- each generation issues each kind of capability once -/
  unique : w.issued.Pairwise fun t u => t.generation = u.generation → t.rank ≠ u.rank
  /-- an administrative receipt names a quarantine of a generation already reached -/
  admin : ∀ r ∈ w.adminIssued, r.seatGeneration ≤ w.controller.generation

namespace SeatWorld

theorem linear_new (seat : String) (lifecycle : SeatLifecycle) :
    (new seat lifecycle).Linear where
  wellFormed := by constructor <;> simp [new, SeatAdmissionController.new]
  reached := by simp [new]
  unique := by simp [new]
  admin := by simp [new]

theorem controller_perform (w : SeatWorld) (op : AdmissionOp) :
    (w.perform op).controller = (op.apply w.controller).2 := by
  unfold perform
  split <;> simp_all

theorem before_perform {w : SeatWorld} {op : AdmissionOp} (hl : w.Linear)
    (hle : w.controller.generation ≤ (op.apply w.controller).2.generation) :
    w.controller.Before (w.perform op).controller := by
  rw [controller_perform]
  rcases apply_cases w.controller op with ⟨e, he⟩ | ⟨out, c', ho, ht⟩
  · rw [he]
    exact Before.refl _
  · rw [ho] at hle ⊢
    exact ht.before hl.wellFormed hle

theorem linear_perform {w : SeatWorld} {op : AdmissionOp} (hl : w.Linear)
    (hle : w.controller.generation ≤ (op.apply w.controller).2.generation) :
    (w.perform op).Linear := by
  rcases apply_cases w.controller op with ⟨e, he⟩ | ⟨out, c', ho, ht⟩
  · have : w.perform op = w := by simp [perform, he]
    rw [this]
    exact hl
  rw [ho] at hle
  have hw := ht.wellFormed hl.wellFormed
  have hb := ht.before hl.wellFormed hle
  have hr : ∀ t ∈ w.issued, t.generation < c'.generation ∨
      t.generation = c'.generation ∧ t.rank ≤ c'.progress := by
    intro t hmem
    have := hl.reached t hmem
    unfold Before at hb
    omega
  have ha : ∀ r ∈ w.adminIssued, r.seatGeneration ≤ c'.generation :=
    fun r hmem => (hl.admin r hmem).trans hle
  -- what is issued has the position that the controller moves to
  cases out with
  | nothing =>
    have : w.perform op = { w with controller := c' } := by simp [perform, ho]
    rw [this]
    exact ⟨hw, hr, hl.unique, ha⟩
  | capability t =>
    have : w.perform op = { w with controller := c', issued := t :: w.issued } := by
      simp [perform, ho]
    rw [this]
    obtain ⟨hg, hp, hf⟩ := ht.fresh hl.wellFormed hle
    refine ⟨hw, ?_, ?_, ha⟩
    · intro u hu
      rcases List.mem_cons.mp hu with rfl | hu
      · exact Or.inr ⟨hg, hp.le⟩
      · exact hr u hu
    · refine List.pairwise_cons.mpr ⟨fun u hu hgu => ?_, hl.unique⟩
      have := hl.reached u hu
      omega
  | adminReceipt r =>
    have : w.perform op = { w with controller := c', adminIssued := r :: w.adminIssued } := by
      simp [perform, ho]
    rw [this]
    cases ht with
    | issueAdminFinalizationReceipt hq hg =>
      refine ⟨hw, hr, hl.unique, ?_⟩
      intro r' hr'
      rcases List.mem_cons.mp hr' with rfl | hr'
      · exact hg.le
      · exact ha r' hr'

theorem linear_replace {w : SeatWorld} {old updated : Capability} (hl : w.Linear)
    (hu : updated.unbound = old.unbound) : (w.replace old updated).Linear := by
  obtain ⟨hg, hp⟩ := position_of_unbound hu
  have key (t : Capability) : (if t = old then updated else t).generation = t.generation ∧
      (if t = old then updated else t).rank = t.rank := by
    split <;> simp_all
  refine ⟨hl.wellFormed, ?_, ?_, hl.admin⟩
  · intro t ht
    obtain ⟨u, hu, rfl⟩ := List.mem_map.mp ht
    rw [(key u).1, (key u).2]
    exact hl.reached u hu
  · refine List.pairwise_map.mpr (hl.unique.imp fun {t u} h hg => ?_)
    rw [(key t).2, (key u).2]
    rw [(key t).1, (key u).1] at hg
    exact h hg

theorem linear_step {w : SeatWorld} {a : AdmissionAction} (hl : w.Linear) (ha : w.Admits a) :
    (w.step a).Linear := by
  cases a with
  | operation op => exact linear_perform hl ha.2.2
  | attachPrecommitRuntime lease binding =>
    simp only [step, AdmissionLease.attachPrecommitRuntime]
    by_cases h : binding.lifecycleId = lease.lifecycleId
    · simp only [h, ne_eq, not_true_eq_false, if_false]
      exact linear_replace hl rfl
    · simp only [ne_eq, h, not_false_eq_true, if_true]
      exact hl
  | updatePrecommitRuntime lease answer => exact linear_replace hl rfl
  | markPrecommitHandoffCommitted receipt answer => exact linear_replace hl rfl

theorem before_step {w : SeatWorld} {a : AdmissionAction} (hl : w.Linear) (ha : w.Admits a) :
    w.controller.Before (w.step a).controller := by
  cases a with
  | operation op => exact before_perform hl ha.2.2
  | attachPrecommitRuntime lease binding =>
    simp only [step]
    split <;> exact Before.refl _
  | updatePrecommitRuntime lease answer => exact Before.refl _
  | markPrecommitHandoffCommitted receipt answer => exact Before.refl _

theorem linear_run {w : SeatWorld} {as : List AdmissionAction} (hl : w.Linear)
    (h : StepsMeet step Admits w as) : (as.foldl step w).Linear :=
  foldl_invariant SeatWorld.Linear (fun _ _ hl ha => linear_step hl ha) as w hl h

theorem retired_run {w : SeatWorld} {as : List AdmissionAction} {t : Capability} (hl : w.Linear)
    (hr : Retired w.controller t) (h : StepsMeet step Admits w as) :
    Retired (as.foldl step w).controller t := by
  have := foldl_invariant (fun w => w.Linear ∧ Retired w.controller t)
    (fun v a hv ha => ⟨linear_step hv.1 ha, hv.2.later (before_step hv.1 ha)⟩) as w ⟨hl, hr⟩ h
  exact this.2

theorem unique_of_stands {w : SeatWorld} {i j : Nat} {t u : Capability} (hl : w.Linear)
    (hi : w.issued[i]? = some t) (hj : w.issued[j]? = some u)
    (ht : w.controller.stands t = true) (hu : w.controller.stands u = true) : i = j := by
  obtain ⟨hit, rfl⟩ := List.getElem?_eq_some_iff.mp hi
  obtain ⟨hju, rfl⟩ := List.getElem?_eq_some_iff.mp hj
  have hpt := position_of_stands hl.wellFormed ht
  have hpu := position_of_stands hl.wellFormed hu
  have hpair := List.pairwise_iff_getElem.mp hl.unique
  rcases Nat.lt_trichotomy i j with h | h | h
  · exact absurd (hpt.2.trans hpu.2.symm) (hpair i j hit hju h (hpt.1.trans hpu.1.symm))
  · exact h
  · exact absurd (hpu.2.trans hpt.2.symm) (hpair j i hju hit h (hpu.1.trans hpt.1.symm))

end SeatWorld

/-- Seat admission is linear: whatever operations were applied to whatever leases and receipts
were ever issued, and as long as the generation counter did not wrap. -/
theorem seat_admission_linear (seat : String) (lifecycle : SeatLifecycle)
    (as : List AdmissionAction)
    (has : StepsMeet SeatWorld.step SeatWorld.Admits (.new seat lifecycle) as) :
    let w := as.foldl SeatWorld.step (.new seat lifecycle)
    let c := w.controller
    (∀ lifecycleId recovery previousVt,
      (c.reserve lifecycleId recovery previousVt).1.isOk = true →
        c.phase = .free ∧ c.lifecycle = .free) ∧
    (∀ (i j : Nat) (t u : Capability), w.issued[i]? = some t → w.issued[j]? = some u →
      Accepted c t → Accepted c u → i = j) ∧
    (∀ (op : AdmissionOp) (t : Capability), op.consumes = some t →
      t.generation < c.generation → (op.apply c).1.isOk = false ∧ (op.apply c).2 = c) ∧
    (∀ (op : AdmissionOp) (t : Capability), Accepted c t → Competes c op t →
      op.Unobstructed → Wins c op t) ∧
    (∀ (op : AdmissionOp) (t : Capability), w.Admits (.operation op) → Wins c op t →
      ∀ bs u op', StepsMeet SeatWorld.step SeatWorld.Admits (w.perform op) bs →
        u.unbound = t.unbound →
        ¬ Wins (bs.foldl SeatWorld.step (w.perform op)).controller op' u) ∧
    (∀ (op : AdmissionOp) (e : SessionError), (op.apply c).1 = .error e →
      (op.apply c).2.phase = c.phase ∧ (op.apply c).2.lifecycle = c.lifecycle ∧
        (op.apply c).2.generation = c.generation) ∧
    (c.phase = .free ∨ c.lifecycle = .free) ∧
    (∀ (op : AdmissionOp) l st r, c.lifecycle = .quarantined l st r →
      w.Admits (.operation op) → (op.apply c).2.lifecycle ≠ c.lifecycle →
      ∃ receipt ∈ w.adminIssued, op = .releaseAfterAdminFinalization receipt ∧
        receipt.seat = c.seat ∧ receipt.seatGeneration = c.generation ∧
        receipt.lifecycleId = l ∧ (op.apply c).2.lifecycle = .free) := by
  intro w c
  have hl : w.Linear := SeatWorld.linear_run (SeatWorld.linear_new seat lifecycle) has
  have haccepted {t : Capability} (h : Accepted c t) : c.stands t = true := by
    obtain ⟨op, hop, hok⟩ := h
    exact stands_of_wins ⟨Or.inl hop, hok⟩
  refine ⟨?_, ?_, ?_, ?_, ?_, ?_, hl.wellFormed.exclusive, ?_⟩
  · intro lifecycleId recovery previousVt h
    by_contra hn
    rw [not_and_or] at hn
    have : (c.reserve lifecycleId recovery previousVt).1 = .error .sessionSeatUnavailable := by
      rcases hn with hn | hn <;> simp [reserve, hn]
    rw [this] at h
    cases h
  · intro i j t u hi hj ht hu
    exact SeatWorld.unique_of_stands hl hi hj (haccepted ht) (haccepted hu)
  · intro op t hop hlt
    rcases apply_cases c op with ⟨e, he⟩ | ⟨out, c', ho, ht⟩
    · rw [he]
      exact ⟨rfl, rfl⟩
    · have hg : t.generation = c.generation :=
        (position_of_stands hl.wellFormed (ht.stands hop)).1
      exact absurd hg (Nat.ne_of_lt hlt)
  · intro op t ht hc hu
    exact wins_of_stands (haccepted ht) hc hu
  · intro op t ha hwin bs u op' hbs hunb hwin'
    have hl' : (w.perform op).Linear := SeatWorld.linear_perform hl ha.2.2
    have hret : Retired (w.perform op).controller t := by
      rw [SeatWorld.controller_perform]
      exact retired_of_wins hl.wellFormed hwin
    have hret' : Retired (w.perform op).controller u := by
      obtain ⟨hg, hp⟩ := position_of_unbound hunb
      unfold Retired at hret ⊢
      rw [hg, hp]
      exact hret
    have hdead := not_stands_of_retired (SeatWorld.linear_run hl' hbs).wellFormed
      (SeatWorld.retired_run hl' hret' hbs)
    rw [stands_of_wins hwin'] at hdead
    cases hdead
  · intro op e he
    rw [apply_error he]
    exact ⟨rfl, rfl, rfl⟩
  · intro op l st r hq ha hne
    rcases apply_cases c op with ⟨e, he⟩ | ⟨out, c', ho, ht⟩
    · rw [he] at hne
      exact absurd rfl hne
    · rw [ho] at hne ⊢
      obtain ⟨receipt, rfl, hs, hg, hl', -, -, hf⟩ := ht.quarantine_left hq hl.wellFormed hne
      exact ⟨receipt, ha.2.1 receipt rfl, rfl, hs, hg, hl', hf⟩

/-- A lease that was promoted, and its pending lease cancelled, under the same generation. -/
def promotedAndCancelled : List AdmissionAction :=
  [.operation (.reserve "tx-1" .clear ⟨1⟩),
    .operation (.promote ⟨"seat0", 1, "tx-1", 1, ⟨1⟩, none⟩ .clear),
    .operation (.cancel (.pending ⟨"seat0", 1, "tx-1", 1, none⟩) true)]

theorem promotedAndCancelled_linear :
    StepsMeet SeatWorld.step SeatWorld.Admits (.new "seat0" .free) promotedAndCancelled ∧
      ((promotedAndCancelled.foldl SeatWorld.step (.new "seat0" .free)).controller.phase = .free ∨
        (promotedAndCancelled.foldl SeatWorld.step (.new "seat0" .free)).controller.lifecycle =
          .free) := by
  have h : StepsMeet SeatWorld.step SeatWorld.Admits (.new "seat0" .free)
      promotedAndCancelled := by
    refine ⟨⟨?_, ?_, ?_⟩, ⟨?_, ?_, ?_⟩, ⟨?_, ?_, ?_⟩, trivial⟩
    · simp [AdmissionOp.consumes]
    · simp
    · decide
    · intro t ht
      cases ht
      decide
    · simp
    · decide
    · intro t ht
      cases ht
      decide
    · simp
    · decide
  exact ⟨h, (seat_admission_linear "seat0" .free promotedAndCancelled h).2.2.2.2.2.2.1⟩

end Niralis
