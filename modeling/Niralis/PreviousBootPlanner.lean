import Niralis.RecoveryRecord

namespace Niralis

inductive CurrentIdentityObservation
  | absent
  | presentButDifferentIdentity
  | presentAndConflicting
  | ambiguous
  | inspectionUnavailable
  deriving DecidableEq, Repr

structure CurrentBootConflictFacts where
  sameUnitName : CurrentIdentityObservation := .absent
  sameInvocationId : CurrentIdentityObservation := .absent
  sameCgroupPath : CurrentIdentityObservation := .absent
  sameSessionId : CurrentIdentityObservation := .absent
  sameLifecycleId : CurrentIdentityObservation := .absent
  deriving DecidableEq, Repr

inductive CurrentSeatRuntimeState
  | unclaimed
  | claimedByCurrentLifecycle
  | quarantinedByCurrentRecord
  | conflicting
  | unknown
  deriving DecidableEq, Repr

structure CurrentSeatFacts where
  runtimeState : CurrentSeatRuntimeState := .unknown
  inspectionComplete : Bool := false
  deriving DecidableEq, Repr

inductive CurrentVtDisposition
  | notForegroundAndUnused
  | foreground
  | usedByCurrentLifecycle
  | visibleCurrentHolder
  | ambiguous
  | inspectionUnavailable
  deriving DecidableEq, Repr

structure CurrentVtFacts where
  disposition : CurrentVtDisposition
  inspectionComplete : Bool
  visibleHolders : List Nat
  deriving DecidableEq, Repr

/-- `details` stands for the facts that no plan depends on; like all others they enter the
fingerprint. -/
structure PreviousBootCurrentFacts where
  authorityStable : Bool := false
  conflicts : CurrentBootConflictFacts := {}
  seat : CurrentSeatFacts := {}
  historicalPidReuse : List Nat := []
  vt : Option CurrentVtFacts := none
  competingRecords : List String := []
  inspectionFailed : Bool := false
  hasNewerRecordForSeat : Bool := false
  hasSameBootRecordForSeat : Bool := false
  ambiguousNeighbor : Bool := false
  details : String := ""
  deriving DecidableEq, Repr

inductive PreviousBootRecoveryPlan
  | resolveHistoricalRecord
  | finalizeAlreadyResolvedRecord
  | keepQuarantined (reason : String)
  | quarantineSeatConflict (seat conflict : String)
  | quarantineGlobally (reason : String)
  | inspectionRequired (missing : List String)
  | rejectMalformedHistory (violations : List String)
  deriving DecidableEq, Repr

def historicalInvariantViolations (r : PersistentRecoveryRecord) : List String :=
  (if r.sequence = 0 then ["sequence regression"] else []) ++
  (if r.state = "record_resolved" ∧ !r.operationLedger.recordResolution.isConfirmed ∧
      r.operationLedger.recordResolution ≠ .notStarted then
    ["record resolved has nonterminal resolution operation"] else []) ++
  (if r.operationLedger.runtimeRelease.isConfirmed ∧ r.state ≠ "record_resolved" then
    ["runtime release confirmed before record resolved"] else [])

namespace PreviousBootCurrentFacts
variable (f : PreviousBootCurrentFacts)

def observations : List CurrentIdentityObservation :=
  [f.conflicts.sameUnitName, f.conflicts.sameInvocationId, f.conflicts.sameCgroupPath,
    f.conflicts.sameSessionId, f.conflicts.sameLifecycleId]

def identityConflict : Bool :=
  f.observations.any fun o =>
    o = .presentButDifferentIdentity || o = .presentAndConflicting || o = .ambiguous

def vtUnclear : Bool :=
  match f.vt with
  | none => true
  | some vt => !vt.inspectionComplete || vt.disposition = .inspectionUnavailable ||
    vt.disposition = .ambiguous || !vt.visibleHolders.isEmpty

def missing (targetVt : Option Nat) : List String :=
  (if f.observations.contains .inspectionUnavailable then
    ["current identity inspection"] else []) ++
  (if !f.seat.inspectionComplete || f.seat.runtimeState = .unknown then
    ["current seat inspection"] else []) ++
  (if targetVt.isSome && f.vtUnclear then ["current VT inspection"] else [])

end PreviousBootCurrentFacts

def planPreviousBootReconciliation (r : PersistentRecoveryRecord) (f : PreviousBootCurrentFacts) :
    PreviousBootRecoveryPlan :=
  if historicalInvariantViolations r ≠ [] then
    .rejectMalformedHistory (historicalInvariantViolations r)
  else if f.ambiguousNeighbor then .quarantineGlobally "ambiguous recovery ledger neighbor"
  else if !f.authorityStable then
    .inspectionRequired ["stable systemd/logind authority snapshot"]
  else if f.inspectionFailed then .inspectionRequired ["complete current-boot inspection"]
  else if f.historicalPidReuse ≠ [] then
    .quarantineSeatConflict r.seat "current PID is a new identity"
  else if f.competingRecords ≠ [] then
    .quarantineSeatConflict r.seat "competing recovery record"
  else if f.hasSameBootRecordForSeat then
    .quarantineSeatConflict r.seat "same-boot record takes precedence"
  else if f.hasNewerRecordForSeat then
    .quarantineSeatConflict r.seat "newer record exists for seat"
  else if f.identityConflict then
    .quarantineSeatConflict r.seat "current boot identity conflict"
  else if f.missing r.targetVt ≠ [] then .inspectionRequired (f.missing r.targetVt)
  else if f.seat.runtimeState ≠ .unclaimed then
    .quarantineSeatConflict r.seat "seat is occupied or quarantined"
  else if f.vt.any fun vt => vt.disposition ≠ .notForegroundAndUnused then
    .quarantineSeatConflict r.seat "VT is current-boot resource"
  else if r.state = "quarantined" then
    .keepQuarantined "historical quarantine requires later execution phase"
  else if r.state = "record_resolved" then .finalizeAlreadyResolvedRecord
  else .resolveHistoricalRecord

section Plans
variable {r : PersistentRecoveryRecord} {f : PreviousBootCurrentFacts}

theorem else_of_ite {α : Type} {c : Prop} [Decidable c] {a b x : α}
    (h : (if c then a else b) = x) (hne : a ≠ x) : b = x := by
  by_cases hc : c
  · rw [if_pos hc] at h
    exact absurd h hne
  · rwa [if_neg hc] at h

theorem state_of_resolveHistoricalRecord
    (h : planPreviousBootReconciliation r f = .resolveHistoricalRecord) :
    r.state ≠ "record_resolved" := by
  unfold planPreviousBootReconciliation at h
  iterate 13 replace h := else_of_ite h nofun
  intro hstate
  rw [if_pos hstate] at h
  cases h

theorem state_of_finalizeAlreadyResolvedRecord
    (h : planPreviousBootReconciliation r f = .finalizeAlreadyResolvedRecord) :
    r.state = "record_resolved" := by
  unfold planPreviousBootReconciliation at h
  iterate 13 replace h := else_of_ite h nofun
  by_contra hstate
  rw [if_neg hstate] at h
  cases h

end Plans

end Niralis
