import Niralis.RecoveryRecord
import Niralis.Windows

namespace Niralis

inductive HistoricalInvariantViolation
  | sequenceRegression
  | attemptIdZero
  | attemptIdRegression
  | duplicateAttemptId
  | resultWithoutIntent
  | conflictingTerminalResult
  | operationAfterRecordResolved
  | runtimeReleaseBeforeRecordResolved
  | invalidBootId
  deriving DecidableEq, Repr

/-- The `Debug` text by which the violations are sorted. -/
def HistoricalInvariantViolation.name : HistoricalInvariantViolation → String
  | sequenceRegression => "SequenceRegression"
  | attemptIdZero => "AttemptIdZero"
  | attemptIdRegression => "AttemptIdRegression"
  | duplicateAttemptId => "DuplicateAttemptId"
  | resultWithoutIntent => "ResultWithoutIntent"
  | conflictingTerminalResult => "ConflictingTerminalResult"
  | operationAfterRecordResolved => "OperationAfterRecordResolved"
  | runtimeReleaseBeforeRecordResolved => "RuntimeReleaseBeforeRecordResolved"
  | invalidBootId => "InvalidBootId"

open HistoricalInvariantViolation

/-- The order in which the validator lines up the operations. -/
def validationOrder : List DurableOperation :=
  [.payloadKill, .supervisorUnref, .logindTermination, .selinuxRestore, .vtActivation,
    .vtDisallocate, .recordResolution, .runtimeRelease]

def recordedAttempts (l : DurableOperationLedger) : List Nat :=
  validationOrder.filterMap fun op => (l.get op).attemptId

def sortedVtAttempts (r : PersistentRecoveryRecord) : List VtRecoveryAttempt :=
  r.vtRecoveryAttempts.mergeSort fun a b => decide (a.attemptId ≤ b.attemptId)

def resolutionSettled (s : DurableOperationState) : Bool := s.isConfirmed || s = .notStarted

def pushWhen (b : Bool) (vs : List HistoricalInvariantViolation) :
    List HistoricalInvariantViolation := if b then vs else []

def historicalViolations (r : PersistentRecoveryRecord) : List HistoricalInvariantViolation :=
  let attempts := recordedAttempts r.operationLedger
  let vtAttempts := sortedVtAttempts r
  pushWhen (r.sequence = 0) [sequenceRegression] ++
  pushWhen (!bootIdentityValid r.createdBootId || !bootIdentityValid r.lastUpdatedBootId)
    [invalidBootId] ++
  pushWhen (attempts.contains 0) [attemptIdZero, resultWithoutIntent] ++
  pushWhen (windowsAny (fun a b => decide (b < a)) attempts) [attemptIdRegression] ++
  pushWhen (windowsAny (fun a b => decide (a = b)) (attempts.mergeSort fun a b => decide (a ≤ b)))
    [duplicateAttemptId] ++
  pushWhen (r.operationLedger.runtimeRelease.isConfirmed && r.state ≠ "record_resolved")
    [runtimeReleaseBeforeRecordResolved] ++
  pushWhen (r.state = "record_resolved" && !resolutionSettled r.operationLedger.recordResolution)
    [operationAfterRecordResolved] ++
  pushWhen (r.operationLedger.recordResolution.isConfirmed && r.state ≠ "record_resolved")
    [operationAfterRecordResolved] ++
  pushWhen (vtAttempts.any fun a => a.attemptId = 0 || a.expectedSequence = 0) [attemptIdZero] ++
  pushWhen (windowsAny (fun a b => decide (b.attemptId ≤ a.attemptId) ||
    decide (b.expectedSequence ≤ a.expectedSequence)) vtAttempts) [attemptIdRegression] ++
  pushWhen (windowsAny (fun a b => decide (a.attemptId = b.attemptId) &&
    decide (a.state ≠ b.state)) vtAttempts) [conflictingTerminalResult] ++
  pushWhen (r.vtRecoveryAttempts.any fun a =>
    a.state.hasResult && !r.operationLedger.vtDisallocate.hasResult) [resultWithoutIntent]

def validateHistoricalRecord (r : PersistentRecoveryRecord) :
    List HistoricalInvariantViolation :=
  dedupAdjacent ((historicalViolations r).mergeSort fun a b => decide (a.name ≤ b.name))

/-- The attempt ids of the operations rise in the validator's order. -/
def AttemptsRise (l : DurableOperationLedger) : Prop :=
  ∀ op op', validationOrder.idxOf op < validationOrder.idxOf op' →
    ∀ a b, (l.get op).attemptId = some a → (l.get op').attemptId = some b → a < b

/-- The relations between the administrative VT attempts of a record. -/
structure VtAttemptsOrdered (r : PersistentRecoveryRecord) : Prop where
  positive : (sortedVtAttempts r).any (fun a => a.attemptId = 0 || a.expectedSequence = 0) = false
  rise : windowsAny (fun a b => decide (b.attemptId ≤ a.attemptId) ||
    decide (b.expectedSequence ≤ a.expectedSequence)) (sortedVtAttempts r) = false

/-- A record without violations, relation by relation. -/
structure ReadableRecord (r : PersistentRecoveryRecord) : Prop where
  sequence : r.sequence ≠ 0
  createdBoot : bootIdentityValid r.createdBootId = true
  updatedBoot : bootIdentityValid r.lastUpdatedBootId = true
  positive : ∀ op, (r.operationLedger.get op).attemptId ≠ some 0
  rise : AttemptsRise r.operationLedger
  release : r.operationLedger.runtimeRelease.isConfirmed = true → r.state = "record_resolved"
  resolved : r.state = "record_resolved" →
    resolutionSettled r.operationLedger.recordResolution = true
  resolution : r.operationLedger.recordResolution.isConfirmed = true →
    r.state = "record_resolved"
  vtAttempts : VtAttemptsOrdered r
  vtResults : ∀ a ∈ r.vtRecoveryAttempts, a.state.hasResult = true →
    r.operationLedger.vtDisallocate.hasResult = true

theorem pushWhen_eq_nil {b : Bool} {v : HistoricalInvariantViolation}
    {vs : List HistoricalInvariantViolation} : pushWhen b (v :: vs) = [] ↔ b = false := by
  cases b <;> simp [pushWhen]

theorem attemptsRise_iff (l : DurableOperationLedger) :
    (recordedAttempts l).Pairwise (· < ·) ↔ AttemptsRise l := by
  unfold recordedAttempts AttemptsRise
  rw [List.pairwise_filterMap]
  constructor
  · intro h op op' hlt a b ha hb
    have := List.pairwise_iff_getElem.mp h (validationOrder.idxOf op) (validationOrder.idxOf op')
      (by cases op <;> decide) (by cases op' <;> decide) hlt
    simp only [List.getElem_idxOf] at this
    exact this a ha b hb
  · intro h
    rw [List.pairwise_iff_getElem]
    intro i j hi hj hij a ha b hb
    refine h _ _ ?_ a b ha hb
    have hn : validationOrder.Nodup := by decide
    rw [hn.idxOf_getElem, hn.idxOf_getElem]
    exact hij

theorem mem_validationOrder (op : DurableOperation) : op ∈ validationOrder := by
  cases op <;> decide

theorem not_conflicting_of_rise {l : List VtRecoveryAttempt}
    (h : windowsAny (fun a b => decide (b.attemptId ≤ a.attemptId) ||
      decide (b.expectedSequence ≤ a.expectedSequence)) l = false) :
    windowsAny (fun a b => decide (a.attemptId = b.attemptId) && decide (a.state ≠ b.state)) l =
      false := by
  rw [windowsAny_eq_false] at h ⊢
  refine h.imp fun {a b} hab => ?_
  simp only [Bool.or_eq_false_iff, decide_eq_false_iff_not, not_le] at hab
  have : a.attemptId ≠ b.attemptId := Nat.ne_of_lt hab.1
  simp [this]

theorem and_not_eq_false {b c : Bool} : (b && !c) = false ↔ (b = true → c = true) := by
  cases b <;> simp

theorem and_ne_eq_false {b : Bool} {s t : String} :
    (b && decide (s ≠ t)) = false ↔ (b = true → s = t) := by
  cases b <;> simp

/-- The validator accepts a record exactly when every relation holds. -/
theorem validateHistoricalRecord_eq_nil (r : PersistentRecoveryRecord) :
    validateHistoricalRecord r = [] ↔ ReadableRecord r := by
  have hnil : validateHistoricalRecord r = [] ↔ historicalViolations r = [] := by
    unfold validateHistoricalRecord
    rw [dedupAdjacent_eq_nil, ← List.length_eq_zero_iff, List.length_mergeSort,
      List.length_eq_zero_iff]
  have hrise : windowsAny (fun a b => decide (b < a)) (recordedAttempts r.operationLedger) = false ∧
      windowsAny (fun a b => decide (a = b))
        ((recordedAttempts r.operationLedger).mergeSort fun a b => decide (a ≤ b)) = false ↔
      AttemptsRise r.operationLedger := rises_iff.trans (attemptsRise_iff _)
  have hzero : (recordedAttempts r.operationLedger).contains 0 = false ↔
      ∀ op, (r.operationLedger.get op).attemptId ≠ some 0 := by
    simp [recordedAttempts, mem_validationOrder]
  rw [hnil]
  have hresults : (r.vtRecoveryAttempts.any fun a =>
      a.state.hasResult && !r.operationLedger.vtDisallocate.hasResult) = false ↔
      ∀ a ∈ r.vtRecoveryAttempts, a.state.hasResult = true →
        r.operationLedger.vtDisallocate.hasResult = true := by
    rw [List.any_eq_false]
    simp only [Bool.not_eq_true, and_not_eq_false]
  simp only [historicalViolations, List.append_eq_nil_iff, pushWhen_eq_nil, and_ne_eq_false,
    and_not_eq_false, hresults, decide_eq_true_eq, decide_eq_false_iff_not, Bool.or_eq_false_iff,
    Bool.not_eq_false']
  constructor
  · rintro ⟨⟨⟨⟨⟨⟨⟨⟨⟨⟨⟨h1, h2, h2'⟩, h3⟩, h4⟩, h5⟩, h6⟩, h7⟩, h8⟩, h9⟩, h10⟩, -⟩, h12⟩
    exact ⟨h1, h2, h2', hzero.mp h3, hrise.mp ⟨h4, h5⟩, h6, h7, h8, ⟨h9, h10⟩, h12⟩
  · intro h
    exact ⟨⟨⟨⟨⟨⟨⟨⟨⟨⟨⟨h.sequence, h.createdBoot, h.updatedBoot⟩, hzero.mpr h.positive⟩,
      (hrise.mpr h.rise).1⟩, (hrise.mpr h.rise).2⟩, h.release⟩, h.resolved⟩, h.resolution⟩,
      h.vtAttempts.positive⟩, h.vtAttempts.rise⟩,
      not_conflicting_of_rise h.vtAttempts.rise⟩, h.vtResults⟩

theorem readable_of_untouched {r : PersistentRecoveryRecord} (hops : r.operationLedger = {})
    (hvt : r.vtRecoveryAttempts = []) (hsequence : r.sequence ≠ 0)
    (hcreated : bootIdentityValid r.createdBootId = true)
    (hupdated : bootIdentityValid r.lastUpdatedBootId = true) : ReadableRecord r := by
  have hnone : ∀ op, (r.operationLedger.get op).attemptId = none := fun op => by
    rw [hops]
    cases op <;> rfl
  have hsorted : sortedVtAttempts r = [] := by simp [sortedVtAttempts, hvt]
  refine ⟨hsequence, hcreated, hupdated, fun op => ?_, fun op op' _ a b ha => ?_, ?_, ?_, ?_,
    ⟨by rw [hsorted]; rfl, by rw [hsorted]; rfl⟩, fun a ha => ?_⟩
  · rw [hnone op]
    nofun
  · rw [hnone op] at ha
    cases ha
  · rw [hops]
    nofun
  · rw [hops]
    exact fun _ => rfl
  · rw [hops]
    nofun
  · rw [hvt] at ha
    cases ha

end Niralis
