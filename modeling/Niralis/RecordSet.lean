import Mathlib.Data.Finset.Basic
import Mathlib.Data.String.Basic
import Niralis.DistinctSorted
import Niralis.HistoricalValidation
import Niralis.KeyedTable

namespace Niralis.RecoveryDirectory

inductive CorruptionReason
  | truncated | invalidJson | oversized | missingRequiredField | invalidBootId | invalidOperationLedger
  | invalidNumericRange
  deriving DecidableEq, Repr

inductive UnsafeMetadataReason
  | symlink | nonRegularFile | linkCount | wrongOwner | unsafeMode
  deriving DecidableEq, Repr

inductive RecordIdentityMismatch
  | filenameRecordId | duplicateRecordId | duplicateLifecycle | conflictingSeat
  deriving DecidableEq, Repr

inductive RecordConflictReason
  | duplicateRecordId | duplicateLifecycle | sameSeatSameBootPrecedence | corruptNeighborKnownSeat
  | unknownVersionNeighbor
  deriving DecidableEq, Repr

def RecordConflictReason.name : RecordConflictReason → String
  | duplicateRecordId => "DuplicateRecordId"
  | duplicateLifecycle => "DuplicateLifecycle"
  | sameSeatSameBootPrecedence => "SameSeatSameBootPrecedence"
  | corruptNeighborKnownSeat => "CorruptNeighborKnownSeat"
  | unknownVersionNeighbor => "UnknownVersionNeighbor"

theorem RecordConflictReason.name_injective : Function.Injective RecordConflictReason.name := by
  intro a b h
  cases a <;> cases b <;> first | rfl | exact absurd h (by decide)

instance : LinearOrder RecordConflictReason :=
  LinearOrder.lift' RecordConflictReason.name RecordConflictReason.name_injective

inductive DurableRecoveryRecordReadResult
  | validSameBoot (path : List UInt8) (record : PersistentRecoveryRecord)
  | validPreviousBoot (path : List UInt8) (record : PersistentRecoveryRecord)
  | corrupted (path : List UInt8) (reason : CorruptionReason)
  | unsupportedVersion (path : List UInt8) (version : Nat)
  | unsafeMetadata (path : List UInt8) (reason : UnsafeMetadataReason)
  | identityMismatch (path : List UInt8) (reason : RecordIdentityMismatch)
  | historicalInvariantViolation (path : List UInt8) (violations : List HistoricalInvariantViolation)
  | conflictingRecords (path : List UInt8) (reason : RecordConflictReason)
  deriving DecidableEq

def DurableRecoveryRecordReadResult.record :
    DurableRecoveryRecordReadResult → Option PersistentRecoveryRecord
  | validSameBoot _ record => some record
  | validPreviousBoot _ record => some record
  | _ => none

structure RecoveryRecordSetClassification where
  blockedSeats : Finset String := ∅
  sameBootSeats : Finset String := ∅
  previousBootSeats : Finset String := ∅
  conflicts : List RecordConflictReason := []
  globalQuarantine : Bool := false
  deriving DecidableEq

structure Classifying where
  out : RecoveryRecordSetClassification := {}
  bySeat : KeyedTable String (Nat × Nat) := .empty
  lifecycles : Finset String := ∅

namespace Classifying

/-- One more record of a seat, with `count` the half of its entry that grows. -/
def countSeat (c : Classifying) (seat : String) (count : Nat × Nat → Nat × Nat) : Classifying :=
  { c with bySeat := c.bySeat.insert seat (count ((c.bySeat.get seat).getD (0, 0))) }

def conflict (c : Classifying) (reason : RecordConflictReason) : Classifying :=
  { c with out := { c.out with conflicts := c.out.conflicts ++ [reason] } }

def block (c : Classifying) (seat : String) : Classifying :=
  { c with out := { c.out with blockedSeats := insert seat c.out.blockedSeats } }

def quarantine (c : Classifying) : Classifying :=
  { c with out := { c.out with globalQuarantine := true } }

def sameBootSeat (c : Classifying) (seat : String) : Classifying :=
  { c with out := { c.out with sameBootSeats := insert seat c.out.sameBootSeats } }

def previousBootSeat (c : Classifying) (seat : String) : Classifying :=
  { c with out := { c.out with previousBootSeats := insert seat c.out.previousBootSeats } }

/-- `lifecycles.insert`, and what follows where the lifecycle was there. -/
def lifecycle (c : Classifying) (r : PersistentRecoveryRecord) : Classifying :=
  let seen : Bool := r.lifecycleId ∈ c.lifecycles
  let c := { c with lifecycles := insert r.lifecycleId c.lifecycles }
  if seen then (c.conflict .duplicateLifecycle).block r.seat else c

end Classifying

/-- A conflict that leaves seats other than its own alone. -/
def RecordConflictReason.isLocal (reason : RecordConflictReason) : Bool :=
  reason = .sameSeatSameBootPrecedence || reason = .duplicateLifecycle

def RecordIdentityMismatch.conflict : RecordIdentityMismatch → RecordConflictReason
  | duplicateLifecycle => .duplicateLifecycle
  | _ => .duplicateRecordId

def classifyResult (currentBoot : String) (c : Classifying) :
    DurableRecoveryRecordReadResult → Classifying
  | .validSameBoot _ r =>
    ((c.sameBootSeat r.seat).countSeat r.seat fun n => (n.1 + 1, n.2)).lifecycle r
  | .validPreviousBoot _ r =>
    let c := if r.createdBootId = currentBoot then c.sameBootSeat r.seat else c.previousBootSeat r.seat
    (c.countSeat r.seat fun n => (n.1, n.2 + 1)).lifecycle r
  | .corrupted _ _ => c.quarantine
  | .unsupportedVersion _ _ => c.quarantine
  | .unsafeMetadata _ _ => c.quarantine
  | .historicalInvariantViolation _ _ => c.quarantine
  | .identityMismatch _ reason => c.quarantine.conflict reason.conflict
  | .conflictingRecords _ reason =>
    (if reason.isLocal then c else c.quarantine).conflict reason

/-- What the numbers of a seat's records, of this boot and of earlier ones, amount to. -/
def seatConflict (count : Nat × Nat) : Option RecordConflictReason :=
  if 0 < count.1 ∧ 0 < count.2 then some .sameSeatSameBootPrecedence
  else if 1 < count.2 ∨ 1 < count.1 then some .duplicateLifecycle
  else none

def classifySeat (out : RecoveryRecordSetClassification) (entry : String × Nat × Nat) :
    RecoveryRecordSetClassification :=
  match seatConflict entry.2 with
  | some reason => { out with blockedSeats := insert entry.1 out.blockedSeats
                              conflicts := out.conflicts ++ [reason] }
  | none => out

def classifyRecoveryRecordSet (results : List DurableRecoveryRecordReadResult) (currentBoot : String) :
    RecoveryRecordSetClassification :=
  let c := results.foldl (classifyResult currentBoot) {}
  let out := c.bySeat.entries.foldl classifySeat c.out
  { out with conflicts := sortDedup out.conflicts }

/-- The part of a result that the classification depends on. -/
structure Reading where
  sameBoot : Option PersistentRecoveryRecord := none
  previousBoot : Option PersistentRecoveryRecord := none
  conflict : Option RecordConflictReason := none
  quarantines : Bool := false

def DurableRecoveryRecordReadResult.reading : DurableRecoveryRecordReadResult → Reading
  | validSameBoot _ r => { sameBoot := some r }
  | validPreviousBoot _ r => { previousBoot := some r }
  | corrupted _ _ => { quarantines := true }
  | unsupportedVersion _ _ => { quarantines := true }
  | unsafeMetadata _ _ => { quarantines := true }
  | historicalInvariantViolation _ _ => { quarantines := true }
  | identityMismatch _ reason => { conflict := some reason.conflict, quarantines := true }
  | conflictingRecords _ reason => { conflict := some reason, quarantines := !reason.isLocal }

namespace Reading

def record (x : Reading) : Option PersistentRecoveryRecord := x.sameBoot <|> x.previousBoot

/-- How many records of a seat are of this boot and of earlier ones. -/
def seatCount (xs : List Reading) (seat : String) : Nat × Nat :=
  (xs.countP fun x => x.sameBoot.any (·.seat = seat),
    xs.countP fun x => x.previousBoot.any (·.seat = seat))

def lifecycleIds (xs : List Reading) : List String := xs.filterMap fun x => x.record.map (·.lifecycleId)

def namesSameBoot (currentBoot : String) (x : Reading) (seat : String) : Prop :=
  ∃ r, r.seat = seat ∧ (x.sameBoot = some r ∨ x.previousBoot = some r ∧ r.createdBootId = currentBoot)

def namesPreviousBoot (currentBoot : String) (x : Reading) (seat : String) : Prop :=
  ∃ r, r.seat = seat ∧ x.previousBoot = some r ∧ r.createdBootId ≠ currentBoot

end Reading

/-- The variables of the first loop after the readings `xs`, no two of them of one lifecycle. -/
structure Reads (currentBoot : String) (xs : List Reading) (c : Classifying) : Prop where
  bySeat : ∀ seat, (c.bySeat.get seat).getD (0, 0) = Reading.seatCount xs seat
  lifecycles : ∀ id, id ∈ c.lifecycles ↔ id ∈ Reading.lifecycleIds xs
  blockedSeats : c.out.blockedSeats = ∅
  sameBootSeats : ∀ seat, seat ∈ c.out.sameBootSeats ↔ ∃ x ∈ xs, x.namesSameBoot currentBoot seat
  previousBootSeats : ∀ seat, seat ∈ c.out.previousBootSeats ↔
    ∃ x ∈ xs, x.namesPreviousBoot currentBoot seat
  conflicts : ∀ reason, reason ∈ c.out.conflicts ↔ ∃ x ∈ xs, x.conflict = some reason
  globalQuarantine : c.out.globalQuarantine = true ↔ ∃ x ∈ xs, x.quarantines = true

section Reads
variable {currentBoot : String} {xs : List Reading} {c : Classifying}

theorem reads_start : Reads currentBoot [] {} where
  bySeat := fun _ => rfl
  lifecycles := by simp [Reading.lifecycleIds]
  blockedSeats := rfl
  sameBootSeats := by simp
  previousBootSeats := by simp
  conflicts := by simp
  globalQuarantine := by simp

theorem seatCount_concat (x : Reading) (seat : String) :
    Reading.seatCount (xs ++ [x]) seat =
      ((Reading.seatCount xs seat).1 + if x.sameBoot.any (·.seat = seat) then 1 else 0,
        (Reading.seatCount xs seat).2 + if x.previousBoot.any (·.seat = seat) then 1 else 0) := by
  simp [Reading.seatCount, List.countP_append, List.countP_singleton]

theorem Reads.refused (h : Reads currentBoot xs c) {x : Reading} {c' : Classifying}
    (hsame : x.sameBoot = none) (hprevious : x.previousBoot = none)
    (hbySeat : c'.bySeat = c.bySeat) (hlifecycles : c'.lifecycles = c.lifecycles)
    (hout : c'.out = { c.out with
      conflicts := c.out.conflicts ++ x.conflict.toList
      globalQuarantine := c.out.globalQuarantine || x.quarantines }) :
    Reads currentBoot (xs ++ [x]) c' where
  bySeat := by
    intro seat
    rw [hbySeat, h.bySeat, seatCount_concat, hsame, hprevious]
    rfl
  lifecycles := by
    intro id
    rw [hlifecycles, h.lifecycles]
    simp [Reading.lifecycleIds, Reading.record, hsame, hprevious]
  blockedSeats := by rw [hout, h.blockedSeats]
  sameBootSeats := by
    intro seat
    rw [hout, h.sameBootSeats]
    simp [Reading.namesSameBoot, hsame, hprevious]
  previousBootSeats := by
    intro seat
    rw [hout, h.previousBootSeats]
    simp [Reading.namesPreviousBoot, hprevious]
  conflicts := by
    intro reason
    rw [hout]
    simp [h.conflicts, or_and_right, exists_or, eq_comm]
  globalQuarantine := by
    rw [hout]
    simp [h.globalQuarantine, or_and_right, exists_or]

theorem lifecycle_of_new {r : PersistentRecoveryRecord} (hnew : r.lifecycleId ∉ c.lifecycles) :
    c.lifecycle r = { c with lifecycles := insert r.lifecycleId c.lifecycles } := by
  simp [Classifying.lifecycle, hnew]

theorem getD_countSeat (c : Classifying) (seat seat' : String) (count : Nat × Nat → Nat × Nat) :
    ((c.countSeat seat count).bySeat.get seat').getD (0, 0) =
      if seat' = seat then count ((c.bySeat.get seat).getD (0, 0))
      else (c.bySeat.get seat').getD (0, 0) := by
  unfold Classifying.countSeat
  by_cases hseat : seat' = seat
  · subst hseat
    rw [KeyedTable.get_insert_self, if_pos rfl, Option.getD_some]
  · rw [KeyedTable.get_insert_of_ne hseat, if_neg hseat]

theorem Reads.accepted (h : Reads currentBoot xs c) {x : Reading} {r : PersistentRecoveryRecord}
    {c' : Classifying} (count : Nat × Nat → Nat × Nat) (hrecord : x.record = some r)
    (hclean : x.conflict = none ∧ x.quarantines = false)
    (hcount : ∀ n, count n = (n.1 + if x.sameBoot.isSome then 1 else 0,
      n.2 + if x.previousBoot.isSome then 1 else 0))
    (honly : ∀ r', x.sameBoot = some r' ∨ x.previousBoot = some r' → r' = r)
    (hbySeat : c'.bySeat = (c.countSeat r.seat count).bySeat)
    (hlifecycles : c'.lifecycles = insert r.lifecycleId c.lifecycles)
    (hblocked : c'.out.blockedSeats = c.out.blockedSeats)
    (hsame : ∀ seat, seat ∈ c'.out.sameBootSeats ↔
      seat ∈ c.out.sameBootSeats ∨ x.namesSameBoot currentBoot seat)
    (hprevious : ∀ seat, seat ∈ c'.out.previousBootSeats ↔
      seat ∈ c.out.previousBootSeats ∨ x.namesPreviousBoot currentBoot seat)
    (hconflicts : c'.out.conflicts = c.out.conflicts)
    (hglobal : c'.out.globalQuarantine = c.out.globalQuarantine) :
    Reads currentBoot (xs ++ [x]) c' where
  bySeat := by
    intro seat
    have hany : ∀ record : Option PersistentRecoveryRecord, (∀ r', record = some r' → r' = r) →
        record.any (·.seat = seat) = (record.isSome && decide (r.seat = seat)) := by
      intro record hr
      cases record with
      | none => rfl
      | some r' => rw [hr r' rfl]; rfl
    rw [hbySeat, getD_countSeat, seatCount_concat, hany _ fun r' hr' => honly r' (Or.inl hr'),
      hany _ fun r' hr' => honly r' (Or.inr hr')]
    by_cases hseat : seat = r.seat
    · subst hseat
      rw [if_pos rfl, hcount, h.bySeat]
      simp
    · rw [if_neg hseat, h.bySeat]
      simp [Ne.symm hseat]
  lifecycles := by
    intro id
    rw [hlifecycles, Finset.mem_insert, h.lifecycles]
    simp [Reading.lifecycleIds, hrecord, or_comm, eq_comm]
  blockedSeats := by rw [hblocked, h.blockedSeats]
  sameBootSeats := by
    intro seat
    rw [hsame, h.sameBootSeats]
    simp [or_and_right, exists_or]
  previousBootSeats := by
    intro seat
    rw [hprevious, h.previousBootSeats]
    simp [or_and_right, exists_or]
  conflicts := by
    intro reason
    rw [hconflicts, h.conflicts]
    simp [hclean.1]
  globalQuarantine := by
    rw [hglobal, h.globalQuarantine]
    simp [hclean.2]

theorem reads_classifyResult (h : Reads currentBoot xs c) (result : DurableRecoveryRecordReadResult)
    (hnodup : (Reading.lifecycleIds (xs ++ [result.reading])).Nodup) :
    Reads currentBoot (xs ++ [result.reading]) (classifyResult currentBoot c result) := by
  have hnew : ∀ r, result.reading.record = some r → r.lifecycleId ∉ c.lifecycles := by
    intro r hr hmem
    rw [h.lifecycles] at hmem
    simp [Reading.lifecycleIds, hr, List.nodup_append] at hnodup
    simp [Reading.lifecycleIds] at hmem
    obtain ⟨x, hx, r', hr', hid⟩ := hmem
    exact hnodup.2 _ x hx r' hr' rfl hid
  cases result with
  | corrupted path reason =>
    refine h.refused rfl rfl rfl rfl ?_
    simp [classifyResult, Classifying.quarantine, DurableRecoveryRecordReadResult.reading]
  | unsupportedVersion path version =>
    refine h.refused rfl rfl rfl rfl ?_
    simp [classifyResult, Classifying.quarantine, DurableRecoveryRecordReadResult.reading]
  | unsafeMetadata path reason =>
    refine h.refused rfl rfl rfl rfl ?_
    simp [classifyResult, Classifying.quarantine, DurableRecoveryRecordReadResult.reading]
  | historicalInvariantViolation path violations =>
    refine h.refused rfl rfl rfl rfl ?_
    simp [classifyResult, Classifying.quarantine, DurableRecoveryRecordReadResult.reading]
  | identityMismatch path reason =>
    refine h.refused rfl rfl rfl rfl ?_
    simp [classifyResult, Classifying.quarantine, Classifying.conflict,
      DurableRecoveryRecordReadResult.reading]
  | conflictingRecords path reason =>
    cases hlocal : reason.isLocal <;>
    refine h.refused rfl rfl (by simp [classifyResult, hlocal]; rfl) (by simp [classifyResult, hlocal]; rfl) ?_ <;>
    simp [classifyResult, Classifying.quarantine, Classifying.conflict, hlocal,
      DurableRecoveryRecordReadResult.reading]
  | validSameBoot path r =>
    have hr := hnew r rfl
    have hstep : classifyResult currentBoot c (.validSameBoot path r) =
        { (c.sameBootSeat r.seat).countSeat r.seat fun n => (n.1 + 1, n.2) with
          lifecycles := insert r.lifecycleId c.lifecycles } := by
      rw [classifyResult, lifecycle_of_new (by exact hr)]
      rfl
    rw [hstep]
    refine h.accepted (fun n => (n.1 + 1, n.2)) rfl ⟨rfl, rfl⟩ (fun n => rfl) ?_ rfl rfl rfl
      ?_ ?_ rfl rfl
    · rintro r' (hr' | hr') <;> cases hr'
      rfl
    · intro seat
      simp [Classifying.countSeat, Classifying.sameBootSeat, Reading.namesSameBoot,
        DurableRecoveryRecordReadResult.reading, or_comm, eq_comm]
    · intro seat
      simp [Classifying.countSeat, Classifying.sameBootSeat, Reading.namesPreviousBoot,
        DurableRecoveryRecordReadResult.reading]
  -- listed under the boot that created it, but counted with the earlier boots
  | validPreviousBoot path r =>
    have hr := hnew r rfl
    let named := if r.createdBootId = currentBoot then c.sameBootSeat r.seat else c.previousBootSeat r.seat
    have hbySeat : named.bySeat = c.bySeat := by unfold named; split <;> rfl
    have hlifecycles : named.lifecycles = c.lifecycles := by unfold named; split <;> rfl
    have hstep : classifyResult currentBoot c (.validPreviousBoot path r) =
        { named.countSeat r.seat fun n => (n.1, n.2 + 1) with
          lifecycles := insert r.lifecycleId c.lifecycles } := by
      have hseen : r.lifecycleId ∉ (named.countSeat r.seat fun n => (n.1, n.2 + 1)).lifecycles := by
        rw [Classifying.countSeat, hlifecycles]
        exact hr
      rw [classifyResult, lifecycle_of_new hseen, Classifying.countSeat, hlifecycles]
    rw [hstep]
    refine h.accepted (fun n => (n.1, n.2 + 1)) rfl ⟨rfl, rfl⟩ (fun n => rfl) ?_ ?_ rfl ?_ ?_ ?_ ?_ ?_
    · rintro r' (hr' | hr') <;> cases hr'
      rfl
    · simp [Classifying.countSeat, hbySeat]
    · show named.out.blockedSeats = _
      unfold named
      split <;> rfl
    · intro seat
      show seat ∈ named.out.sameBootSeats ↔ _
      unfold named
      split
      · rename_i hboot
        simp [Classifying.sameBootSeat, Reading.namesSameBoot, DurableRecoveryRecordReadResult.reading,
          hboot, or_comm, eq_comm]
      · rename_i hboot
        simp [Classifying.previousBootSeat, Reading.namesSameBoot,
          DurableRecoveryRecordReadResult.reading, hboot]
    · intro seat
      show seat ∈ named.out.previousBootSeats ↔ _
      unfold named
      split
      · rename_i hboot
        simp [Classifying.sameBootSeat, Reading.namesPreviousBoot,
          DurableRecoveryRecordReadResult.reading, hboot]
      · rename_i hboot
        simp only [Classifying.previousBootSeat, Reading.namesPreviousBoot,
          DurableRecoveryRecordReadResult.reading, Finset.mem_insert]
        constructor
        · rintro (rfl | hseat)
          · exact Or.inr ⟨r, rfl, rfl, hboot⟩
          · exact Or.inl hseat
        · rintro (hseat | ⟨r', rfl, hr', -⟩)
          · exact Or.inr hseat
          · cases hr'
            exact Or.inl rfl
    · show named.out.conflicts = _
      unfold named
      split <;> rfl
    · show named.out.globalQuarantine = _
      unfold named
      split <;> rfl

theorem reads_foldl (results : List DurableRecoveryRecordReadResult)
    (hnodup : (Reading.lifecycleIds (results.map (·.reading))).Nodup) :
    Reads currentBoot (results.map (·.reading)) (results.foldl (classifyResult currentBoot) {}) := by
  induction results using List.reverseRecOn with
  | nil => exact reads_start
  | append_singleton results result ih =>
    rw [List.map_append, List.map_singleton] at hnodup ⊢
    rw [List.foldl_append]
    have hbefore : (Reading.lifecycleIds (results.map (·.reading))).Nodup :=
      hnodup.sublist ((List.sublist_append_left _ _).filterMap _)
    exact reads_classifyResult (ih hbefore) result hnodup

end Reads

section Seats
variable (out : RecoveryRecordSetClassification) (entries : List (String × Nat × Nat))

theorem classifySeat_foldl :
    (∀ seat, seat ∈ (entries.foldl classifySeat out).blockedSeats ↔ seat ∈ out.blockedSeats ∨
      ∃ entry ∈ entries, entry.1 = seat ∧ (seatConflict entry.2).isSome) ∧
    (∀ reason, reason ∈ (entries.foldl classifySeat out).conflicts ↔ reason ∈ out.conflicts ∨
      ∃ entry ∈ entries, seatConflict entry.2 = some reason) ∧
    (entries.foldl classifySeat out).sameBootSeats = out.sameBootSeats ∧
    (entries.foldl classifySeat out).previousBootSeats = out.previousBootSeats ∧
    (entries.foldl classifySeat out).globalQuarantine = out.globalQuarantine := by
  induction entries generalizing out with
  | nil => simp
  | cons entry entries ih =>
    obtain ⟨hblocked, hconflicts, hsame, hprevious, hglobal⟩ := ih (classifySeat out entry)
    rw [List.foldl_cons]
    cases hseat : seatConflict entry.2 with
    | none =>
      have hstep : classifySeat out entry = out := by rw [classifySeat, hseat]
      rw [hstep] at hblocked hconflicts hsame hprevious hglobal ⊢
      refine ⟨fun seat => ?_, fun reason => ?_, hsame, hprevious, hglobal⟩
      · simp [hblocked, hseat]
      · simp [hconflicts, hseat]
    | some reason =>
      have hstep : classifySeat out entry =
          { out with blockedSeats := insert entry.1 out.blockedSeats
                     conflicts := out.conflicts ++ [reason] } := by rw [classifySeat, hseat]
      rw [hstep] at hblocked hconflicts hsame hprevious hglobal ⊢
      refine ⟨fun seat => ?_, fun reason' => ?_, hsame, hprevious, hglobal⟩
      · simp only [hblocked, Finset.mem_insert, List.mem_cons, or_and_right, exists_or, exists_eq_left,
          hseat, Option.isSome_some, and_true]
        rw [or_assoc, or_left_comm, eq_comm (a := seat)]
      · simp only [hconflicts, List.mem_append, List.mem_cons, List.not_mem_nil, or_false, or_and_right,
          exists_or, exists_eq_left, hseat, Option.some_inj]
        rw [or_assoc, eq_comm (a := reason')]

end Seats

structure Classified (currentBoot : String) (xs : List Reading) (out : RecoveryRecordSetClassification) :
    Prop where
  blockedSeats : ∀ seat, seat ∈ out.blockedSeats ↔ (seatConflict (Reading.seatCount xs seat)).isSome
  sameBootSeats : ∀ seat, seat ∈ out.sameBootSeats ↔ ∃ x ∈ xs, x.namesSameBoot currentBoot seat
  previousBootSeats : ∀ seat, seat ∈ out.previousBootSeats ↔
    ∃ x ∈ xs, x.namesPreviousBoot currentBoot seat
  conflicts : ∀ reason, reason ∈ out.conflicts ↔ (∃ x ∈ xs, x.conflict = some reason) ∨
    ∃ seat, seatConflict (Reading.seatCount xs seat) = some reason
  increasing : out.conflicts.Pairwise (· < ·)
  globalQuarantine : out.globalQuarantine = true ↔ ∃ x ∈ xs, x.quarantines = true

theorem classified {currentBoot : String} (results : List DurableRecoveryRecordReadResult)
    (hnodup : (Reading.lifecycleIds (results.map (·.reading))).Nodup) :
    Classified currentBoot (results.map (·.reading)) (classifyRecoveryRecordSet results currentBoot) := by
  have hreads : Reads currentBoot _ _ := reads_foldl results hnodup
  unfold classifyRecoveryRecordSet
  dsimp only
  generalize results.foldl (classifyResult currentBoot) {} = c at hreads
  obtain ⟨hblocked, hconflicts, hsame, hprevious, hglobal⟩ := classifySeat_foldl c.out c.bySeat.entries
  -- a seat without an entry has no records, and then no conflict
  have hentry : ∀ seat reason, (∃ entry ∈ c.bySeat.entries, entry.1 = seat ∧
      seatConflict entry.2 = some reason) ↔
      seatConflict (Reading.seatCount (results.map (·.reading)) seat) = some reason := by
    intro seat reason
    rw [← hreads.bySeat]
    constructor
    · rintro ⟨⟨seat', n⟩, hmem, rfl, hn⟩
      rw [KeyedTable.get_eq_some_iff.mpr hmem]
      exact hn
    · intro h
      cases hget : c.bySeat.get seat with
      | none =>
        rw [hget] at h
        cases h
      | some n =>
        rw [hget] at h
        exact ⟨(seat, n), KeyedTable.get_eq_some_iff.mp hget, rfl, h⟩
  refine ⟨fun seat => ?_, ?_, ?_, fun reason => ?_, sortDedup_pairwise _, ?_⟩
  · rw [hblocked, hreads.blockedSeats, Option.isSome_iff_exists]
    simp only [Finset.notMem_empty, false_or, Option.isSome_iff_exists, ← hentry]
    constructor
    · rintro ⟨entry, hmem, hseat, reason, hreason⟩
      exact ⟨reason, entry, hmem, hseat, hreason⟩
    · rintro ⟨reason, entry, hmem, hseat, hreason⟩
      exact ⟨entry, hmem, hseat, reason, hreason⟩
  · rw [hsame]
    exact hreads.sameBootSeats
  · rw [hprevious]
    exact hreads.previousBootSeats
  · rw [mem_sortDedup, hconflicts, hreads.conflicts]
    refine or_congr Iff.rfl ?_
    simp only [← hentry]
    constructor
    · rintro ⟨entry, hmem, hreason⟩
      exact ⟨entry.1, entry, hmem, rfl, hreason⟩
    · rintro ⟨seat, entry, hmem, -, hreason⟩
      exact ⟨entry, hmem, hreason⟩
  · rw [hglobal]
    exact hreads.globalQuarantine

/-- Results with the same readings in some order are classified alike. -/
theorem classify_perm {currentBoot : String} {results results' : List DurableRecoveryRecordReadResult}
    (hperm : (results.map (·.reading)).Perm (results'.map (·.reading)))
    (hnodup : (Reading.lifecycleIds (results.map (·.reading))).Nodup) :
    classifyRecoveryRecordSet results currentBoot = classifyRecoveryRecordSet results' currentBoot := by
  have hnodup' : (Reading.lifecycleIds (results'.map (·.reading))).Nodup :=
    ((hperm.filterMap _).nodup_iff).mp hnodup
  have h : Classified currentBoot _ _ := classified results hnodup
  have h' : Classified currentBoot _ _ := classified results' hnodup'
  have hcount : ∀ seat, Reading.seatCount (results.map (·.reading)) seat =
      Reading.seatCount (results'.map (·.reading)) seat := fun seat =>
    Prod.ext (hperm.countP_eq _) (hperm.countP_eq _)
  have hexists : ∀ P : Reading → Prop, (∃ x ∈ results.map (·.reading), P x) ↔
      ∃ x ∈ results'.map (·.reading), P x := by
    intro P
    simp only [hperm.mem_iff]
  generalize classifyRecoveryRecordSet results currentBoot = out at h
  generalize classifyRecoveryRecordSet results' currentBoot = out' at h'
  have hblocked : out.blockedSeats = out'.blockedSeats := by
    ext seat
    rw [h.blockedSeats, h'.blockedSeats, hcount]
  have hsame : out.sameBootSeats = out'.sameBootSeats := by
    ext seat
    rw [h.sameBootSeats, h'.sameBootSeats, hexists]
  have hprevious : out.previousBootSeats = out'.previousBootSeats := by
    ext seat
    rw [h.previousBootSeats, h'.previousBootSeats, hexists]
  have hconflicts : out.conflicts = out'.conflicts := by
    refine eq_of_mem_iff h.increasing h'.increasing fun reason => ?_
    rw [h.conflicts, h'.conflicts, hexists]
    simp only [hcount]
  have hglobal : out.globalQuarantine = out'.globalQuarantine := by
    rw [Bool.eq_iff_iff, h.globalQuarantine, h'.globalQuarantine, hexists]
  cases out
  cases out'
  simp only at hblocked hsame hprevious hconflicts hglobal
  rw [hblocked, hsame, hprevious, hconflicts, hglobal]

section Reclassifying
variable {currentBoot : String} (results : List DurableRecoveryRecordReadResult)

/-- Conflicts of the first loop that are not local have set the flag. -/
theorem global_of_conflict (c : Classifying) (h : ∀ reason ∈ c.out.conflicts, reason.isLocal = false →
    c.out.globalQuarantine = true) :
    ∀ reason ∈ (results.foldl (classifyResult currentBoot) c).out.conflicts, reason.isLocal = false →
      (results.foldl (classifyResult currentBoot) c).out.globalQuarantine = true := by
  induction results generalizing c with
  | nil => exact h
  | cons result results ih =>
    refine ih _ ?_
    have hlifecycle : ∀ (c' : Classifying) (r : PersistentRecoveryRecord),
        (∀ reason ∈ c'.out.conflicts, reason.isLocal = false → c'.out.globalQuarantine = true) →
        ∀ reason ∈ (c'.lifecycle r).out.conflicts, reason.isLocal = false →
          (c'.lifecycle r).out.globalQuarantine = true := by
      intro c' r hc' reason hmem hlocal
      unfold Classifying.lifecycle at hmem ⊢
      dsimp only at hmem ⊢
      split at hmem
      · rename_i hseen
        rw [if_pos hseen]
        rcases List.mem_append.mp hmem with hmem | hmem
        · exact hc' reason hmem hlocal
        · rw [List.mem_singleton.mp hmem] at hlocal
          cases hlocal
      · rename_i hseen
        rw [if_neg hseen]
        exact hc' reason hmem hlocal
    cases result with
    | validSameBoot path r => exact hlifecycle _ r h
    | validPreviousBoot path r =>
      refine hlifecycle _ r ?_
      split <;> exact h
    | corrupted path reason => exact fun _ _ _ => rfl
    | unsupportedVersion path version => exact fun _ _ _ => rfl
    | unsafeMetadata path reason => exact fun _ _ _ => rfl
    | historicalInvariantViolation path violations => exact fun _ _ _ => rfl
    | identityMismatch path reason => exact fun _ _ _ => rfl
    | conflictingRecords path reason =>
      intro reason' hmem hlocal
      simp only [classifyResult] at hmem ⊢
      cases hreason : reason.isLocal with
      | false => rfl
      | true =>
        rw [hreason, if_pos rfl] at hmem
        rw [if_pos rfl]
        rcases List.mem_append.mp hmem with hmem | hmem
        · exact h reason' hmem hlocal
        · rw [List.mem_singleton.mp hmem, hreason] at hlocal
          cases hlocal

/-- Conflict results only add their reasons, and may set the flag. -/
theorem foldl_conflicts (directory : List UInt8) (reasons : List RecordConflictReason)
    (c : Classifying) :
    (reasons.map (DurableRecoveryRecordReadResult.conflictingRecords directory)).foldl
        (classifyResult currentBoot) c =
      { c with out := { c.out with
        conflicts := c.out.conflicts ++ reasons
        globalQuarantine := c.out.globalQuarantine || reasons.any fun reason => !reason.isLocal } } := by
  induction reasons generalizing c with
  | nil => simp
  | cons reason reasons ih =>
    rw [List.map_cons, List.foldl_cons, ih]
    cases hlocal : reason.isLocal <;>
    simp [classifyResult, hlocal, Classifying.conflict, Classifying.quarantine]

theorem seatConflict_isLocal {count : Nat × Nat} {reason : RecordConflictReason}
    (h : seatConflict count = some reason) : reason.isLocal = true := by
  unfold seatConflict at h
  split_ifs at h <;> cases h <;> rfl

/-- The conflicts of a classification, put behind the results they came from, change nothing. -/
theorem reclassify (directory : List UInt8) :
    classifyRecoveryRecordSet (results ++ (classifyRecoveryRecordSet results currentBoot).conflicts.map
        (.conflictingRecords directory)) currentBoot =
      classifyRecoveryRecordSet results currentBoot := by
  have hglobal : ∀ reason ∈ (results.foldl (classifyResult currentBoot) {}).out.conflicts,
      reason.isLocal = false →
      (results.foldl (classifyResult currentBoot) {}).out.globalQuarantine = true :=
    global_of_conflict results {} (by simp)
  unfold classifyRecoveryRecordSet
  dsimp only
  rw [List.foldl_append, foldl_conflicts]
  generalize results.foldl (classifyResult currentBoot) {} = c at hglobal
  dsimp only
  generalize hreasons : sortDedup (c.bySeat.entries.foldl classifySeat c.out).conflicts = reasons
  obtain ⟨hblocked, hconflicts, hsame, hprevious, hflag⟩ := classifySeat_foldl c.out c.bySeat.entries
  obtain ⟨hblocked', hconflicts', hsame', hprevious', hflag'⟩ := classifySeat_foldl { c.out with
    conflicts := c.out.conflicts ++ reasons
    globalQuarantine := c.out.globalQuarantine || reasons.any fun reason => !reason.isLocal }
    c.bySeat.entries
  have hmem : ∀ reason, reason ∈ reasons ↔ reason ∈ c.out.conflicts ∨
      ∃ entry ∈ c.bySeat.entries, seatConflict entry.2 = some reason := by
    intro reason
    rw [← hreasons, mem_sortDedup, hconflicts]
  -- what is not local was a conflict of the first loop
  have hsameFlag : (c.out.globalQuarantine || reasons.any fun reason => !reason.isLocal) =
      c.out.globalQuarantine := by
    cases hflagged : c.out.globalQuarantine with
    | true => rfl
    | false =>
      rw [Bool.false_or, List.any_eq_false]
      intro reason hreason
      cases hlocal : reason.isLocal with
      | true => simp
      | false =>
        rcases (hmem reason).mp hreason with hfirst | ⟨entry, -, hseat⟩
        · rw [hglobal reason hfirst hlocal] at hflagged
          cases hflagged
        · rw [seatConflict_isLocal hseat] at hlocal
          cases hlocal
  generalize c.bySeat.entries.foldl classifySeat c.out = out at *
  generalize c.bySeat.entries.foldl classifySeat _ = out' at *
  have h₁ : out'.blockedSeats = out.blockedSeats := by
    ext seat
    rw [hblocked, hblocked']
  have h₂ : sortDedup out'.conflicts = reasons := by
    refine eq_of_mem_iff (sortDedup_pairwise _) (hreasons ▸ sortDedup_pairwise _) fun reason => ?_
    rw [mem_sortDedup, hconflicts', List.mem_append, hmem]
    tauto
  cases out
  cases out'
  simp only at h₁ h₂ hsame hprevious hflag hsame' hprevious' hflag'
  rw [h₁, h₂, hsame, hprevious, hflag, hsame', hprevious', hflag', hsameFlag]

end Reclassifying

end Niralis.RecoveryDirectory
