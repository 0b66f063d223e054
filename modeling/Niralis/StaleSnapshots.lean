import Niralis.TypedFinalization

namespace Niralis

/-- A call of a typed transition, with the answers of the file system. -/
inductive TypedTransition
  | persistIntent (s : RecoveryStateSnapshot) (operation : DurableOperation) (attemptId : Nat)
    (answer : WriteAnswer)
  | persistUnrefIntent (s : RecoveryStateSnapshot) (proof : RecoveryBoundaryEmptyProof)
    (attemptId : Nat) (answer : WriteAnswer)
  | markResolved (s : RecoveryStateSnapshot) (completion : FinalizationCompletionProof)
    (answers : ResolutionAnswers)
  | confirmRelease (s : RecoveryStateSnapshot) (resolved : PersistedRecordResolved)
    (permit : RuntimeReleasePermit) (answer : WriteAnswer)
  | remove (s : RecoveryStateSnapshot) (resolved : PersistedRecordResolved)
    (confirmed : RuntimeReleaseConfirmed) (permit : RecordRemovalPermit) (answer : RemoveAnswer)

def TypedTransition.snapshot : TypedTransition → RecoveryStateSnapshot
  | persistIntent s _ _ _ => s
  | persistUnrefIntent s _ _ _ => s
  | markResolved s _ _ => s
  | confirmRelease s _ _ _ => s
  | remove s _ _ _ _ => s

def TypedTransition.id (t : TypedTransition) : String := t.snapshot.record.lifecycleId

namespace PersistentRecoveryLedger

/-- Whether the transition succeeds, and the ledger after it. -/
def attempt (l : PersistentRecoveryLedger) : TypedTransition → Bool × PersistentRecoveryLedger
  | .persistIntent s operation attemptId answer =>
    let result := l.persistRecoveryIntentFromSnapshot s operation attemptId answer
    (result.1.isSome, result.2)
  | .persistUnrefIntent s proof attemptId answer =>
    let result := l.persistRecoveryUnrefIntent s proof attemptId answer
    (result.1.isSome, result.2)
  | .markResolved s completion answers =>
    let result := l.markRecordResolvedTyped s completion answers
    (result.1.isSome, result.2)
  | .confirmRelease s resolved permit answer =>
    let result := l.confirmRuntimeReleaseTyped s resolved permit answer
    (result.1.isSome, result.2)
  | .remove s resolved confirmed permit answer =>
    let result := l.removeRecordTyped s resolved confirmed permit answer
    (result.1.isSome, result.2)

/-- The transition is rejected, and memory and disk stay as they are. -/
structure Inert (l : PersistentRecoveryLedger) (t : TypedTransition) : Prop where
  rejected : (l.attempt t).1 = false
  records : (l.attempt t).2.records = l.records
  files : (l.attempt t).2.files = l.files
  journal : (l.attempt t).2.journal = l.journal
  marks : SameMarks l (l.attempt t).2

def resolutionWrite (attempt : Nat) : DurableOperationState → Option RecordWrite
  | .notStarted => some (.operation .recordResolution (.intentPersisted attempt))
  | .confirmed _ => some (.transition "record_resolved")
  | _ => none

def resolutionAnswer (answers : ResolutionAnswers) : DurableOperationState → WriteAnswer
  | .notStarted => answers.intent
  | _ => answers.resolved

/-- The checks that stand between a stale snapshot and the disk. None but the last two looks at
how the record has changed. -/
def Accepts (l : PersistentRecoveryLedger) (actions : List LedgerAction) : TypedTransition → Prop
  | .persistIntent s operation attemptId answer =>
    s.validates = true ∧
      l.WriteRenames s.record.lifecycleId (.operation operation (.intentPersisted attemptId)) answer
  | .persistUnrefIntent s proof attemptId answer =>
    s.validates = true ∧ proof.matchesSnapshot s = true ∧
      l.WriteRenames s.record.lifecycleId (.operation .supervisorUnref (.intentPersisted attemptId))
        answer
  | .confirmRelease s resolved permit answer =>
    s.validates = true ∧ resolved.toRecordBinding = s.binding ∧
      permit.toRecordBinding = s.binding ∧
      ∃ record, l.get s.record.lifecycleId = some record ∧ record.state = "record_resolved" ∧
        l.WriteRenames s.record.lifecycleId
          (.operation .runtimeRelease (.confirmed record.sequence)) answer
  | .remove s resolved confirmed permit answer =>
    s.validates = true ∧ resolved.toRecordBinding = s.binding ∧
      confirmed.toRecordBinding = s.binding ∧ permit.toRecordBinding = s.binding ∧
      answer ≠ .notRemoved ∧
      l.recordFileIdentity s.record.lifecycleId = some permit.fileIdentity ∧
      ∃ record, l.get s.record.lifecycleId = some record ∧ record.state = "record_resolved" ∧
        record.operationLedger.runtimeRelease.isConfirmed = true
  | .markResolved s completion answers =>
    (∃ record answer, .create record answer ∈ actions ∧
      record.lifecycleId = s.record.lifecycleId) ∧
      s.validates = true ∧ completion.toRecordBinding = s.binding ∧
      ∃ current, l.get s.record.lifecycleId = some current ∧
        current.sequence = s.record.sequence ∧ current.createdBootId = s.record.createdBootId ∧
        current.seat = s.record.seat ∧
        ∃ w, resolutionWrite (saturatingAdd s.record.sequence 1)
            current.operationLedger.recordResolution = some w ∧
          l.WriteRenames s.record.lifecycleId w
            (resolutionAnswer answers current.operationLedger.recordResolution)

section Changes
variable {l l' : PersistentRecoveryLedger} {id : String} {r : PersistentRecoveryRecord}

theorem get_congr (h : l'.records = l.records) (id : String) : l'.get id = l.get id := by
  unfold get
  rw [h]

theorem file_congr (h : l'.files = l.files) (id : String) : l'.file id = l.file id := by
  unfold file
  rw [h]

theorem freshInode_ne {f : RecordFile} (h : l.file id = some f) : f.inode ≠ l.freshInode := by
  intro heq
  have hmem : f.inode ∈ l.files.map (·.inode) := List.mem_map_of_mem (KeyedList.mem_of_lookup h)
  exact l.inodes.unused _ _ (heq ▸ hmem)

theorem sequence_write (hget : l.get id = some r) (w : RecordWrite) (answer : WriteAnswer) :
    ∃ r', (l.write id w answer).2.get id = some r' ∧ r.sequence ≤ r'.sequence := by
  rcases write_outcomes hget w answer with hw | ⟨next, hnext, -, ⟨-, hget'⟩ | ⟨-, hget'⟩⟩
  · exact ⟨r, by rw [hw]; exact hget, le_rfl⟩
  · exact ⟨next, hget', by rw [hnext.sequence]; exact Nat.le_succ _⟩
  · exact ⟨r, hget', le_rfl⟩

/-- A write that reaches the disk raises the sequence in memory, or fails with another file. -/
theorem write_of_renames {w : RecordWrite} {answer : WriteAnswer} (hget : l.get id = some r)
    (h : l.WriteRenames id w answer) :
    ((l.write id w answer).1 = true ∧ ∃ r', (l.write id w answer).2.get id = some r' ∧
        r.sequence < r'.sequence) ∨
      ((l.write id w answer).1 = false ∧ (l.write id w answer).2.file id ≠ l.file id) := by
  obtain ⟨r₀, next, hget₀, happly, hvalid, hcommit⟩ := h
  cases hget.symm.trans hget₀
  have hresult := writeResult_of_apply happly
  have hid : next.lifecycleId = id := by rw [hresult.lifecycleId, lifecycleId_of_get hget]
  have hw : l.write id w answer = l.commit next (.committed w r next) answer.commit := by
    simp only [write, hget, happly]
  rw [hw]
  unfold commit
  rw [hvalid]
  cases hc : answer.commit with
  | notRenamed => exact absurd hc hcommit
  | notSynced =>
    refine Or.inr ⟨rfl, fun heq => ?_⟩
    have hfile : (l.putFile next (.committed w r next)).file id = some ⟨l.freshInode, next⟩ := by
      rw [file_putFile, if_pos hid.symm]
    exact freshInode_ne (heq.symm.trans hfile) rfl
  | synced =>
    refine Or.inl ⟨rfl, next, ?_, ?_⟩
    · simp [get_putRecord, hid]
    · rw [hresult.sequence]
      exact Nat.lt_succ_self _

theorem not_same_of_sequence {r' : PersistentRecoveryRecord} (hget : l.get id = some r)
    (hget' : l'.get id = some r') (h : r.sequence < r'.sequence) : l'.records ≠ l.records := by
  intro heq
  cases hget'.symm.trans ((get_congr heq id).trans hget)
  exact lt_irrefl _ h

theorem inert_of_eq {t : TypedTransition} (h : l.attempt t = (false, l)) : l.Inert t := by
  refine ⟨?_, ?_, ?_, ?_, ?_⟩ <;> rw [h]
  exact .refl l

/-- A transition whose last word is a write that reaches the disk is not inert. -/
theorem not_inert_of_write {t : TypedTransition} {w : RecordWrite} {answer : WriteAnswer}
    (hledger : (l.attempt t).2 = (l.write id w answer).2) (h : l.WriteRenames id w answer) :
    ¬l.Inert t := by
  intro hinert
  have ⟨r, next, hget, _⟩ := h
  rcases write_of_renames hget h with ⟨-, r', hget', hlt⟩ | ⟨-, hfile⟩
  · exact not_same_of_sequence hget hget' hlt (hledger ▸ hinert.records)
  · exact hfile (file_congr (hledger ▸ hinert.files) _)

end Changes

section Transitions
variable {l : PersistentRecoveryLedger} {s : RecoveryStateSnapshot} {actions : List LedgerAction}

theorem persistIntent_ledger (hv : s.validates = true) (operation : DurableOperation)
    (attemptId : Nat) (answer : WriteAnswer) :
    (l.persistRecoveryIntentFromSnapshot s operation attemptId answer).2 =
      (l.write s.record.lifecycleId (.operation operation (.intentPersisted attemptId))
        answer).2 := by
  simp only [persistRecoveryIntentFromSnapshot, hv, operationIntent]
  cases l.write s.record.lifecycleId (.operation operation (.intentPersisted attemptId))
    answer with
  | mk ok l' => cases ok <;> rfl

theorem persistIntent_refused {operation : DurableOperation} {attemptId : Nat}
    {answer : WriteAnswer} (hv : s.validates = true) (h : ¬l.WriteRenames s.record.lifecycleId
      (.operation operation (.intentPersisted attemptId)) answer) :
    l.persistRecoveryIntentFromSnapshot s operation attemptId answer = (none, l) := by
  simp only [persistRecoveryIntentFromSnapshot, hv, operationIntent, write_of_not_renames h]
  rfl

theorem persistIntent_inert_iff (operation : DurableOperation) (attemptId : Nat)
    (answer : WriteAnswer) :
    l.Inert (.persistIntent s operation attemptId answer) ↔
      ¬l.Accepts actions (.persistIntent s operation attemptId answer) := by
  by_cases hv : s.validates = true
  · constructor
    · rintro h ⟨-, hrenames⟩
      refine not_inert_of_write ?_ hrenames h
      exact persistIntent_ledger hv operation attemptId answer
    · intro h
      apply inert_of_eq
      simp only [attempt, persistIntent_refused hv fun hw => h ⟨hv, hw⟩]
      rfl
  · refine iff_of_true (inert_of_eq ?_) fun h => hv h.1
    simp only [attempt, persistRecoveryIntentFromSnapshot, hv]
    rfl

theorem persistUnrefIntent_inert_iff (proof : RecoveryBoundaryEmptyProof) (attemptId : Nat)
    (answer : WriteAnswer) :
    l.Inert (.persistUnrefIntent s proof attemptId answer) ↔
      ¬l.Accepts actions (.persistUnrefIntent s proof attemptId answer) := by
  by_cases hv : s.validates = true ∧ proof.matchesSnapshot s = true
  · obtain ⟨hv, hp⟩ := hv
    constructor
    · rintro h ⟨-, -, hrenames⟩
      refine not_inert_of_write ?_ hrenames h
      rw [← persistIntent_ledger hv]
      simp only [attempt, persistRecoveryUnrefIntent, hv, hp]
      cases l.persistRecoveryIntentFromSnapshot s .supervisorUnref attemptId answer with
      | mk result l' => cases result <;> rfl
    · intro h
      apply inert_of_eq
      simp only [attempt, persistRecoveryUnrefIntent, hv, hp,
        persistIntent_refused hv fun hw => h ⟨hv, hp, hw⟩]
      rfl
  · refine iff_of_true (inert_of_eq ?_) fun h => hv ⟨h.1, h.2.1⟩
    have hfail : (!s.validates || !proof.matchesSnapshot s) = true := by
      rw [Bool.or_eq_true, Bool.not_eq_true', Bool.not_eq_true', ← Bool.not_eq_true,
        ← Bool.not_eq_true]
      exact not_and_or.mp hv
    simp only [attempt, persistRecoveryUnrefIntent, hfail]
    rfl

theorem confirmRelease_inert_iff (resolved : PersistedRecordResolved)
    (permit : RuntimeReleasePermit) (answer : WriteAnswer) :
    l.Inert (.confirmRelease s resolved permit answer) ↔
      ¬l.Accepts actions (.confirmRelease s resolved permit answer) := by
  cases hget : l.get s.record.lifecycleId with
  | none =>
    refine iff_of_true (inert_of_eq ?_) fun h => ?_
    · simp only [attempt, confirmRuntimeReleaseTyped, hget]
      rfl
    · obtain ⟨-, -, -, record, hrecord, -⟩ := h
      rw [hget] at hrecord
      cases hrecord
  | some record =>
    have hid : record.lifecycleId = s.record.lifecycleId := lifecycleId_of_get hget
    cases hguard : releaseMismatch s record resolved permit with
    | false =>
      obtain ⟨hv, hstate, hresolved, hpermit⟩ := releaseMismatch_eq_false.mp hguard
      constructor
      · rintro h ⟨-, -, -, record', hget', -, hrenames⟩
        cases hget.symm.trans hget'
        refine not_inert_of_write ?_ hrenames h
        simp only [attempt, confirmRuntimeReleaseTyped, hget, hguard, operationConfirmed, hid]
        cases l.write s.record.lifecycleId
          (.operation .runtimeRelease (.confirmed record.sequence)) answer with
        | mk ok l' => cases ok <;> rfl
      · intro h
        apply inert_of_eq
        have hnot : ¬l.WriteRenames s.record.lifecycleId
            (.operation .runtimeRelease (.confirmed record.sequence)) answer :=
          fun hw => h ⟨hv, hresolved, hpermit, record, hget, hstate, hw⟩
        simp only [attempt, confirmRuntimeReleaseTyped, hget, hguard, operationConfirmed, hid,
          write_of_not_renames hnot]
        rfl
    | true =>
      refine iff_of_true (inert_of_eq ?_) fun h => ?_
      · simp only [attempt, confirmRuntimeReleaseTyped, hget, hguard]
        rfl
      · obtain ⟨hv, hresolved, hpermit, record', hget', hstate, -⟩ := h
        cases hget.symm.trans hget'
        rw [releaseMismatch_eq_false.mpr ⟨hv, hstate, hresolved, hpermit⟩] at hguard
        cases hguard

theorem remove_inert_iff (resolved : PersistedRecordResolved)
    (confirmed : RuntimeReleaseConfirmed) (permit : RecordRemovalPermit) (answer : RemoveAnswer) :
    l.Inert (.remove s resolved confirmed permit answer) ↔
      ¬l.Accepts actions (.remove s resolved confirmed permit answer) := by
  cases hget : l.get s.record.lifecycleId with
  | none =>
    refine iff_of_true (inert_of_eq ?_) fun h => ?_
    · simp only [attempt, removeRecordTyped, hget]
      rfl
    · obtain ⟨-, -, -, -, -, -, record, hrecord, -⟩ := h
      rw [hget] at hrecord
      cases hrecord
  | some record =>
    have hid : record.lifecycleId = s.record.lifecycleId := lifecycleId_of_get hget
    cases hguard : l.removalMismatch s record resolved confirmed permit with
    | true =>
      refine iff_of_true (inert_of_eq ?_) fun h => ?_
      · simp only [attempt, removeRecordTyped, hget, hguard]
        rfl
      · obtain ⟨hv, hresolved, hconfirmed, hpermit, -, hfile, record', hget', hstate, hrelease⟩ := h
        cases hget.symm.trans hget'
        rw [removalMismatch_eq_false.mpr ⟨hv, hresolved, hconfirmed, hpermit, hstate, hrelease,
          hid ▸ hfile⟩] at hguard
        cases hguard
    | false =>
      obtain ⟨hv, hresolved, hconfirmed, hpermit, hstate, hrelease, hfile⟩ :=
        removalMismatch_eq_false.mp hguard
      rw [hid] at hfile
      have hattempt : (l.attempt (.remove s resolved confirmed permit answer)).2 =
          (l.removeResolved s.record.lifecycleId answer).2 := by
        simp only [attempt, removeRecordTyped, hget, hguard, hid]
        cases l.removeResolved s.record.lifecycleId answer with
        | mk ok l' => cases ok <;> rfl
      constructor
      -- behind the guard the file is gone, unless its removal fails
      · rintro h ⟨-, -, -, -, hanswer, -⟩
        have hgone : (l.removeResolved s.record.lifecycleId answer).2.file s.record.lifecycleId =
            none := by
          simp only [removeResolved, hget, hstate]
          cases answer with
          | notRemoved => exact absurd rfl hanswer
          | notSynced => exact KeyedList.lookup_erase_self
          | synced => exact KeyedList.lookup_erase_self
        rw [file_congr (hattempt ▸ h.files)] at hgone
        simp [recordFileIdentity, hgone] at hfile
      · intro h
        have hanswer : answer = .notRemoved := by
          by_contra hne
          exact h ⟨hv, hresolved, hconfirmed, hpermit, hne, hfile, record, hget, hstate, hrelease⟩
        apply inert_of_eq
        simp [attempt, removeRecordTyped, hget, hguard, removeResolved, hid, hstate, hanswer]

/-- The checks of `mark_record_resolved_typed` before its first commit. -/
structure Fresh (l : PersistentRecoveryLedger) (s : RecoveryStateSnapshot)
    (completion : FinalizationCompletionProof) (current : PersistentRecoveryRecord) : Prop where
  validates : s.validates = true
  bound : completion.toRecordBinding = s.binding
  get : l.get s.record.lifecycleId = some current
  sequence : current.sequence = s.record.sequence
  boot : current.createdBootId = s.record.createdBootId
  seat : current.seat = s.record.seat

variable {completion : FinalizationCompletionProof} {answers : ResolutionAnswers}
  {current : PersistentRecoveryRecord}

theorem markResolved_of_not_fresh (h : ∀ current, ¬Fresh l s completion current) :
    l.markRecordResolvedTyped s completion answers = (none, l) := by
  unfold markRecordResolvedTyped
  split
  · rfl
  next hguard =>
    simp only [Bool.or_eq_true, Bool.not_eq_true', not_or, Bool.not_eq_false,
      s.matchesBinding_iff] at hguard
    split
    · rfl
    next current hget =>
      split
      · rfl
      next hsame =>
        simp only [ne_eq, not_or, not_not] at hsame
        exact absurd ⟨hguard.1, hguard.2, hget, hsame.1, hsame.2.2.1, hsame.2.2.2⟩ (h current)

theorem markResolved_of_fresh (h : Fresh l s completion current) :
    l.markRecordResolvedTyped s completion answers =
      match l.confirmResolution s.record.lifecycleId (saturatingAdd s.record.sequence 1) answers
          current.operationLedger.recordResolution with
      | (false, l) => (none, l)
      | (true, l) => l.resolveSnapshot s answers.resolved := by
  have hguard : (!s.validates || !s.matchesBinding completion.toRecordBinding) = false := by
    rw [h.validates, (s.matchesBinding_iff _).mpr h.bound]
    rfl
  have hsame : ¬(current.sequence ≠ s.record.sequence ∨
      current.lifecycleId ≠ s.record.lifecycleId ∨
      current.createdBootId ≠ s.record.createdBootId ∨ current.seat ≠ s.record.seat) := by
    simp [h.sequence, lifecycleId_of_get h.get, h.boot, h.seat]
  simp only [markRecordResolvedTyped, hguard, h.get, if_neg hsame]
  rfl

theorem resolveSnapshot_ledger (l : PersistentRecoveryLedger) (s : RecoveryStateSnapshot)
    (answer : WriteAnswer) : (l.resolveSnapshot s answer).2 =
      (l.write s.record.lifecycleId (.transition "record_resolved") answer).2 := by
  simp only [resolveSnapshot, markRecordResolved, transition]
  cases l.write s.record.lifecycleId (.transition "record_resolved") answer with
  | mk ok l' => cases ok <;> rfl

/-- Whatever follows the intent of the resolution, the sequence in memory stays above it. -/
theorem sequence_after_intent (l : PersistentRecoveryLedger) (s : RecoveryStateSnapshot)
    {r : PersistentRecoveryRecord} (attempt : Nat) (answers : ResolutionAnswers)
    (hget : l.get s.record.lifecycleId = some r) :
    ∃ r', (match l.operationConfirmed s.record.lifecycleId .recordResolution attempt
        answers.confirmed with
      | (false, l) => (none, l)
      | (true, l) => l.resolveSnapshot s answers.resolved).2.get s.record.lifecycleId = some r' ∧
      r.sequence ≤ r'.sequence := by
  have h := sequence_write hget (.operation .recordResolution (.confirmed attempt))
    answers.confirmed
  simp only [operationConfirmed]
  cases hw : l.write s.record.lifecycleId (.operation .recordResolution (.confirmed attempt))
    answers.confirmed with
  | mk ok l' =>
    rw [hw] at h
    cases ok with
    | false => exact h
    | true =>
      obtain ⟨r₁, hget₁, hle₁⟩ := h
      obtain ⟨r₂, hget₂, hle₂⟩ := sequence_write hget₁ (.transition "record_resolved")
        answers.resolved
      refine ⟨r₂, ?_, hle₁.trans hle₂⟩
      rw [resolveSnapshot_ledger]
      exact hget₂

/-- Past its checks the transition changes the ledger as soon as its first commit does. -/
theorem markResolved_inert_iff (h : Fresh l s completion current) :
    l.Inert (.markResolved s completion answers) ↔
      ¬∃ w, resolutionWrite (saturatingAdd s.record.sequence 1)
          current.operationLedger.recordResolution = some w ∧
        l.WriteRenames s.record.lifecycleId w
          (resolutionAnswer answers current.operationLedger.recordResolution) := by
  have hattempt : l.attempt (.markResolved s completion answers) =
      ((l.markRecordResolvedTyped s completion answers).1.isSome,
        (l.markRecordResolvedTyped s completion answers).2) := rfl
  rw [markResolved_of_fresh h] at hattempt
  cases hstate : current.operationLedger.recordResolution with
  | notStarted =>
    simp only [hstate, confirmResolution, operationIntent] at hattempt
    simp only [resolutionWrite, resolutionAnswer, Option.some.injEq, exists_eq_left']
    constructor
    · intro hinert hrenames
      cases hw : l.write s.record.lifecycleId (.operation .recordResolution
          (.intentPersisted (saturatingAdd s.record.sequence 1))) answers.intent with
      | mk ok l' =>
        have hends := write_of_renames h.get hrenames
        rw [hw] at hends hattempt
        -- the write went through and the sequence rose, or only the file was replaced
        rcases hends with ⟨htrue, r₁, hget₁, hlt⟩ | ⟨hfalse, hfile⟩
        · cases htrue
          obtain ⟨r₂, hget₂, hle⟩ := sequence_after_intent l' s
            (saturatingAdd s.record.sequence 1) answers hget₁
          rw [← congrArg Prod.snd hattempt] at hget₂
          exact not_same_of_sequence h.get hget₂ (hlt.trans_le hle) hinert.records
        · cases hfalse
          have hl : (l.attempt (.markResolved s completion answers)).2 = l' :=
            congrArg Prod.snd hattempt
          exact hfile (file_congr (hl ▸ hinert.files) _)
    · intro hnot
      apply inert_of_eq
      rw [hattempt, write_of_not_renames hnot]
      rfl
  | confirmed a =>
    simp only [hstate, confirmResolution] at hattempt
    simp only [resolutionWrite, resolutionAnswer, Option.some.injEq, exists_eq_left']
    constructor
    · intro hinert hrenames
      refine not_inert_of_write ?_ hrenames hinert
      rw [hattempt, resolveSnapshot_ledger]
    · intro hnot
      apply inert_of_eq
      rw [hattempt]
      simp only [resolveSnapshot, markRecordResolved, transition, write_of_not_renames hnot]
      rfl
  | intentPersisted a | failed a b | indeterminate a b =>
    simp only [hstate, confirmResolution] at hattempt
    exact iff_of_true (inert_of_eq hattempt) fun ⟨w, hw, _⟩ => by cases hw

end Transitions

section Since
variable {l : PersistentRecoveryLedger} {id : String} {r₀ : PersistentRecoveryRecord}

/-- The record is the one of the snapshot, or has moved on, or is gone. -/
def Since (id : String) (r₀ : PersistentRecoveryRecord) (l : PersistentRecoveryLedger) : Prop :=
  ∀ r, l.get id = some r → r = r₀ ∨ r₀.sequence < r.sequence

theorem since_write (h : Since id r₀ l) (w : RecordWrite) (answer : WriteAnswer) :
    Since id r₀ (l.write id w answer).2 := by
  intro r hr
  cases hget : l.get id with
  | none =>
    simp only [write, hget] at hr
    cases hr
  | some current =>
    rcases write_outcomes hget w answer with hw | ⟨next, hnext, -, ⟨-, hget'⟩ | ⟨-, hget'⟩⟩
    · rw [hw] at hr
      exact h r hr
    · cases hr.symm.trans hget'
      refine Or.inr ?_
      rw [hnext.sequence]
      rcases h current hget with rfl | hlt
      · exact Nat.lt_succ_self _
      · exact hlt.trans (Nat.lt_succ_self _)
    · exact h r (hget.trans (hget'.symm.trans hr))

theorem get_removeResolved (l : PersistentRecoveryLedger) (id : String) (answer : RemoveAnswer) :
    (l.removeResolved id answer).2.get id = l.get id ∨
      (l.removeResolved id answer).2.get id = none := by
  unfold removeResolved
  cases hget : l.get id with
  | none => exact Or.inl hget
  | some r =>
    dsimp only
    split
    · exact Or.inl hget
    · cases answer with
      | notRemoved => exact Or.inl hget
      | notSynced => exact Or.inl hget
      | synced => exact Or.inr KeyedList.lookup_erase_self

theorem since_removeResolved (h : Since id r₀ l) (answer : RemoveAnswer) :
    Since id r₀ (l.removeResolved id answer).2 := by
  intro r hr
  rcases get_removeResolved l id answer with hget | hget
  · exact h r (hget ▸ hr)
  · cases hr.symm.trans hget

/-- The action neither restarts the process nor creates the record again. -/
def Continues (id : String) (a : LedgerAction) : Prop :=
  (∀ bootId, a ≠ .reopen bootId) ∧ ∀ record answer, a = .create record answer →
    record.lifecycleId ≠ id

theorem since_step (h : Since id r₀ l) {a : LedgerAction} (ha : Continues id a) :
    Since id r₀ (l.step a) := by
  by_cases hsubject : a.subject = some id
  · cases a with
    | create record answer =>
      cases hsubject
      exact absurd rfl (ha.2 record answer rfl)
    | write id w answer =>
      cases hsubject
      exact since_write h w answer
    | removeResolved id answer =>
      cases hsubject
      exact since_removeResolved h answer
    | resolveAndRemove id resolve remove =>
      cases hsubject
      have hwrite := since_write h (.transition "record_resolved") resolve
      simp only [step, perform, resolveAndRemove, transition]
      cases hw : l.write id (.transition "record_resolved") resolve with
      | mk ok l' =>
        rw [hw] at hwrite
        cases ok with
        | false => exact hwrite
        | true => exact since_removeResolved hwrite remove
    | reopen bootId => cases hsubject
  · intro r hr
    cases hother : a.subject with
    | none =>
      cases a with
      | reopen bootId => exact absurd rfl (ha.1 bootId)
      | _ => cases hother
    | some id' =>
      have hne : id ≠ id' := fun heq => hsubject (heq ▸ hother)
      exact h r ((l.onRecord_perform hother).get id hne ▸ hr)

theorem since_run {actions : List LedgerAction} (h : Since id r₀ l)
    (ha : ∀ a ∈ actions, Continues id a) : Since id r₀ (actions.foldl step l) := by
  induction actions generalizing l with
  | nil => exact h
  | cons a rest ih =>
    exact ih (since_step h (ha a List.mem_cons_self))
      fun b hb => ha b (List.mem_cons_of_mem _ hb)

end Since

/-- A changed record has another sequence, unless it was created again. -/
theorem recreated_of_sequence {l₀ : PersistentRecoveryLedger} {actions : List LedgerAction}
    {id : String} {r₀ current : PersistentRecoveryRecord}
    (hprocess : ∀ a ∈ actions, ∀ bootId, a ≠ .reopen bootId) (htaken : l₀.get id = some r₀)
    (hget : (actions.foldl step l₀).get id = some current) (hchanged : current ≠ r₀)
    (hsequence : current.sequence = r₀.sequence) :
    ∃ record answer, LedgerAction.create record answer ∈ actions ∧ record.lifecycleId = id := by
  by_contra hcon
  have hstart : Since id r₀ l₀ := fun r hr => Or.inl (Option.some.inj (hr.symm.trans htaken))
  have hcontinues : ∀ a ∈ actions, Continues id a := by
    intro a ha
    refine ⟨hprocess a ha, ?_⟩
    rintro record answer rfl hid
    exact hcon ⟨record, answer, ha, hid⟩
  rcases since_run hstart hcontinues current hget with h | h
  · exact hchanged h
  · exact absurd h (by rw [hsequence]; exact lt_irrefl _)

/-- A snapshot taken from the ledger, and any operations of the same process that changed its
record since: which transitions are inert. -/
theorem stale_snapshot_inert_iff (l₀ : PersistentRecoveryLedger) (actions : List LedgerAction)
    (t : TypedTransition) (hprocess : ∀ a ∈ actions, ∀ bootId, a ≠ .reopen bootId)
    (htaken : l₀.get t.id = some t.snapshot.record)
    (hchanged : (actions.foldl step l₀).get t.id ≠ some t.snapshot.record) :
    (actions.foldl step l₀).Inert t ↔ ¬(actions.foldl step l₀).Accepts actions t := by
  cases t with
  | persistIntent s operation attemptId answer =>
    exact persistIntent_inert_iff operation attemptId answer
  | persistUnrefIntent s proof attemptId answer =>
    exact persistUnrefIntent_inert_iff proof attemptId answer
  | confirmRelease s resolved permit answer =>
    exact confirmRelease_inert_iff resolved permit answer
  | remove s resolved confirmed permit answer =>
    exact remove_inert_iff resolved confirmed permit answer
  | markResolved s completion answers =>
    by_cases hfresh : ∃ current, Fresh (actions.foldl step l₀) s completion current
    · obtain ⟨current, hfresh⟩ := hfresh
      rw [markResolved_inert_iff hfresh, not_iff_not]
      have hrecreated := recreated_of_sequence hprocess htaken hfresh.get
        (fun heq => hchanged (heq ▸ hfresh.get)) hfresh.sequence
      constructor
      · intro hwrite
        exact ⟨hrecreated, hfresh.validates, hfresh.bound, current, hfresh.get, hfresh.sequence,
          hfresh.boot, hfresh.seat, hwrite⟩
      · rintro ⟨-, -, -, current', hget, -, -, -, hwrite⟩
        cases hget.symm.trans hfresh.get
        exact hwrite
    · refine iff_of_true (inert_of_eq ?_) ?_
      · simp only [attempt, markResolved_of_not_fresh (not_exists.mp hfresh)]
        rfl
      · rintro ⟨-, hv, hbound, current, hget, hsequence, hboot, hseat, -⟩
        exact hfresh ⟨current, hv, hbound, hget, hsequence, hboot, hseat⟩

section Sample

def sampleSnapshot : RecoveryStateSnapshot := ⟨preparedRecord, "boot-1"⟩

def preparedLedger : PersistentRecoveryLedger :=
  (PersistentRecoveryLedger.create {} preparedRecord .synced).2

/-- The payload is killed and the result recorded, under attempt 2. -/
def payloadKilled : List LedgerAction :=
  [.write "worker-1" (.operation .payloadKill (.intentPersisted 2)) ⟨some "boot-1", .synced⟩,
    .write "worker-1" (.operation .payloadKill (.confirmed 2)) ⟨some "boot-1", .synced⟩]

def staleIntent : TypedTransition :=
  .persistIntent sampleSnapshot .payloadKill 2 ⟨some "boot-1", .synced⟩

def staleResolution : TypedTransition :=
  .markResolved sampleSnapshot ⟨sampleSnapshot.binding⟩
    ⟨⟨some "boot-1", .synced⟩, ⟨some "boot-1", .synced⟩, ⟨some "boot-1", .synced⟩⟩

theorem staleResolution_inert :
    preparedLedger.get staleResolution.id = some staleResolution.snapshot.record ∧
      (payloadKilled.foldl step preparedLedger).get staleResolution.id ≠
        some staleResolution.snapshot.record ∧
      (payloadKilled.foldl step preparedLedger).Inert staleResolution := by
  have htaken : preparedLedger.get staleResolution.id = some staleResolution.snapshot.record := rfl
  have hchanged : (payloadKilled.foldl step preparedLedger).get staleResolution.id ≠
      some staleResolution.snapshot.record := by decide
  have hprocess : ∀ a ∈ payloadKilled, ∀ bootId, a ≠ .reopen bootId := by
    simp [payloadKilled]
  refine ⟨htaken, hchanged,
    (stale_snapshot_inert_iff preparedLedger payloadKilled staleResolution hprocess htaken
      hchanged).mpr ?_⟩
  rintro ⟨⟨record, answer, hmem, -⟩, -⟩
  simp [payloadKilled] at hmem

/-- The intent of a stale snapshot goes through: it reuses the attempt and takes back its
confirmation. -/
theorem staleIntent_not_inert :
    preparedLedger.get staleIntent.id = some staleIntent.snapshot.record ∧
      (payloadKilled.foldl step preparedLedger).get staleIntent.id ≠
        some staleIntent.snapshot.record ∧
      ¬(payloadKilled.foldl step preparedLedger).Inert staleIntent ∧
      ((payloadKilled.foldl step preparedLedger).get "worker-1").map
        (·.operationLedger.payloadKill) = some (.confirmed 2) ∧
      (((payloadKilled.foldl step preparedLedger).attempt staleIntent).2.get "worker-1").map
        (·.operationLedger.payloadKill) = some (.intentPersisted 2) := by
  refine ⟨rfl, by decide, fun h => ?_, rfl, rfl⟩
  exact absurd h.rejected (by decide)

end Sample

end PersistentRecoveryLedger

end Niralis
