import Niralis.LedgerFrames
import Niralis.Runs

namespace Niralis

/-- One call to the ledger with the answers of the file system, or a new process that opens the
directory again. -/
inductive LedgerAction
  | create (record : PersistentRecoveryRecord) (answer : CommitAnswer)
  | write (lifecycleId : String) (write : RecordWrite) (answer : WriteAnswer)
  | removeResolved (lifecycleId : String) (answer : RemoveAnswer)
  | resolveAndRemove (lifecycleId : String) (resolve : WriteAnswer) (remove : RemoveAnswer)
  | reopen (bootId : Option String)

def LedgerAction.subject : LedgerAction → Option String
  | create record _ => some record.lifecycleId
  | write id _ _ => some id
  | removeResolved id _ => some id
  | resolveAndRemove id _ _ => some id
  | reopen _ => none

/-- `r` with the fields that the operation is named for taken from `r'`. -/
def RecordWrite.takeNamedFields (w : RecordWrite) (r r' : PersistentRecoveryRecord) :
    PersistentRecoveryRecord :=
  match w with
  | transition _ => r
  | operation op _ => { r with
      operationLedger := r.operationLedger.set op (r'.operationLedger.get op) }
  | transitionWithOperation _ op _ => { r with
      operationLedger := r.operationLedger.set op (r'.operationLedger.get op) }
  | quarantine _ => { r with quarantineReason := r'.quarantineReason }
  | vtBusyProvenance _ => { r with vtBusyProvenance := r'.vtBusyProvenance }
  | appendVtRecoveryAttempt _ => { r with vtRecoveryAttempts := r'.vtRecoveryAttempts }
  | finishVtRecoveryAttempt _ _ _ => { r with vtRecoveryAttempts := r'.vtRecoveryAttempts }
  | workerVtCleanupIntent _ => { r with
      pamStatus := r'.pamStatus
      operationLedger := r.operationLedger.set .vtDisallocate r'.operationLedger.vtDisallocate }
  | workerVtCleanupResult _ _ => { r with
      operationLedger := r.operationLedger.set .vtDisallocate r'.operationLedger.vtDisallocate }

/-- `r'` follows `r` by one operation: the next sequence, the named fields, the state and the
stamp of the update. -/
structure FollowsBy (w : RecordWrite) (r r' : PersistentRecoveryRecord) : Prop where
  sequence : r'.sequence = r.sequence + 1
  noWrap : r'.sequence < u64Bound
  onlyNamed : r' = { w.takeNamedFields r r' with
    sequence := r.sequence + 1, state := r'.state, lastUpdatedBootId := r'.lastUpdatedBootId }

theorem transition_lt {r next : PersistentRecoveryRecord} {state : String}
    {bootId : Option String} (h : r.transition state bootId = some next) :
    r.sequence + 1 < u64Bound := by
  unfold PersistentRecoveryRecord.transition at h
  split at h
  · cases h
  · cases hs : checkedAdd r.sequence 1 with
    | none => simp [hs] at h
    | some sequence => exact (checkedAdd_eq_some.mp hs).1

theorem sequence_of_edit {r edited : PersistentRecoveryRecord} {w : RecordWrite}
    (h : w.edit r = some edited) : edited.sequence = r.sequence := by
  cases w with
  | transitionWithOperation state op s =>
    simp only [RecordWrite.edit] at h
    split at h
    · cases h; rfl
    · cases h
  | finishVtRecoveryAttempt attemptId state provenanceAfter =>
    obtain ⟨attempts, -, rfl⟩ := Option.map_eq_some_iff.mp h
    rfl
  | workerVtCleanupResult attemptId result => cases result <;> cases h <;> rfl
  | _ => cases h; rfl

theorem DurableOperationLedger.set_get_set (l : DurableOperationLedger) (op : DurableOperation)
    (s : DurableOperationState) : l.set op ((l.set op s).get op) = l.set op s := by
  cases op <;> rfl

theorem followsBy_of_apply {r next : PersistentRecoveryRecord} {w : RecordWrite}
    {bootId : Option String} (h : w.apply r bootId = some next) : FollowsBy w r next := by
  obtain ⟨edited, hedit, htransition⟩ := Option.bind_eq_some_iff.mp h
  have hlt := transition_lt htransition
  rw [sequence_of_edit hedit] at hlt
  obtain ⟨boot, -, rfl⟩ := transition_eq_some htransition
  have hseq := sequence_of_edit hedit
  refine ⟨by rw [← hseq], by rw [← hseq] at hlt; exact hlt, ?_⟩
  cases w with
  | operation op s =>
    cases hedit
    simp [RecordWrite.takeNamedFields, DurableOperationLedger.set_get_set]
  | transitionWithOperation state op s =>
    simp only [RecordWrite.edit] at hedit
    split at hedit
    · cases hedit
      simp [RecordWrite.takeNamedFields, DurableOperationLedger.set_get_set]
    · cases hedit
  | finishVtRecoveryAttempt attemptId state provenanceAfter =>
    obtain ⟨attempts, -, rfl⟩ := Option.map_eq_some_iff.mp hedit
    rfl
  | workerVtCleanupResult attemptId result => cases result <;> cases hedit <;> rfl
  | _ => cases hedit; rfl

theorem apply_eq_none_of_limit {r : PersistentRecoveryRecord} {w : RecordWrite}
    {bootId : Option String} (h : u64Bound ≤ r.sequence + 1) : w.apply r bootId = none := by
  cases happly : w.apply r bootId with
  | none => rfl
  | some next =>
    have hf := followsBy_of_apply happly
    have := hf.noWrap
    rw [hf.sequence] at this
    omega

namespace PersistentRecoveryLedger

def perform (l : PersistentRecoveryLedger) : LedgerAction → Bool × PersistentRecoveryLedger
  | .create record answer => l.create record answer
  | .write id write answer => l.write id write answer
  | .removeResolved id answer => l.removeResolved id answer
  | .resolveAndRemove id resolve remove => l.resolveAndRemove id resolve remove
  | .reopen bootId => (true, l.openDirectory bootId)

def step (l : PersistentRecoveryLedger) (a : LedgerAction) : PersistentRecoveryLedger :=
  (l.perform a).2

/-- The write of `w` to the record gets as far as the rename. -/
def WriteRenames (l : PersistentRecoveryLedger) (id : String) (w : RecordWrite)
    (answer : WriteAnswer) : Prop :=
  ∃ r next, l.get id = some r ∧ w.apply r answer.bootId = some next ∧
    validateRecord next = true ∧ answer.commit ≠ .notRenamed

/-- The action gets as far as its rename; a removal, as far as its unlink. -/
def ReachesDisk (l : PersistentRecoveryLedger) : LedgerAction → Prop
  | .create record answer =>
    l.get record.lifecycleId = none ∧ validateRecord record = true ∧ answer ≠ .notRenamed
  | .write id w answer => l.WriteRenames id w answer
  | .removeResolved id answer =>
    (∃ r, l.get id = some r ∧ (r.state = "record_resolved" ∨ r.state = "cleared_by_boot_boundary")) ∧
      answer ≠ .notRemoved
  | .resolveAndRemove id resolve _ => l.WriteRenames id (.transition "record_resolved") resolve
  | .reopen _ => True

theorem write_of_not_renames {l : PersistentRecoveryLedger} {id : String} {w : RecordWrite}
    {answer : WriteAnswer} (h : ¬l.WriteRenames id w answer) : l.write id w answer = (false, l) := by
  rcases write_cases l id w answer with hw | ⟨r, next, hget, happly, hvalid, hcommit, -⟩
  · exact hw
  · exact absurd ⟨r, next, hget, happly, hvalid, hcommit⟩ h

theorem perform_of_not_reachesDisk {l : PersistentRecoveryLedger} {a : LedgerAction}
    (h : ¬l.ReachesDisk a) : l.perform a = (false, l) := by
  cases a with
  | create record answer =>
    simp only [perform, create]
    split
    · rfl
    · rename_i hget
      have hnone : l.get record.lifecycleId = none := by simpa using hget
      unfold commit
      cases hvalid : validateRecord record with
      | false => rfl
      | true =>
        cases answer with
        | notRenamed => rfl
        | notSynced => exact absurd ⟨hnone, hvalid, by simp⟩ h
        | synced => exact absurd ⟨hnone, hvalid, by simp⟩ h
  | write id w answer => exact write_of_not_renames h
  | removeResolved id answer =>
    simp only [perform, removeResolved]
    cases hget : l.get id with
    | none => rfl
    | some r =>
      dsimp only
      split
      · rfl
      · rename_i hstate
        have hresolved : r.state = "record_resolved" ∨ r.state = "cleared_by_boot_boundary" := by
          by_contra hcon
          exact hstate (not_or.mp hcon)
        cases answer with
        | notRemoved => rfl
        | notSynced => exact absurd ⟨⟨r, hget, hresolved⟩, by simp⟩ h
        | synced => exact absurd ⟨⟨r, hget, hresolved⟩, by simp⟩ h
  | resolveAndRemove id resolve remove =>
    simp only [perform, resolveAndRemove, transition, write_of_not_renames h]
  | reopen bootId => exact absurd trivial h

/-- An update that succeeds leaves the next record in memory and in the record's file. -/
theorem write_committed {l : PersistentRecoveryLedger} {id : String} {w : RecordWrite}
    {answer : WriteAnswer} (h : (l.write id w answer).1 = true) :
    ∃ r r', l.get id = some r ∧ FollowsBy w r r' ∧ (l.write id w answer).2.get id = some r' ∧
      ∃ inode, (l.write id w answer).2.file id = some ⟨inode, r'⟩ := by
  rcases write_cases l id w answer with hw | ⟨r, next, hget, happly, -, -, hw⟩
  · rw [hw] at h
    cases h
  · have hid : next.lifecycleId = id := by
      rw [(writeResult_of_apply happly).lifecycleId, lifecycleId_of_get hget]
    rw [hw] at h ⊢
    split at h
    · refine ⟨r, next, hget, followsBy_of_apply happly, ?_, l.freshInode, ?_⟩
      · simp [*, get_putRecord]
      · simp [*, file_putFile]
    · cases h

/-- The three ends of an update: nothing happened, memory and file have the next record, or only
the file has it. -/
theorem write_outcomes {l : PersistentRecoveryLedger} {id : String} {r : PersistentRecoveryRecord}
    (hget : l.get id = some r) (w : RecordWrite) (answer : WriteAnswer) :
    l.write id w answer = (false, l) ∨
      ∃ next, WriteResult r w next ∧
        (l.write id w answer).2.file id = some ⟨l.freshInode, next⟩ ∧
        ((l.write id w answer).1 = true ∧ (l.write id w answer).2.get id = some next ∨
          (l.write id w answer).1 = false ∧ (l.write id w answer).2.get id = some r) := by
  rcases write_cases l id w answer with hw | ⟨r', next, hget', happly, -, -, hw⟩
  · exact Or.inl hw
  · cases hget.symm.trans hget'
    have hid : next.lifecycleId = id := by
      rw [(writeResult_of_apply happly).lifecycleId, lifecycleId_of_get hget]
    refine Or.inr ⟨next, writeResult_of_apply happly, ?_, ?_⟩
    · rw [hw]
      split <;> simp [file_putFile, hid]
    · rw [hw]
      split
      · exact Or.inl ⟨rfl, by simp [get_putRecord, hid]⟩
      · exact Or.inr ⟨rfl, hget⟩

/-- A removal that succeeds leaves the record neither in memory nor on disk. -/
theorem removeResolved_ok {l : PersistentRecoveryLedger} {id : String} {answer : RemoveAnswer}
    (h : (l.removeResolved id answer).1 = true) :
    (l.removeResolved id answer).2.get id = none ∧ (l.removeResolved id answer).2.file id = none := by
  unfold removeResolved at h ⊢
  cases hget : l.get id with
  | none => simp [hget] at h
  | some r =>
    simp only [hget] at h ⊢
    split
    · rename_i hstate
      simp [hstate] at h
    · rename_i hstate
      rw [if_neg hstate] at h
      cases answer with
      | notRemoved => cases h
      | notSynced => cases h
      | synced => exact ⟨KeyedList.lookup_erase_self, KeyedList.lookup_erase_self⟩

theorem resolveAndRemove_ok {l : PersistentRecoveryLedger} {id : String} {resolve : WriteAnswer}
    {remove : RemoveAnswer} (h : (l.resolveAndRemove id resolve remove).1 = true) :
    (l.resolveAndRemove id resolve remove).2.get id = none ∧
      (l.resolveAndRemove id resolve remove).2.file id = none := by
  unfold resolveAndRemove at h ⊢
  generalize l.transition id "record_resolved" resolve = resolved at h ⊢
  obtain ⟨done, l'⟩ := resolved
  cases done with
  | false => cases h
  | true => exact removeResolved_ok h

/-- A record that was created is in memory and on disk as it was given, where there was none. -/
theorem create_ok {l : PersistentRecoveryLedger} {r : PersistentRecoveryRecord} {answer : CommitAnswer}
    (h : (l.create r answer).1 = true) :
    l.get r.lifecycleId = none ∧ (l.create r answer).2.get r.lifecycleId = some r ∧
      ∃ inode, (l.create r answer).2.file r.lifecycleId = some ⟨inode, r⟩ := by
  unfold create at h ⊢
  cases hget : l.get r.lifecycleId with
  | some found => simp [hget] at h
  | none =>
    simp only [hget, Option.isSome_none, Bool.false_eq_true, if_false, commit] at h ⊢
    cases hvalid : validateRecord r with
    | false => simp [hvalid] at h
    | true =>
      cases answer with
      | notRenamed => simp [hvalid] at h
      | notSynced => simp [hvalid] at h
      | synced => exact ⟨trivial, by simp [get_putRecord], l.freshInode, by simp [file_putFile]⟩

theorem onRecord_perform (l : PersistentRecoveryLedger) {a : LedgerAction} {id : String}
    (h : a.subject = some id) : OnRecord id l (l.step a) := by
  cases a with
  | create record answer => cases h; exact l.onRecord_create record answer
  | write id w answer => cases h; exact l.onRecord_write id w answer
  | removeResolved id answer => cases h; exact l.onRecord_removeResolved id answer
  | resolveAndRemove id resolve remove =>
    cases h
    exact l.onRecord_resolveAndRemove id resolve remove
  | reopen bootId => cases h

theorem write_of_limit {l : PersistentRecoveryLedger} {id : String} {r : PersistentRecoveryRecord}
    (hget : l.get id = some r) (hlimit : u64Bound ≤ r.sequence + 1) (w : RecordWrite)
    (answer : WriteAnswer) : l.write id w answer = (false, l) := by
  apply write_of_not_renames
  rintro ⟨r', next, hget', happly, -, -⟩
  cases hget.symm.trans hget'
  rw [apply_eq_none_of_limit hlimit] at happly
  cases happly

/-- At the numeric limit every operation but the removal fails and leaves the ledger as it is. -/
theorem perform_of_limit {l : PersistentRecoveryLedger} {a : LedgerAction} {id : String}
    {r : PersistentRecoveryRecord} (hid : a.subject = some id)
    (hremove : ∀ answer, a ≠ .removeResolved id answer) (hget : l.get id = some r)
    (hlimit : u64Bound ≤ r.sequence + 1) : l.perform a = (false, l) := by
  cases a with
  | create record answer =>
    cases hid
    simp [perform, create, hget]
  | write id w answer =>
    cases hid
    exact write_of_limit hget hlimit w answer
  | removeResolved id answer =>
    cases hid
    exact absurd rfl (hremove answer)
  | resolveAndRemove id resolve remove =>
    cases hid
    simp only [perform, resolveAndRemove, transition, write_of_limit hget hlimit]
  | reopen bootId => cases hid

structure Disciplined (l : PersistentRecoveryLedger) (a : LedgerAction)
    (l' : PersistentRecoveryLedger) : Prop where
  committed : ∀ id w answer, a = .write id w answer → (l.perform a).1 = true →
    ∃ r r', l.get id = some r ∧ FollowsBy w r r' ∧ l'.get id = some r' ∧
      ∃ inode, l'.file id = some ⟨inode, r'⟩
  removed : ∀ id, (∃ answer, a = .removeResolved id answer) ∨
      (∃ resolve remove, a = .resolveAndRemove id resolve remove) →
    (l.perform a).1 = true → l'.get id = none ∧ l'.file id = none
  created : ∀ r answer, a = .create r answer → (l.perform a).1 = true →
    l.get r.lifecycleId = none ∧ l'.get r.lifecycleId = some r ∧
      ∃ inode, l'.file r.lifecycleId = some ⟨inode, r⟩
  failed : (l.perform a).1 = false → ¬l.ReachesDisk a → l' = l
  others : ∀ id, a.subject = some id →
    ∀ id', id' ≠ id → l'.get id' = l.get id' ∧ l'.file id' = l.file id'
  reopened : ∀ bootId, a = .reopen bootId →
    l'.files = l.files ∧ ∀ r ∈ l'.records, ∃ f ∈ l.files, r = f.record
  limit : ∀ id r, a.subject = some id → (∀ answer, a ≠ .removeResolved id answer) →
    l.get id = some r → u64Bound ≤ r.sequence + 1 → (l.perform a).1 = false ∧ l' = l

theorem mem_openDirectory {l : PersistentRecoveryLedger} {bootId : Option String}
    {r : PersistentRecoveryRecord} (h : r ∈ (l.openDirectory bootId).records) :
    ∃ f ∈ l.files, r = f.record := by
  unfold openDirectory at h
  dsimp only at h
  rw [(applyHistoricalJournalQuarantine_keeps _).1] at h
  unfold loadRecords at h
  split at h
  · exact absurd h List.not_mem_nil
  · obtain ⟨f, hf, rfl⟩ := List.mem_map.mp h
    exact ⟨f, (List.mem_filter.mp hf).1, rfl⟩

theorem disciplined_step (l : PersistentRecoveryLedger) (a : LedgerAction) :
    Disciplined l a (l.step a) := by
  refine ⟨?_, ?_, ?_, ?_, ?_, ?_, ?_⟩
  · rintro id w answer rfl hok
    exact write_committed hok
  · rintro id (⟨answer, rfl⟩ | ⟨resolve, remove, rfl⟩) hok
    · exact removeResolved_ok hok
    · exact resolveAndRemove_ok hok
  · rintro r answer rfl hok
    exact create_ok hok
  · intro _ hreach
    simp only [step, perform_of_not_reachesDisk hreach]
  · intro id hid id' hne
    have h := l.onRecord_perform hid
    exact ⟨h.get id' hne, h.file id' hne⟩
  · rintro bootId rfl
    exact ⟨(applyHistoricalJournalQuarantine_keeps _).2.1, fun r hr => mem_openDirectory hr⟩
  · intro id r hid hremove hget hlimit
    simp only [step, perform_of_limit hid hremove hget hlimit, and_self]

/-- Over every run, whatever the file system answers and wherever the directory is reopened. -/
theorem sequence_discipline (l : PersistentRecoveryLedger) (actions : List LedgerAction) (n : Nat)
    (a : LedgerAction) (h : actions[n]? = some a) :
    Disciplined ((actions.take n).foldl step l) a ((actions.take (n + 1)).foldl step l) := by
  rw [foldl_take_succ h]
  exact disciplined_step _ a

section Sample

def preparedRecord : PersistentRecoveryRecord where
  lifecycleId := "worker-1"
  sequence := 1
  createdBootId := "boot-1"
  lastUpdatedBootId := "boot-1"
  state := "payload_prepared"
  uid := 1000
  seat := "seat0"
  workerPid := 41
  launcherPid := 40

/-- A login is recorded and started, the supervisor restarts, and the worker's record takes the
intent of the terminal cleanup. -/
def startedAndReopened : List LedgerAction :=
  [.create preparedRecord .synced, .write "worker-1" (.transition "started") ⟨some "boot-1", .synced⟩,
    .reopen (some "boot-1"), .write "worker-1" (.workerVtCleanupIntent 3) ⟨some "boot-1", .synced⟩]

theorem startedAndReopened_disciplined :
    (((startedAndReopened.take 1).foldl step {}).perform
        (.write "worker-1" (.transition "started") ⟨some "boot-1", .synced⟩)).1 = true ∧
      Disciplined ((startedAndReopened.take 1).foldl step {})
        (.write "worker-1" (.transition "started") ⟨some "boot-1", .synced⟩)
        ((startedAndReopened.take 2).foldl step {}) :=
  ⟨by decide, sequence_discipline {} startedAndReopened 1 _ rfl⟩

end Sample

end PersistentRecoveryLedger

end Niralis
