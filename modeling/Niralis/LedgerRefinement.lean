import Niralis.LedgerFiles

namespace Niralis.RecoveryDirectory
open FileReplacement PersistentRecoveryLedger

/-- The record that the record file of a lifecycle parses to, if it is one of that lifecycle. -/
def LedgerFiles.parsed (json : RecordJson) (s : LedgerFiles) (id : String) :
    Option PersistentRecoveryRecord :=
  (s.files.get (recordName id)).bind fun f =>
    (parseEntry [] (f.entry json (recordName id))).toOption.filter (·.lifecycleId = id)

/-- The ledger without its temporary files. -/
structure Represents (json : RecordJson) (s : LedgerFiles) (l : PersistentRecoveryLedger) :
    Prop where
  records : ∀ id, l.get id = s.records.get id
  files : ∀ id, (l.file id).map (·.record) = s.parsed json id
  ordered : FilesOrdered l

/-- How far a commit gets. One whose text is too long, or that finds a temporary file in its way,
does not get to the rename. -/
def LedgerFiles.answer (json : RecordJson) (s : LedgerFiles) (r : PersistentRecoveryRecord)
    (fault : Option Fault) : CommitAnswer :=
  if maxRecoveryRecordBytes < (json.toVec r).length then .notRenamed
  else if s.abandoned r.lifecycleId then .notRenamed
  else match fault with
    | none => .synced
    | some .syncDirectory => .notSynced
    | some _ => .notRenamed

/-- A step of the ledger that has no temporary files. -/
inductive AnsweredStep
  | commit (record : PersistentRecoveryRecord) (answer : CommitAnswer)
  | remove (id : String) (answer : RemoveAnswer)
  | restart (bootId : Option String)

def AnsweredStep.perform (l : PersistentRecoveryLedger) :
    AnsweredStep → Bool × PersistentRecoveryLedger
  | commit r answer => l.commit r (.created r) answer
  | remove id answer => l.removeResolved id answer
  | restart bootId => (true, l.openDirectory bootId)

def LedgerFiles.answered (json : RecordJson) (s : LedgerFiles) : LedgerStep → AnsweredStep
  | .commit r fault => .commit r (s.answer json r fault)
  | .remove id answer => .remove id answer
  | .restart currentBoot => .restart currentBoot

def LedgerFiles.perform (json : RecordJson) (directory : List UInt8) (s : LedgerFiles) :
    LedgerStep → Bool × LedgerFiles
  | .commit r fault => s.commit json r fault
  | .remove id answer => s.removeResolved id answer
  | .restart currentBoot => (true, s.restart json directory currentBoot)

/-- The records of the commits read back, and the boot identity of a restart was parsed. -/
def LedgerStep.Sound (json : RecordJson) : LedgerStep → Prop
  | commit r _ => json.ReadsBack r
  | remove _ _ => True
  | restart currentBoot => ∀ boot, currentBoot = some boot → bootIdentityValid boot = true

section Step
variable {json : RecordJson} {directory : List UInt8} {s : LedgerFiles}
  {l : PersistentRecoveryLedger} {r : PersistentRecoveryRecord} {fault : Option Fault}

theorem answer_of_accepted (h : Accepted json r) : s.answer json r fault =
    if s.abandoned r.lifecycleId then .notRenamed
    else match fault with
      | none => .synced
      | some .syncDirectory => .notSynced
      | some _ => .notRenamed := by
  unfold LedgerFiles.answer
  rw [if_neg (Nat.not_lt.mpr h.2)]

theorem answer_eq_synced (h : Accepted json r) :
    s.answer json r fault = .synced ↔ s.abandoned r.lifecycleId = false ∧ fault = none := by
  rw [answer_of_accepted h]
  cases s.abandoned r.lifecycleId with
  | true => simp
  | false =>
    cases fault with
    | none => simp
    | some fault => cases fault <;> simp

theorem answer_ne_notRenamed (h : Accepted json r) :
    s.answer json r fault ≠ .notRenamed ↔
      s.abandoned r.lifecycleId = false ∧ (fault = none ∨ fault = some .syncDirectory) := by
  rw [answer_of_accepted h]
  cases s.abandoned r.lifecycleId with
  | true => simp
  | false =>
    cases fault with
    | none => simp
    | some fault => cases fault <;> simp

theorem parsed_commit (hjson : json.ReadsBack r) (haccepted : Accepted json r)
    (fault : Option Fault) (id : String) :
    (s.commit json r fault).2.parsed json id =
      if id = r.lifecycleId ∧ s.answer json r fault ≠ .notRenamed then some r
      else s.parsed json id := by
  unfold LedgerFiles.parsed
  by_cases hid : id = r.lifecycleId
  · subst hid
    rw [LedgerFiles.file_commit haccepted]
    simp only [true_and, answer_ne_notRenamed haccepted]
    split
    · rw [Option.bind_some, LedgerFiles.parseEntry_written haccepted hjson]
      simp [Except.toOption]
    · rfl
  · have hname : recordName id ≠ recordName r.lifecycleId := by
      rw [Ne, recordName_inj]
      exact hid
    rw [if_neg (by simp [hid]), LedgerFiles.commit_of_accepted haccepted]
    unfold LedgerFiles.replaceRecord
    dsimp only
    rw [get_replace_of_ne (Ne.symm (temporaryName_ne_recordName _ _)) hname]

theorem records_commit (haccepted : Accepted json r) (id : String) :
    (s.commit json r fault).2.records.get id =
      if id = r.lifecycleId ∧ s.answer json r fault = .synced then some r
      else s.records.get id := by
  have hok : (s.commit json r fault).1 = true ↔ s.answer json r fault = .synced := by
    rw [answer_eq_synced haccepted]
    exact LedgerFiles.commit_succeeds_iff haccepted
  by_cases hsynced : s.answer json r fault = .synced
  · have htrue := hok.mpr hsynced
    rw [LedgerFiles.commit_of_accepted haccepted] at htrue ⊢
    dsimp only at htrue ⊢
    rw [htrue, if_pos rfl]
    by_cases hid : id = r.lifecycleId
    · rw [hid, KeyedTable.get_insert_self, if_pos ⟨rfl, hsynced⟩]
    · rw [KeyedTable.get_insert_of_ne hid, if_neg (by simp [hid])]
  · have herror : (s.commit json r fault).1 = false :=
      Bool.eq_false_iff.mpr fun htrue => hsynced (hok.mp htrue)
    rw [LedgerFiles.records_commit_of_error herror, if_neg (by simp [hsynced])]

/-- A commit that is refused before its first file operation is refused, or is one that does not get
to the rename. -/
theorem commit_answered_of_refused (h : ¬Accepted json r) (event : DurableEvent) :
    l.commit r event (s.answer json r fault) = (false, l) := by
  unfold PersistentRecoveryLedger.commit
  cases hvalid : validateRecord r with
  | false => rfl
  | true =>
    have hlong : maxRecoveryRecordBytes < (json.toVec r).length := by
      by_contra hshort
      exact h ⟨hvalid, Nat.le_of_not_lt hshort⟩
    unfold LedgerFiles.answer
    rw [if_pos hlong]
    rfl

theorem represents_commit (h : Represents json s l) (hjson : json.ReadsBack r)
    (event : DurableEvent) :
    (l.commit r event (s.answer json r fault)).1 = (s.commit json r fault).1 ∧
      Represents json (s.commit json r fault).2 (l.commit r event (s.answer json r fault)).2 := by
  by_cases haccepted : Accepted json r
  · have hok : (s.commit json r fault).1 = decide (s.answer json r fault = .synced) := by
      rw [Bool.eq_iff_iff, LedgerFiles.commit_succeeds_iff haccepted, decide_eq_true_iff,
        answer_eq_synced haccepted]
    have hfiles := parsed_commit (s := s) hjson haccepted fault
    have hrecords := fun id => @records_commit json s r fault haccepted id
    unfold PersistentRecoveryLedger.commit
    rw [haccepted.1, Bool.not_true, if_neg (by simp), hok]
    cases hanswer : s.answer json r fault with
    | notRenamed =>
      simp only [hanswer, ne_eq, not_true_eq_false, and_false, if_false] at hfiles
      simp only [hanswer, and_false, if_false, reduceCtorEq] at hrecords
      refine ⟨rfl, ⟨fun id => ?_, fun id => ?_, h.ordered⟩⟩
      · rw [h.records, hrecords]
      · rw [h.files, hfiles]
    | notSynced =>
      refine ⟨rfl, ⟨fun id => ?_, fun id => ?_, filesOrdered_putFile h.ordered r event⟩⟩
      · rw [get_putFile, h.records, hrecords, hanswer]
        simp
      · rw [file_putFile, hfiles, hanswer]
        by_cases hid : id = r.lifecycleId
        · simp [hid]
        · simp [hid, h.files]
    | synced =>
      refine ⟨rfl, ⟨fun id => ?_, fun id => ?_, filesOrdered_putFile h.ordered r event⟩⟩
      · rw [get_putRecord, get_putFile, h.records, hrecords, hanswer]
        simp
      · rw [file_putRecord, file_putFile, hfiles, hanswer]
        by_cases hid : id = r.lifecycleId
        · simp [hid]
        · simp [hid, h.files]
  · rw [commit_answered_of_refused haccepted, LedgerFiles.commit_of_refused haccepted]
    exact ⟨rfl, h⟩

/-- A removal takes the record's file, whose name no other record's file has. -/
theorem parsed_unlinked (s : LedgerFiles) (records : KeyedTable String PersistentRecoveryRecord)
    (id id' : String) :
    LedgerFiles.parsed json ⟨records, s.files.remove (recordName id)⟩ id' =
      if id' = id then none else s.parsed json id' := by
  unfold LedgerFiles.parsed
  by_cases hid : id' = id
  · rw [if_pos hid, hid, KeyedTable.get_remove_self]
    rfl
  · have hname : recordName id' ≠ recordName id := by
      rw [Ne, recordName_inj]
      exact hid
    rw [if_neg hid, KeyedTable.get_remove_of_ne hname]

theorem file_unlinked (l : PersistentRecoveryLedger) (id id' : String) :
    KeyedList.lookup RecordFile.lifecycleId id' (KeyedList.erase RecordFile.lifecycleId id l.files) =
      if id' = id then none else l.file id' := by
  split
  next h => rw [h, KeyedList.lookup_erase_self]
  next h => exact KeyedList.lookup_erase_of_ne h

theorem represents_removeResolved (h : Represents json s l) (id : String) (answer : RemoveAnswer) :
    (l.removeResolved id answer).1 = (s.removeResolved id answer).1 ∧
      Represents json (s.removeResolved id answer).2 (l.removeResolved id answer).2 := by
  have hordered := KeyedList.ordered_erase h.ordered id
  unfold PersistentRecoveryLedger.removeResolved LedgerFiles.removeResolved
  rw [h.records]
  cases s.records.get id with
  | none => exact ⟨rfl, h⟩
  | some r =>
    dsimp only
    split
    · exact ⟨rfl, h⟩
    have hfiles : ∀ records id', (KeyedList.lookup RecordFile.lifecycleId id'
        (KeyedList.erase RecordFile.lifecycleId id l.files)).map (·.record) =
          LedgerFiles.parsed json ⟨records, s.files.remove (recordName id)⟩ id' := by
      intro records id'
      rw [file_unlinked, parsed_unlinked]
      split
      · rfl
      · exact h.files id'
    cases answer with
    | notRemoved => exact ⟨rfl, h⟩
    | notSynced => exact ⟨rfl, ⟨h.records, hfiles _, hordered⟩⟩
    | synced =>
      refine ⟨rfl, ⟨fun id' => ?_, hfiles _, hordered⟩⟩
      by_cases hid : id' = id
      · subst hid
        rw [KeyedTable.get_remove_self]
        exact KeyedList.lookup_erase_self
      · rw [KeyedTable.get_remove_of_ne hid, ← h.records]
        exact KeyedList.lookup_erase_of_ne hid

end Step

section Restart
variable {json : RecordJson} {directory : List UInt8} {s : LedgerFiles}
  {l : PersistentRecoveryLedger}

theorem toOption_parseEntry (path path' : List UInt8) (e : RecordEntry) :
    (parseEntry path e).toOption = (parseEntry path' e).toOption := by
  unfold parseEntry
  split_ifs <;> try rfl
  split
  · rfl
  · split
    · rfl
    · split_ifs <;> try rfl
      split <;> rfl

theorem record_judgeRecord (path name : List UInt8) (boot : String) (r : PersistentRecoveryRecord) :
    (judgeRecord path name (some boot) (fun _ => false) r).record =
      if name = recordName r.lifecycleId ∧ recordError r = none ∧ validateHistoricalRecord r = [] then
        some r
      else none := by
  unfold judgeRecord recordName
  rw [if_neg (by simp)]
  by_cases hname : name = bytesOf r.lifecycleId ++ bytesOf ".json"
  · rw [if_neg (not_not.mpr hname)]
    cases herror : recordError r with
    | some error => simp [DurableRecoveryRecordReadResult.record]
    | none =>
      by_cases hhistory : validateHistoricalRecord r = []
      · simp only [hhistory, ne_eq, not_true_eq_false, if_false, hname, and_self, if_true]
        split <;> rfl
      · simp [hhistory, DurableRecoveryRecordReadResult.record]
  · rw [if_pos hname, if_neg fun h => hname h.1]
    rfl

theorem accepted_eq (boot id : String) (e : RecordEntry) (hname : e.name = recordName id) :
    accepted directory (some boot) e =
      ((parseEntry [] e).toOption.filter (·.lifecycleId = id)).filter
        fun r => validateRecord r && (validateHistoricalRecord r).isEmpty := by
  have hsuffix : endsWith e.name (bytesOf ".json") = true :=
    List.isSuffixOf_iff_suffix.mpr ⟨bytesOf id, by rw [hname]; rfl⟩
  unfold accepted readAlone
  rw [if_pos hsuffix, Option.bind_some, readEntry,
    toOption_parseEntry [] (join directory e.name) e]
  cases hparse : parseEntry (join directory e.name) e with
  | error result => exact parseEntry_error hparse
  | ok r =>
    dsimp only
    simp only [record_judgeRecord, hname, recordName_inj, recordError_eq_none, Except.toOption,
      Option.filter]
    by_cases hid : id = r.lifecycleId
    · subst hid
      cases hvalid : validateRecord r with
      | false => simp [hvalid]
      | true => by_cases hhistory : validateHistoricalRecord r = [] <;> simp [hvalid, hhistory]
    · simp [hid, Ne.symm hid]

theorem get_openDirectory (l : PersistentRecoveryLedger) (hordered : FilesOrdered l)
    (bootId : Option String) (id : String) :
    (l.openDirectory bootId).get id =
      match bootId.filter bootIdentityValid with
      | none => none
      | some _ => ((l.file id).map (·.record)).filter
          fun r => validateRecord r && (validateHistoricalRecord r).isEmpty := by
  unfold PersistentRecoveryLedger.get openDirectory
  dsimp only
  rw [(applyHistoricalJournalQuarantine_keeps _).1]
  unfold PersistentRecoveryLedger.loadRecords
  cases bootId.filter bootIdentityValid with
  | none => rfl
  | some boot =>
    dsimp only
    rw [KeyedList.lookup_map]
    have hfilter := KeyedList.lookup_filter stringLt_irrefl hordered readsBack id
    unfold RecordFile.lifecycleId at hfilter
    rw [hfilter, Option.filter_map]
    rfl

theorem represents_restart (h : Represents json s l) {currentBoot : Option String}
    (hvalid : ∀ boot, currentBoot = some boot → bootIdentityValid boot = true) :
    Represents json (s.restart json directory currentBoot) (l.openDirectory currentBoot) := by
  have hkeeps := applyHistoricalJournalQuarantine_keeps
  have hfilter : currentBoot.filter bootIdentityValid = currentBoot := by
    cases currentBoot with
    | none => rfl
    | some boot => simp [Option.filter, hvalid boot rfl]
  refine ⟨fun id => ?_, fun id => ?_, ?_⟩
  · rw [get_openDirectory l h.ordered, LedgerFiles.get_restart, hfilter, h.files]
    cases currentBoot with
    | none => cases s.files.get (recordName id) with
      | none => rfl
      | some f => exact (accepted_without_boot _).symm
    | some boot =>
      unfold LedgerFiles.parsed
      cases s.files.get (recordName id) with
      | none => rfl
      | some f => exact (accepted_eq boot id _ rfl).symm
  · rw [show (s.restart json directory currentBoot).parsed json id = s.parsed json id from rfl,
      ← h.files]
    unfold PersistentRecoveryLedger.file openDirectory
    dsimp only
    rw [(hkeeps _).2.1]
  · unfold FilesOrdered openDirectory
    dsimp only
    rw [(hkeeps _).2.1]
    exact h.ordered

end Restart

namespace LedgerFiles

/-- The steps of the ledger without temporary files that a run stands for. -/
def answeredRun (json : RecordJson) (directory : List UInt8) :
    LedgerFiles → List LedgerStep → List AnsweredStep
  | _, [] => []
  | s, x :: xs => s.answered json x :: answeredRun json directory (s.step json directory x) xs

def results (json : RecordJson) (directory : List UInt8) : LedgerFiles → List LedgerStep → List Bool
  | _, [] => []
  | s, x :: xs =>
    (s.perform json directory x).1 :: results json directory (s.step json directory x) xs

end LedgerFiles

namespace AnsweredStep

def run (l : PersistentRecoveryLedger) (steps : List AnsweredStep) : PersistentRecoveryLedger :=
  steps.foldl (fun l x => (x.perform l).2) l

def results : PersistentRecoveryLedger → List AnsweredStep → List Bool
  | _, [] => []
  | l, x :: xs => (x.perform l).1 :: results (x.perform l).2 xs

end AnsweredStep

section Runs
variable {json : RecordJson} {directory : List UInt8} {s : LedgerFiles}
  {l : PersistentRecoveryLedger}

theorem LedgerFiles.perform_step (s : LedgerFiles) (x : LedgerStep) :
    (s.perform json directory x).2 = s.step json directory x := by
  cases x <;> rfl

theorem represents_step (directory : List UInt8) (h : Represents json s l) {x : LedgerStep}
    (hsound : x.Sound json) :
    ((s.answered json x).perform l).1 = (s.perform json directory x).1 ∧
      Represents json (s.step json directory x) ((s.answered json x).perform l).2 := by
  rw [← LedgerFiles.perform_step]
  cases x with
  | commit r fault => exact represents_commit h hsound (.created r)
  | remove id answer => exact represents_removeResolved h id answer
  | restart currentBoot => exact ⟨rfl, represents_restart h hsound⟩

/-- Any run over the file operations, with any of them failing, is a run of the ledger without
temporary files: the same steps are `Ok`, and the same records are in memory and on disk. -/
theorem run_refines (h : Represents json s l) {steps : List LedgerStep}
    (hsound : ∀ x ∈ steps, x.Sound json) :
    AnsweredStep.results l (s.answeredRun json directory steps) =
        s.results json directory steps ∧
      Represents json (s.run json directory steps)
        (AnsweredStep.run l (s.answeredRun json directory steps)) := by
  induction steps generalizing s l with
  | nil => exact ⟨rfl, h⟩
  | cons x steps ih =>
    obtain ⟨hok, hnext⟩ := represents_step directory h (hsound x List.mem_cons_self)
    obtain ⟨hresults, hrun⟩ := ih hnext fun y hy => hsound y (List.mem_cons_of_mem _ hy)
    refine ⟨?_, hrun⟩
    simp only [LedgerFiles.answeredRun, AnsweredStep.results, LedgerFiles.results, hok, hresults]

theorem represents_empty (json : RecordJson) : Represents json {} {} where
  records _ := rfl
  files _ := rfl
  ordered := List.Pairwise.nil

/-- A first commit fails at its write, and a second one finds its temporary file. -/
theorem run_refines_failedWrite :
    AnsweredStep.results {} (({} : LedgerFiles).answeredRun preparedJson []
        [.commit prepared (some (.write 3)), .commit prepared none]) =
        ({} : LedgerFiles).results preparedJson []
          [.commit prepared (some (.write 3)), .commit prepared none] ∧
      Represents preparedJson
        (({} : LedgerFiles).run preparedJson []
          [.commit prepared (some (.write 3)), .commit prepared none])
        (AnsweredStep.run {} (({} : LedgerFiles).answeredRun preparedJson []
          [.commit prepared (some (.write 3)), .commit prepared none])) :=
  run_refines (represents_empty _) (by
    intro x hx
    simp only [List.mem_cons, List.not_mem_nil, or_false] at hx
    rcases hx with rfl | rfl
    · exact preparedJson_readsBack
    · exact preparedJson_readsBack)

end Runs

end Niralis.RecoveryDirectory
