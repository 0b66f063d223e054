import Niralis.FileReplacement
import Niralis.LedgerLoading
import Niralis.LedgerRuns

namespace Niralis.RecoveryDirectory
open FileReplacement

/-- A file of the recovery directory. One that the ledger creates is its own and private. -/
structure DirectoryFile where
  kind : FileKind := .file
  uid : Nat := 0
  mode : Nat := 0o600
  links : Nat := 1
  bytes : List UInt8

/-- `serde_json::to_vec` of a record, and what `load_records` has `serde_json` make of bytes. -/
structure RecordJson where
  toVec : PersistentRecoveryRecord → List UInt8
  fromSlice : List UInt8 → Option ParsedValue

def RecordJson.ReadsBack (json : RecordJson) (r : PersistentRecoveryRecord) : Prop :=
  json.fromSlice (json.toVec r) = some ⟨some r.formatVersion, some r⟩

def DirectoryFile.entry (json : RecordJson) (name : List UInt8) (f : DirectoryFile) :
    RecordEntry where
  name
  kind := f.kind
  uid := f.uid
  mode := f.mode
  length := f.bytes.length
  links := f.links
  read := f.bytes.length
  content := json.fromSlice f.bytes

def recordName (id : String) : List UInt8 := bytesOf id ++ bytesOf ".json"

def temporaryName (id : String) : List UInt8 := bytesOf "." ++ bytesOf id ++ bytesOf ".tmp"

/-- The ledger's records in memory and the files of its directory. -/
structure LedgerFiles where
  records : KeyedTable String PersistentRecoveryRecord := .empty
  files : KeyedTable (List UInt8) DirectoryFile := .empty

/-- The record passes the checks that come before the first file operation. -/
def Accepted (json : RecordJson) (r : PersistentRecoveryRecord) : Prop :=
  validateRecord r = true ∧
    (json.toVec r).length ≤ PersistentRecoveryLedger.maxRecoveryRecordBytes

def readBack (r : PersistentRecoveryRecord) : Option PersistentRecoveryRecord :=
  if validateHistoricalRecord r = [] then some r else none

namespace LedgerFiles

def entries (json : RecordJson) (s : LedgerFiles) : List RecordEntry :=
  s.files.entries.map fun file => file.2.entry json file.1

def replaceRecord (json : RecordJson) (s : LedgerFiles) (r : PersistentRecoveryRecord)
    (fault : Option Fault) : Bool × KeyedTable (List UInt8) DirectoryFile :=
  replace s.files (temporaryName r.lifecycleId) (recordName r.lifecycleId)
    (fun bytes => { bytes := bytes }) (json.toVec r) fault

/-- `commit`, with the file operation that fails and whether it is `Ok`. The check of `record_path`
is part of `validate_record`. -/
def commit (json : RecordJson) (s : LedgerFiles) (r : PersistentRecoveryRecord)
    (fault : Option Fault) : Bool × LedgerFiles :=
  if !validateRecord r then (false, s)
  else if PersistentRecoveryLedger.maxRecoveryRecordBytes < (json.toVec r).length then (false, s)
  else
    let (ok, files) := s.replaceRecord json r fault
    if ok then (true, { records := s.records.insert r.lifecycleId r, files })
    else (false, { s with files })

def create (json : RecordJson) (s : LedgerFiles) (r : PersistentRecoveryRecord)
    (fault : Option Fault) : Bool × LedgerFiles :=
  if (s.records.get r.lifecycleId).isSome then (false, s) else s.commit json r fault

/-- `transition`, `quarantine`, `update_operation` and their siblings: the record in memory is
edited, makes its transition and is committed. -/
def write (json : RecordJson) (s : LedgerFiles) (id : String) (w : RecordWrite)
    (bootId : Option String) (fault : Option Fault) : Bool × LedgerFiles :=
  match s.records.get id with
  | none => (false, s)
  | some r =>
    match w.apply r bootId with
    | none => (false, s)
    | some next => s.commit json next fault

def removeResolved (s : LedgerFiles) (id : String) (answer : RemoveAnswer) : Bool × LedgerFiles :=
  match s.records.get id with
  | none => (false, s)
  | some r =>
    if r.state ≠ "record_resolved" ∧ r.state ≠ "cleared_by_boot_boundary" then (false, s)
    else
      match answer with
      | .notRemoved => (false, s)
      | .notSynced => (false, { s with files := s.files.remove (recordName id) })
      | .synced => (true, ⟨s.records.remove id, s.files.remove (recordName id)⟩)

def restart (json : RecordJson) (directory : List UInt8) (currentBoot : Option String)
    (s : LedgerFiles) : LedgerFiles :=
  { s with records := (loadRecords directory currentBoot (s.entries json)).records }

def reload (json : RecordJson) (directory : List UInt8) (boot : String) (s : LedgerFiles)
    (id : String) : Option PersistentRecoveryRecord :=
  (s.restart json directory (some boot)).records.get id

/-- A commit of the record was given up and left its temporary file. -/
def abandoned (s : LedgerFiles) (id : String) : Bool := (s.files.get (temporaryName id)).isSome

end LedgerFiles

inductive LedgerStep
  | commit (record : PersistentRecoveryRecord) (fault : Option Fault)
  | remove (id : String) (answer : RemoveAnswer)
  | restart (currentBoot : Option String)

/-- A commit that fails between the creation of its temporary file and the rename. -/
def LedgerStep.Abandons (json : RecordJson) (id : String) : LedgerStep → Prop
  | commit r fault => Accepted json r ∧ r.lifecycleId = id ∧ fault.any Fault.abandons = true
  | remove _ _ => False
  | restart _ => False

def LedgerStep.Works : LedgerStep → Prop
  | commit _ fault => fault = none
  | remove _ answer => answer = .synced
  | restart _ => True

namespace LedgerFiles

def step (json : RecordJson) (directory : List UInt8) (s : LedgerFiles) : LedgerStep → LedgerFiles
  | .commit r fault => (s.commit json r fault).2
  | .remove id answer => (s.removeResolved id answer).2
  | .restart currentBoot => s.restart json directory currentBoot

def run (json : RecordJson) (directory : List UInt8) (s : LedgerFiles) (steps : List LedgerStep) :
    LedgerFiles :=
  steps.foldl (step json directory) s

end LedgerFiles

section Names

theorem bytesOf_injective {text text' : String} (h : bytesOf text = bytesOf text') :
    text = text' := by
  unfold bytesOf at h
  have hdata := Array.toList_inj.mp h
  exact String.toByteArray_inj.mp (ByteArray.ext hdata)

theorem recordName_inj {id id' : String} : recordName id = recordName id' ↔ id = id' := by
  unfold recordName
  rw [List.append_left_inj]
  exact ⟨bytesOf_injective, congrArg bytesOf⟩

theorem temporaryName_inj {id id' : String} :
    temporaryName id = temporaryName id' ↔ id = id' := by
  unfold temporaryName
  rw [List.append_left_inj, List.append_right_inj]
  exact ⟨bytesOf_injective, congrArg bytesOf⟩

theorem temporaryName_ne_recordName (id id' : String) : temporaryName id ≠ recordName id' := by
  intro h
  have hlast := congrArg List.getLast? h
  unfold temporaryName recordName at hlast
  have htemporary : bytesOf ".tmp" ≠ [] := by decide
  have hrecord : bytesOf ".json" ≠ [] := by decide
  rw [List.getLast?_append_of_ne_nil _ htemporary,
    List.getLast?_append_of_ne_nil _ hrecord] at hlast
  exact absurd hlast (by decide)

end Names

namespace LedgerFiles
variable {json : RecordJson} {directory : List UInt8} {boot : String} {s : LedgerFiles}
  {r : PersistentRecoveryRecord} {fault : Option Fault} {id : String}

theorem commit_of_refused (h : ¬Accepted json r) : s.commit json r fault = (false, s) := by
  unfold commit
  cases hvalid : validateRecord r with
  | false => rfl
  | true =>
    have hlong : PersistentRecoveryLedger.maxRecoveryRecordBytes < (json.toVec r).length := by
      by_contra hshort
      exact h ⟨hvalid, Nat.le_of_not_lt hshort⟩
    rw [Bool.not_true, if_neg (by simp), if_pos hlong]

/-- An accepted record is put in its file, and in memory if that worked. -/
theorem commit_of_accepted (h : Accepted json r) :
    s.commit json r fault = ((s.replaceRecord json r fault).1,
      { records := if (s.replaceRecord json r fault).1 then s.records.insert r.lifecycleId r
          else s.records
        files := (s.replaceRecord json r fault).2 }) := by
  unfold commit
  rw [h.1, Bool.not_true, if_neg (by simp), if_neg (Nat.not_lt.mpr h.2)]
  cases hok : (s.replaceRecord json r fault).1 <;> simp [hok]

theorem commit_succeeds_iff (h : Accepted json r) :
    (s.commit json r fault).1 = true ↔ s.abandoned r.lifecycleId = false ∧ fault = none := by
  rw [commit_of_accepted h]
  exact replace_succeeds_iff

/-- A commit that returns an error leaves the records in memory as they are. -/
theorem records_commit_of_error (h : (s.commit json r fault).1 = false) :
    (s.commit json r fault).2.records = s.records := by
  by_cases haccepted : Accepted json r
  · rw [commit_of_accepted haccepted] at h ⊢
    simp only at h ⊢
    rw [h]
    rfl
  · rw [commit_of_refused haccepted]

/-- A temporary file stays, and a commit leaves one if it fails with its own on disk. -/
theorem abandoned_commit (h : Accepted json r) :
    (s.commit json r fault).2.abandoned id =
      (s.abandoned id || (decide (r.lifecycleId = id) && fault.any Fault.abandons)) := by
  have hne := temporaryName_ne_recordName r.lifecycleId r.lifecycleId
  rw [commit_of_accepted h]
  unfold abandoned replaceRecord
  dsimp only
  by_cases hid : r.lifecycleId = id
  · subst hid
    rw [isSome_get_replace_temporary hne, decide_eq_true rfl, Bool.true_and]
  · have htemporary : temporaryName id ≠ temporaryName r.lifecycleId := by
      rw [Ne, temporaryName_inj]
      exact Ne.symm hid
    rw [get_replace_of_ne htemporary (temporaryName_ne_recordName _ _), decide_eq_false hid,
      Bool.false_and, Bool.or_false]

/-- The record's file after a commit is the old one, or holds the record that was committed. -/
theorem file_commit (h : Accepted json r) :
    (s.commit json r fault).2.files.get (recordName r.lifecycleId) =
      if s.abandoned r.lifecycleId = false ∧ (fault = none ∨ fault = some .syncDirectory) then
        some { bytes := json.toVec r }
      else s.files.get (recordName r.lifecycleId) := by
  rw [commit_of_accepted h]
  exact get_replace_path (temporaryName_ne_recordName _ _)

/-- A restart takes from the directory what the record's own file gives. -/
theorem get_restart (currentBoot : Option String) :
    (s.restart json directory currentBoot).records.get id =
      (s.files.get (recordName id)).bind fun f =>
        accepted directory currentBoot (f.entry json (recordName id)) := by
  have hnames : ((s.entries json).map (·.name)).Nodup := by
    have heq : (s.entries json).map (·.name) = s.files.entries.map Prod.fst := by
      unfold entries
      rw [List.map_map]
      rfl
    rw [heq]
    exact s.files.nodup
  have hloaded : LoadedFrom directory currentBoot (s.entries json) _ := loadedFrom_foldl hnames
  unfold restart
  dsimp only
  rw [loadRecords_records]
  ext r
  rw [hloaded.records, Option.bind_eq_some_iff]
  constructor
  · rintro ⟨rfl, e, he, haccepted⟩
    obtain ⟨⟨name, f⟩, hf, rfl⟩ := List.mem_map.mp he
    have hname : name = recordName r.lifecycleId := accepted_name haccepted
    subst hname
    exact ⟨f, KeyedTable.get_eq_some_iff.mpr hf, haccepted⟩
  · rintro ⟨f, hf, haccepted⟩
    refine ⟨(recordName_inj.mp (accepted_name haccepted)).symm, _, ?_, haccepted⟩
    exact List.mem_map.mpr ⟨_, KeyedTable.get_eq_some_iff.mp hf, rfl⟩

theorem reload_eq : s.reload json directory boot id =
    (s.files.get (recordName id)).bind fun f =>
      accepted directory (some boot) (f.entry json (recordName id)) := get_restart (some boot)

theorem parseEntry_written (h : Accepted json r) (hjson : json.ReadsBack r)
    (path name : List UInt8) :
    parseEntry path (DirectoryFile.entry json name { bytes := json.toVec r }) = .ok r := by
  have hversion : ¬recoveryFormatVersion < r.formatVersion := by
    have hvalid := h.1
    simp only [validateRecord, Bool.and_eq_true, Bool.or_eq_true, decide_eq_true_eq] at hvalid
    unfold recoveryFormatVersion
    omega
  have hlength : ¬PersistentRecoveryLedger.maxRecoveryRecordBytes < (json.toVec r).length :=
    Nat.not_lt.mpr h.2
  unfold parseEntry DirectoryFile.entry
  dsimp only
  -- a private file of its own, short enough
  rw [if_neg (by simp), if_neg (by simp), if_neg (by decide), if_neg hlength, if_neg (by simp),
    if_neg hlength, hjson]
  dsimp only
  rw [if_neg hversion]

theorem accepted_written (h : Accepted json r) (hjson : json.ReadsBack r) :
    accepted directory (some boot) (DirectoryFile.entry json (recordName r.lifecycleId)
      { bytes := json.toVec r }) = readBack r := by
  have hsuffix : endsWith (recordName r.lifecycleId) (bytesOf ".json") = true :=
    List.isSuffixOf_iff_suffix.mpr ⟨bytesOf r.lifecycleId, rfl⟩
  have herror : recordError r = none := recordError_eq_none.mpr h.1
  have hname : (DirectoryFile.entry json (recordName r.lifecycleId)
    { bytes := json.toVec r }).name = recordName r.lifecycleId := rfl
  unfold accepted readAlone readBack
  rw [hname, if_pos hsuffix, Option.bind_some, readEntry, hname, parseEntry_written h hjson]
  unfold judgeRecord
  dsimp only
  rw [if_neg (by simp), if_neg (fun hne => hne rfl), herror]
  dsimp only
  by_cases hhistory : validateHistoricalRecord r = []
  · rw [if_neg (not_not.mpr hhistory), if_pos hhistory]
    split <;> rfl
  · rw [if_pos hhistory, if_neg hhistory]
    rfl

theorem abandoned_step (x : LedgerStep) :
    (s.step json directory x).abandoned id = true ↔
      s.abandoned id = true ∨ x.Abandons json id := by
  cases x with
  | commit r fault =>
    by_cases haccepted : Accepted json r
    · simp [step, abandoned_commit haccepted, LedgerStep.Abandons, haccepted]
    · simp [step, commit_of_refused haccepted, LedgerStep.Abandons, haccepted]
  | remove id' answer =>
    -- the file that goes is a record's
    have hremove : (s.files.remove (recordName id')).get (temporaryName id) =
        s.files.get (temporaryName id) :=
      KeyedTable.get_remove_of_ne (temporaryName_ne_recordName id id')
    simp only [LedgerStep.Abandons, or_false, step, removeResolved]
    split
    · rfl
    · split
      · rfl
      · cases answer <;> simp [abandoned, hremove]
  | restart currentBoot => simp [step, LedgerStep.Abandons, restart, abandoned]

/-- The temporary files in the directory are those that were there, and one for every lifecycle a
commit of which was given up. -/
theorem abandoned_run {steps : List LedgerStep} :
    (s.run json directory steps).abandoned id = true ↔
      s.abandoned id = true ∨ ∃ x ∈ steps, x.Abandons json id := by
  induction steps generalizing s with
  | nil => simp [run]
  | cons x steps ih =>
    have hcons : s.run json directory (x :: steps) =
        (s.step json directory x).run json directory steps := rfl
    rw [hcons, ih, abandoned_step, or_assoc]
    simp

/-- No commit of an abandoned lifecycle ever succeeds again, through any restart. -/
theorem abandoned_blocks (h : s.abandoned r.lifecycleId = true) (steps : List LedgerStep) :
    ((s.run json directory steps).commit json r fault).1 = false := by
  have hlater : (s.run json directory steps).abandoned r.lifecycleId = true :=
    abandoned_run.mpr (Or.inl h)
  by_cases haccepted : Accepted json r
  · rw [Bool.eq_false_iff, Ne, commit_succeeds_iff haccepted, hlater]
    simp
  · rw [commit_of_refused haccepted]

/-- A lifecycle is refused for good once a commit of it failed between the creation of its temporary
file and the rename, and by nothing else. -/
theorem refused_for_good_iff {steps : List LedgerStep} (haccepted : Accepted json r) :
    (∀ (later : List LedgerStep) (fault : Option Fault),
      (((s.run json directory steps).run json directory later).commit json r fault).1 = false) ↔
      s.abandoned r.lifecycleId = true ∨ ∃ x ∈ steps, x.Abandons json r.lifecycleId := by
  rw [← @abandoned_run json directory s r.lifecycleId steps]
  constructor
  · intro hrefused
    by_contra hclear
    rw [Bool.not_eq_true] at hclear
    -- with every file operation working, the next commit would be taken
    have hok : ((s.run json directory steps).commit json r none).1 = true :=
      (commit_succeeds_iff haccepted).mpr ⟨hclear, rfl⟩
    have hnext := hrefused [] none
    rw [run, List.foldl_nil, hok] at hnext
    cases hnext
  · intro habandoned later fault
    exact abandoned_blocks habandoned later

end LedgerFiles

/-- After a commit that returned an error a reload gives what is in memory, and a commit of the same
lifecycle works again as soon as the file operations do. -/
structure CommitAtomic (json : RecordJson) (directory : List UInt8) (boot : String)
    (s : LedgerFiles) (r : PersistentRecoveryRecord) (fault : Option Fault) : Prop where
  agrees : (s.commit json r fault).2.records.get r.lifecycleId =
    (s.commit json r fault).2.reload json directory boot r.lifecycleId
  retried : ∀ steps : List LedgerStep, (∀ x ∈ steps, x.Works) →
    ∀ r' : PersistentRecoveryRecord, r'.lifecycleId = r.lifecycleId → Accepted json r' →
      (((s.commit json r fault).2.run json directory steps).commit json r' none).1 = true

section Failure
variable {json : RecordJson} {directory : List UInt8} {boot : String} {s : LedgerFiles}
  {r : PersistentRecoveryRecord} {fault : Option Fault}

theorem LedgerStep.Works.not_abandons {x : LedgerStep} (h : x.Works) (id : String) :
    ¬x.Abandons json id := by
  cases x with
  | commit r fault =>
    cases h
    simp [LedgerStep.Abandons]
  | remove id' answer => simp [LedgerStep.Abandons]
  | restart currentBoot => simp [LedgerStep.Abandons]

/-- The commits of a lifecycle work again where no temporary file is in their way. -/
theorem retried_iff (haccepted : Accepted json r) :
    (∀ steps : List LedgerStep, (∀ x ∈ steps, x.Works) →
      ∀ r' : PersistentRecoveryRecord, r'.lifecycleId = r.lifecycleId → Accepted json r' →
        ((s.run json directory steps).commit json r' none).1 = true) ↔
      s.abandoned r.lifecycleId = false := by
  constructor
  · intro h
    have hnow := h [] (by simp) r rfl haccepted
    exact ((LedgerFiles.commit_succeeds_iff haccepted).mp hnow).1
  · intro h steps hworks r' hid haccepted'
    rw [LedgerFiles.commit_succeeds_iff haccepted', hid]
    refine ⟨?_, rfl⟩
    rw [Bool.eq_false_iff, Ne, LedgerFiles.abandoned_run, h]
    rintro (hfalse | ⟨x, hx, habandons⟩)
    · cases hfalse
    · exact (hworks x hx).not_abandons _ habandons

/-- A reload after a commit reads the old file, or the record of the commit. -/
theorem reload_commit (hjson : json.ReadsBack r) (haccepted : Accepted json r) :
    (s.commit json r fault).2.reload json directory boot r.lifecycleId =
      if s.abandoned r.lifecycleId = false ∧ (fault = none ∨ fault = some .syncDirectory) then
        readBack r
      else s.reload json directory boot r.lifecycleId := by
  rw [LedgerFiles.reload_eq, LedgerFiles.reload_eq, LedgerFiles.file_commit haccepted]
  split
  · rw [Option.bind_some, LedgerFiles.accepted_written haccepted hjson]
  · rfl

/-- What is left of the two parts: memory as it was against the files after the commit, and no
temporary file. -/
theorem commitAtomic_iff_parts (hjson : json.ReadsBack r) (haccepted : Accepted json r)
    (herror : (s.commit json r fault).1 = false) :
    CommitAtomic json directory boot s r fault ↔
      s.records.get r.lifecycleId =
          (if s.abandoned r.lifecycleId = false ∧ (fault = none ∨ fault = some .syncDirectory) then
            readBack r
          else s.reload json directory boot r.lifecycleId) ∧
        (s.abandoned r.lifecycleId || fault.any Fault.abandons) = false := by
  have hretried : (s.commit json r fault).2.abandoned r.lifecycleId =
      (s.abandoned r.lifecycleId || fault.any Fault.abandons) := by
    rw [LedgerFiles.abandoned_commit haccepted, decide_eq_true rfl, Bool.true_and]
  rw [← hretried, ← reload_commit hjson haccepted, ← @retried_iff json directory _ r haccepted,
    ← LedgerFiles.records_commit_of_error herror]
  exact ⟨fun h => ⟨h.agrees, h.retried⟩, fun h => ⟨h.1, h.2⟩⟩

/-- With no temporary file in its way, a commit failed at one of its operations. -/
theorem fault_of_error (haccepted : Accepted json r) (herror : (s.commit json r fault).1 = false)
    (hleft : s.abandoned r.lifecycleId = false) : ∃ failed, fault = some failed := by
  cases fault with
  | none =>
    have hok := (LedgerFiles.commit_succeeds_iff haccepted).mpr ⟨hleft, rfl⟩
    rw [herror] at hok
    cases hok
  | some failed => exact ⟨failed, rfl⟩

theorem commitAtomic_iff (hjson : json.ReadsBack r) (haccepted : Accepted json r)
    (herror : (s.commit json r fault).1 = false) :
    CommitAtomic json directory boot s r fault ↔
      s.abandoned r.lifecycleId = false ∧
        (fault = some .create ∧
            s.records.get r.lifecycleId = s.reload json directory boot r.lifecycleId ∨
          fault = some .syncDirectory ∧ s.records.get r.lifecycleId = readBack r) := by
  rw [commitAtomic_iff_parts hjson haccepted herror]
  cases hleft : s.abandoned r.lifecycleId with
  | true => simp
  | false =>
    obtain ⟨failed, rfl⟩ := fault_of_error haccepted herror hleft
    cases failed <;> simp [Fault.abandons]

/-- An operation on a record in memory raises its sequence, so that a new file that is not synced is
never what memory holds. -/
theorem write_atomic_iff {before : PersistentRecoveryRecord} {w : RecordWrite}
    {bootId : Option String} (hget : s.records.get r.lifecycleId = some before)
    (happly : w.apply before bootId = some r) (hjson : json.ReadsBack r)
    (haccepted : Accepted json r)
    (herror : (s.write json r.lifecycleId w bootId fault).1 = false) :
    CommitAtomic json directory boot s r fault ↔
      s.abandoned r.lifecycleId = false ∧ fault = some .create ∧
        some before = s.reload json directory boot r.lifecycleId := by
  have hcommit : s.write json r.lifecycleId w bootId fault = s.commit json r fault := by
    unfold LedgerFiles.write
    rw [hget]
    dsimp only
    rw [happly]
  have hne : some before ≠ readBack r := by
    intro heq
    unfold readBack at heq
    split at heq
    · have hsequence := (followsBy_of_apply happly).sequence
      rw [Option.some.inj heq] at hsequence
      omega
    · cases heq
  rw [hcommit] at herror
  rw [commitAtomic_iff_parts hjson haccepted herror, hget]
  cases hleft : s.abandoned r.lifecycleId with
  | true => simp
  | false =>
    obtain ⟨failed, rfl⟩ := fault_of_error haccepted herror hleft
    cases failed <;> simp [Fault.abandons, hne]

/-- A record that is new in memory agrees with an unsynced file only where a reload refuses it. -/
theorem create_atomic_iff (hget : s.records.get r.lifecycleId = none) (hjson : json.ReadsBack r)
    (haccepted : Accepted json r) (herror : (s.create json r fault).1 = false) :
    CommitAtomic json directory boot s r fault ↔
      s.abandoned r.lifecycleId = false ∧
        (fault = some .create ∧ none = s.reload json directory boot r.lifecycleId ∨
          fault = some .syncDirectory ∧ validateHistoricalRecord r ≠ []) := by
  have hcommit : s.create json r fault = s.commit json r fault := by
    unfold LedgerFiles.create
    rw [hget]
    rfl
  have hread : none = readBack r ↔ validateHistoricalRecord r ≠ [] := by
    unfold readBack
    split <;> simp_all
  rw [hcommit] at herror
  rw [commitAtomic_iff_parts hjson haccepted herror, hget]
  cases hleft : s.abandoned r.lifecycleId with
  | true => simp
  | false =>
    obtain ⟨failed, rfl⟩ := fault_of_error haccepted herror hleft
    cases failed <;> simp [Fault.abandons, hread]

end Failure

section FailedCommit

def prepared : PersistentRecoveryRecord where
  lifecycleId := "a1"
  sequence := 1
  createdBootId := "b1"
  lastUpdatedBootId := "b1"
  state := "payload_prepared"
  uid := 1000
  seat := "seat0"
  workerPid := 10
  launcherPid := 9

def preparedText : String :=
  "\x7b\"format_version\":2,\"lifecycle_id\":\"a1\",\"sequence\":1,\"created_at_unix\":0," ++
  "\"created_boot_id\":\"b1\",\"last_updated_boot_id\":\"b1\",\"state\":\"payload_prepared\"," ++
  "\"uid\":1000,\"gid\":1000,\"username\":\"u\",\"session_name\":\"niri\",\"seat\":\"seat0\"," ++
  "\"worker_pid\":10,\"launcher_pid\":9,\"launcher_starttime\":null," ++
  "\"launcher_executable\":null,\"worker_starttime\":null,\"worker_executable\":null," ++
  "\"worker_cgroup\":null," ++
  "\"leader_pid\":null,\"leader_starttime\":null,\"leader_executable\":null," ++
  "\"payload_unit\":null,\"transient\":null,\"invocation_id\":null,\"object_path\":null," ++
  "\"control_group\":null,\"slice\":null,\"logind_session_id\":null,\"logind_object_path\":null," ++
  "\"target_vt\":null,\"previous_vt\":null,\"pam_status\":\"opened_by_worker\"," ++
  "\"operation_ledger\":\x7b\"payload_kill\":\"NotStarted\",\"supervisor_unref\":\"NotStarted\"," ++
  "\"logind_termination\":\"NotStarted\",\"selinux_restore\":\"NotStarted\"," ++
  "\"vt_activation\":\"NotStarted\",\"vt_disallocate\":\"NotStarted\"," ++
  "\"runtime_release\":\"NotStarted\",\"record_resolution\":\"NotStarted\"\x7d," ++
  "\"quarantine_reason\":null,\"vt_busy_provenance\":null,\"vt_recovery_attempts\":[]\x7d"

/-- `serde_json`, as far as one record and its text go. -/
def RecordJson.of (r : PersistentRecoveryRecord) (text : String) : RecordJson where
  toVec r' := if r' = r then bytesOf text else []
  fromSlice bytes := if bytes = bytesOf text then some ⟨some r.formatVersion, some r⟩ else none

def preparedJson : RecordJson := .of prepared preparedText

theorem RecordJson.toVec_of (r : PersistentRecoveryRecord) (text : String) :
    (RecordJson.of r text).toVec r = bytesOf text := if_pos rfl

theorem RecordJson.of_readsBack (r : PersistentRecoveryRecord) (text : String) :
    (RecordJson.of r text).ReadsBack r := by
  unfold RecordJson.ReadsBack
  rw [RecordJson.toVec_of]
  exact if_pos rfl

theorem preparedJson_readsBack : preparedJson.ReadsBack prepared := RecordJson.of_readsBack _ _

theorem length_bytesOf (text : String) : (bytesOf text).length = text.utf8ByteSize := rfl

theorem prepared_accepted : Accepted preparedJson prepared := by
  refine ⟨by decide, ?_⟩
  unfold preparedJson
  rw [RecordJson.toVec_of, length_bytesOf]
  decide +kernel

theorem readBack_prepared : readBack prepared = some prepared := if_pos (by decide +kernel)

/-- The first commit of a record: a failed write leaves a file that no later commit gets past, and a
failed sync of the directory leaves a record on disk that memory does not have. -/
theorem failed_commits_not_atomic :
    (({} : LedgerFiles).commit preparedJson prepared (some (.write 3))).1 = false ∧
      ¬CommitAtomic preparedJson [] "b1" {} prepared (some (.write 3)) ∧
      (({} : LedgerFiles).commit preparedJson prepared (some .syncDirectory)).1 = false ∧
      ¬CommitAtomic preparedJson [] "b1" {} prepared (some .syncDirectory) := by
  have hfails : ∀ fault : Fault,
      (({} : LedgerFiles).commit preparedJson prepared (some fault)).1 = false := by
    intro fault
    rw [Bool.eq_false_iff, Ne, LedgerFiles.commit_succeeds_iff prepared_accepted]
    simp
  refine ⟨hfails _, fun h => ?_, hfails _, fun h => ?_⟩
  · -- the next commit finds the temporary file
    have hleft : (({} : LedgerFiles).commit preparedJson prepared
        (some (.write 3))).2.abandoned prepared.lifecycleId = true := by
      rw [LedgerFiles.abandoned_commit prepared_accepted]
      simp [Fault.abandons]
    have hnext := h.retried [] (by simp) prepared rfl prepared_accepted
    rw [LedgerFiles.abandoned_blocks hleft] at hnext
    cases hnext
  · have hagrees := h.agrees
    rw [reload_commit preparedJson_readsBack prepared_accepted,
      LedgerFiles.records_commit_of_error (hfails _), if_pos ⟨rfl, Or.inr rfl⟩,
      readBack_prepared] at hagrees
    cases hagrees

/-- The temporary file cannot be created: nothing changed, and the next commit works. -/
theorem create_failure_atomic :
    CommitAtomic preparedJson [] "b1" {} prepared (some .create) :=
  (commitAtomic_iff preparedJson_readsBack prepared_accepted
    (by rw [Bool.eq_false_iff, Ne, LedgerFiles.commit_succeeds_iff prepared_accepted]; simp)).mpr
    ⟨rfl, Or.inl ⟨rfl, by rw [LedgerFiles.reload_eq]; rfl⟩⟩

/-- One failed write, and no later commit of the session is taken, whatever else happens. -/
theorem prepared_refused_for_good :
    (∀ (later : List LedgerStep) (fault : Option Fault),
      ((((({} : LedgerFiles).run preparedJson [] [.commit prepared (some (.write 3))])).run
        preparedJson [] later).commit preparedJson prepared fault).1 = false) ∧
      ∃ x ∈ [LedgerStep.commit prepared (some (.write 3))], x.Abandons preparedJson "a1" := by
  have habandons : ∃ x ∈ [LedgerStep.commit prepared (some (.write 3))],
      x.Abandons preparedJson "a1" := by
    refine ⟨_, List.mem_singleton_self _, prepared_accepted, rfl, ?_⟩
    simp [Fault.abandons]
  exact ⟨(LedgerFiles.refused_for_good_iff prepared_accepted).mpr (Or.inr habandons), habandons⟩

end FailedCommit

end Niralis.RecoveryDirectory
