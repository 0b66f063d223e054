import Niralis.LedgerOpen
import Niralis.RecordSet

namespace Niralis.RecoveryDirectory

def recoveryFormatVersion : Nat := 2

inductive FileKind
  | file | symlink | other
  deriving DecidableEq, Repr

/-- A JSON value, as far as `load_records` looks into it. -/
structure ParsedValue where
  formatVersion : Option Nat
  record : Option PersistentRecoveryRecord

/-- A directory entry with its metadata and content; `read` bytes come out of it, and `content` is
what `serde_json::from_slice` makes of them. -/
structure RecordEntry where
  name : List UInt8
  kind : FileKind
  uid : Nat
  mode : Nat
  length : Nat
  links : Nat
  read : Nat
  content : Option ParsedValue

def bytesOf (text : String) : List UInt8 := text.toByteArray.data.toList

def endsWith (name suffix : List UInt8) : Bool := suffix.isSuffixOf name

def join (directory name : List UInt8) : List UInt8 := directory ++ bytesOf "/" ++ name

def recordError (r : PersistentRecoveryRecord) : Option String :=
  if !((r.formatVersion = 1 || r.formatVersion = recoveryFormatVersion) && r.lifecycleId ≠ "" &&
      r.sequence ≠ 0 && r.createdBootId ≠ "" && r.state ≠ "" && r.seat ≠ "" && r.workerPid ≠ 0 &&
      r.launcherPid ≠ 0) then some "invalid recovery record"
  else if !bootIdentityValid r.createdBootId || !bootIdentityValid r.lastUpdatedBootId then
    some "invalid boot id"
  else if !validateLifecycleId r.lifecycleId then some "invalid lifecycle id"
  else none

def corruptionOf (r : PersistentRecoveryRecord) (error : String) : CorruptionReason :=
  if "boot".toList <:+: error.toList then .invalidBootId
  else if r.sequence = 0 then .invalidNumericRange
  else .missingRequiredField

/-- What is read from one file before it is compared with the others: an outcome that refuses it, or
its record. -/
def parseEntry (path : List UInt8) (e : RecordEntry) :
    Except DurableRecoveryRecordReadResult PersistentRecoveryRecord :=
  if e.kind ≠ .file then
    .error (.unsafeMetadata path (if e.kind = .symlink then .symlink else .nonRegularFile))
  else if e.uid ≠ 0 then .error (.unsafeMetadata path .wrongOwner)
  else if e.mode &&& 0o077 ≠ 0 then .error (.unsafeMetadata path .unsafeMode)
  else if PersistentRecoveryLedger.maxRecoveryRecordBytes < e.length then
    .error (.corrupted path .oversized)
  else if e.links ≠ 1 then .error (.unsafeMetadata path .linkCount)
  else if PersistentRecoveryLedger.maxRecoveryRecordBytes < e.read then
    .error (.corrupted path .truncated)
  else match e.content with
    | none => .error (.corrupted path .invalidJson)
    | some value =>
      match value.formatVersion with
      | none => .error (.corrupted path .missingRequiredField)
      | some version =>
        if recoveryFormatVersion < version then .error (.unsupportedVersion path version)
        else match value.record with
          | none => .error (.corrupted path .invalidOperationLedger)
          | some r => .ok r

/-- What becomes of a record, where `loaded` says which lifecycles were taken before. -/
def judgeRecord (path name : List UInt8) (currentBoot : Option String) (loaded : String → Bool)
    (r : PersistentRecoveryRecord) : DurableRecoveryRecordReadResult :=
  if loaded r.lifecycleId then .identityMismatch path .duplicateRecordId
  else if name ≠ bytesOf r.lifecycleId ++ bytesOf ".json" then .identityMismatch path .filenameRecordId
  else match recordError r with
    | some error => .corrupted path (corruptionOf r error)
    | none =>
      if validateHistoricalRecord r ≠ [] then
        .historicalInvariantViolation path (validateHistoricalRecord r)
      else match currentBoot with
        | none => .corrupted path .invalidBootId
        | some boot =>
          if r.createdBootId = boot then .validSameBoot path r else .validPreviousBoot path r

def readEntry (directory : List UInt8) (currentBoot : Option String) (loaded : String → Bool)
    (e : RecordEntry) : DurableRecoveryRecordReadResult :=
  match parseEntry (join directory e.name) e with
  | .error result => result
  | .ok r => judgeRecord (join directory e.name) e.name currentBoot loaded r

structure Loading where
  records : KeyedTable String PersistentRecoveryRecord := .empty
  readResults : List DurableRecoveryRecordReadResult := []
  quarantined : Bool := false

def loadEntry (directory : List UInt8) (currentBoot : Option String) (l : Loading) (e : RecordEntry) :
    Loading :=
  if !endsWith e.name (bytesOf ".json") then l
  else
    let result := readEntry directory currentBoot (fun id => (l.records.get id).isSome) e
    match result.record with
    | some r => { l with records := l.records.insert r.lifecycleId r
                         readResults := l.readResults ++ [result] }
    | none => { l with readResults := l.readResults ++ [result], quarantined := true }

def loadRecords (directory : List UInt8) (currentBoot : Option String) (entries : List RecordEntry) :
    Loading :=
  let l := entries.foldl (loadEntry directory currentBoot) {}
  let tooMany : Bool := maxRecoveryRecords < l.records.entries.length
  let readResults := l.readResults ++ if tooMany then [.corrupted directory .oversized] else []
  match currentBoot with
  | none => { l with readResults, quarantined := l.quarantined || tooMany }
  | some boot =>
    let classification := classifyRecoveryRecordSet readResults boot
    { l with
      readResults := readResults ++ classification.conflicts.map (.conflictingRecords directory)
      quarantined := l.quarantined || classification.globalQuarantine || tooMany }

/-- The record set of `PersistentRecoveryLedger::open`. -/
def openRecordSet (directory : List UInt8) (currentBoot : Option String) (entries : List RecordEntry) :
    RecoveryRecordSetClassification :=
  match currentBoot with
  | some boot => classifyRecoveryRecordSet (loadRecords directory currentBoot entries).readResults boot
  | none => { globalQuarantine := true }

theorem recordError_eq_none {r : PersistentRecoveryRecord} :
    recordError r = none ↔ validateRecord r = true := by
  have hvalidate : validateRecord r = (((r.formatVersion = 1 || r.formatVersion = recoveryFormatVersion) &&
      r.lifecycleId ≠ "" && r.sequence ≠ 0 && r.createdBootId ≠ "" && r.state ≠ "" && r.seat ≠ "" &&
      r.workerPid ≠ 0 && r.launcherPid ≠ 0) && bootIdentityValid r.createdBootId &&
      bootIdentityValid r.lastUpdatedBootId && validateLifecycleId r.lifecycleId) := rfl
  rw [hvalidate, recordError]
  generalize ((r.formatVersion = 1 || r.formatVersion = recoveryFormatVersion) && r.lifecycleId ≠ "" &&
    r.sequence ≠ 0 && r.createdBootId ≠ "" && r.state ≠ "" && r.seat ≠ "" && r.workerPid ≠ 0 &&
    r.launcherPid ≠ 0 : Bool) = fields
  cases fields <;> cases bootIdentityValid r.createdBootId <;>
    cases bootIdentityValid r.lastUpdatedBootId <;> cases validateLifecycleId r.lifecycleId <;> simp

section Reading
variable {directory : List UInt8} {currentBoot : Option String}

theorem parseEntry_error {path : List UInt8} {e : RecordEntry} {result : DurableRecoveryRecordReadResult}
    (h : parseEntry path e = .error result) : result.record = none := by
  unfold parseEntry at h
  split_ifs at h <;> try (cases h; rfl)
  split at h
  · cases h
    rfl
  split at h
  · cases h
    rfl
  split at h
  · cases h
    rfl
  split at h <;> cases h
  rfl

theorem judgeRecord_record {path name : List UInt8} {loaded : String → Bool}
    {r r' : PersistentRecoveryRecord}
    (h : (judgeRecord path name currentBoot loaded r).record = some r') :
    r' = r ∧ name = bytesOf r.lifecycleId ++ bytesOf ".json" ∧ loaded r.lifecycleId = false := by
  unfold judgeRecord at h
  split at h
  · cases h
  rename_i hloaded
  split at h
  · cases h
  rename_i hname
  rw [Decidable.not_not] at hname
  rw [Bool.not_eq_true] at hloaded
  split at h
  · cases h
  split at h
  · cases h
  split at h
  · cases h
  split at h <;> cases h <;> exact ⟨rfl, hname, hloaded⟩

/-- A file of another name than those loaded is read the same, save for why it is refused. -/
theorem judgeRecord_reading {path name : List UInt8} {loaded : String → Bool}
    (r : PersistentRecoveryRecord)
    (hname : loaded r.lifecycleId = true → name ≠ bytesOf r.lifecycleId ++ bytesOf ".json") :
    (judgeRecord path name currentBoot loaded r).reading =
      (judgeRecord path name currentBoot (fun _ => false) r).reading := by
  cases hloaded : loaded r.lifecycleId with
  | true =>
    unfold judgeRecord
    rw [if_pos hloaded, if_neg (by simp), if_pos (hname hloaded)]
    rfl
  | false =>
    unfold judgeRecord
    rw [hloaded]

def readAlone (directory : List UInt8) (currentBoot : Option String) (e : RecordEntry) :
    Option DurableRecoveryRecordReadResult :=
  if endsWith e.name (bytesOf ".json") then some (readEntry directory currentBoot (fun _ => false) e)
  else none

def accepted (directory : List UInt8) (currentBoot : Option String) (e : RecordEntry) :
    Option PersistentRecoveryRecord :=
  (readAlone directory currentBoot e).bind (·.record)

theorem reading_record (result : DurableRecoveryRecordReadResult) :
    result.reading.record = result.record := by
  cases result <;> rfl

theorem readEntry_reading {loaded : String → Bool} {e : RecordEntry}
    (hname : ∀ id, loaded id = true → e.name ≠ bytesOf id ++ bytesOf ".json") :
    (readEntry directory currentBoot loaded e).reading =
      (readEntry directory currentBoot (fun _ => false) e).reading := by
  unfold readEntry
  split
  · rfl
  · exact judgeRecord_reading _ (hname _)

theorem accepted_name {e : RecordEntry} {r : PersistentRecoveryRecord}
    (h : accepted directory currentBoot e = some r) :
    e.name = bytesOf r.lifecycleId ++ bytesOf ".json" := by
  obtain ⟨result, hresult, hrecord⟩ := Option.bind_eq_some_iff.mp h
  unfold readAlone at hresult
  split at hresult
  · have := Option.some.inj hresult
    subst this
    unfold readEntry at hrecord
    split at hrecord
    · rename_i hparse
      rw [parseEntry_error hparse] at hrecord
      cases hrecord
    · obtain ⟨rfl, hname, -⟩ := judgeRecord_record hrecord
      exact hname
  · cases hresult

theorem accepted_without_boot (e : RecordEntry) : accepted directory none e = none := by
  unfold accepted readAlone
  split
  · unfold readEntry
    rw [Option.bind_some]
    split
    · rename_i hparse
      exact parseEntry_error hparse
    · unfold judgeRecord
      split_ifs <;> first | rfl | (split <;> rfl)
  · rfl

structure LoadedFrom (directory : List UInt8) (currentBoot : Option String) (entries : List RecordEntry)
    (l : Loading) : Prop where
  readings : l.readResults.map (·.reading) =
    (entries.filterMap (readAlone directory currentBoot)).map (·.reading)
  records : ∀ id r, l.records.get id = some r ↔
    r.lifecycleId = id ∧ ∃ e ∈ entries, accepted directory currentBoot e = some r
  quarantined : l.quarantined = true ↔
    ∃ e ∈ entries, ∃ result, readAlone directory currentBoot e = some result ∧ result.record = none

theorem loadedFrom_loadEntry {entries : List RecordEntry} {l : Loading} {e : RecordEntry}
    (h : LoadedFrom directory currentBoot entries l)
    (hnames : ((entries ++ [e]).map (·.name)).Nodup) :
    LoadedFrom directory currentBoot (entries ++ [e]) (loadEntry directory currentBoot l e) := by
  have hfresh : ∀ e' ∈ entries, e'.name ≠ e.name := by
    intro e' he' heq
    rw [List.map_append, List.nodup_append] at hnames
    exact hnames.2.2 _ (List.mem_map.mpr ⟨e', he', rfl⟩) _ (List.mem_singleton.mpr rfl) heq
  unfold loadEntry
  split
  · rename_i hjson
    have halone : readAlone directory currentBoot e = none := if_neg (by simpa using hjson)
    have haccepted : accepted directory currentBoot e = none := by rw [accepted, halone]; rfl
    refine ⟨?_, fun id r => ?_, ?_⟩
    · rw [h.readings]
      simp [List.filterMap_append, halone]
    · rw [h.records]
      simp [or_and_right, exists_or, haccepted]
    · rw [h.quarantined]
      simp [or_and_right, exists_or, halone]
  · rename_i hjson
    rw [Bool.not_eq_true, Bool.not_eq_false'] at hjson
    have halone : readAlone directory currentBoot e =
        some (readEntry directory currentBoot (fun _ => false) e) := if_pos hjson
    -- a lifecycle that was loaded has another file's name
    have hreading : (readEntry directory currentBoot (fun id => (l.records.get id).isSome) e).reading =
        (readEntry directory currentBoot (fun _ => false) e).reading := by
      refine readEntry_reading fun id hloaded heq => ?_
      obtain ⟨r, hr⟩ := Option.isSome_iff_exists.mp hloaded
      obtain ⟨rfl, e', he', haccepted⟩ := (h.records id r).mp hr
      exact hfresh e' he' ((accepted_name haccepted).trans heq.symm)
    have hrecord : (readEntry directory currentBoot (fun id => (l.records.get id).isSome) e).record =
        accepted directory currentBoot e := by
      rw [accepted, halone, ← reading_record, hreading, reading_record]
      rfl
    dsimp only
    rw [hrecord]
    generalize readEntry directory currentBoot (fun id => (l.records.get id).isSome) e = result at *
    have hreadings : (l.readResults ++ [result]).map (·.reading) =
        ((entries ++ [e]).filterMap (readAlone directory currentBoot)).map (·.reading) := by
      rw [List.map_append, h.readings, List.filterMap_append, List.map_append]
      simp [halone, hreading]
    cases hr : accepted directory currentBoot e with
    | none =>
      have hnone : (readEntry directory currentBoot (fun _ => false) e).record = none := by
        rw [accepted, halone] at hr
        exact hr
      refine ⟨hreadings, fun id r => ?_, ?_⟩
      · rw [h.records]
        simp [or_and_right, exists_or, hr]
      · simp only [true_iff]
        exact ⟨e, by simp, _, halone, hnone⟩
    | some r =>
      have hsome : (readEntry directory currentBoot (fun _ => false) e).record = some r := by
        rw [accepted, halone] at hr
        exact hr
      refine ⟨hreadings, fun id r' => ?_, ?_⟩
      · by_cases hid : id = r.lifecycleId
        · subst hid
          rw [KeyedTable.get_insert_self]
          constructor
          · rintro ⟨⟩
            exact ⟨rfl, e, by simp, hr⟩
          · rintro ⟨hid, e', he', hr'⟩
            rcases List.mem_append.mp he' with he' | he'
            · have hsame : e'.name = e.name := by
                rw [accepted_name hr', accepted_name hr, hid]
              exact absurd hsame (hfresh e' he')
            · rw [List.mem_singleton.mp he', hr] at hr'
              exact hr'
        · rw [KeyedTable.get_insert_of_ne hid, h.records]
          refine and_congr_right fun hid' => ?_
          have hne : ¬some r = some r' := by
            rintro ⟨⟩
            exact hid hid'.symm
          simp [or_and_right, exists_or, hr, hne]
      · rw [h.quarantined]
        simp [or_and_right, exists_or, halone, hsome]

theorem loadedFrom_foldl {entries : List RecordEntry} (hnames : (entries.map (·.name)).Nodup) :
    LoadedFrom directory currentBoot entries (entries.foldl (loadEntry directory currentBoot) {}) := by
  induction entries using List.reverseRecOn with
  | nil => exact ⟨rfl, by simp, by simp⟩
  | append_singleton entries e ih =>
    rw [List.foldl_append]
    have hbefore : (entries.map (·.name)).Nodup :=
      hnames.sublist ((List.sublist_append_left _ _).map _)
    exact loadedFrom_loadEntry (ih hbefore) hnames

end Reading

theorem perm_of_get {κ ν : Type} [DecidableEq κ] {t t' : KeyedTable κ ν}
    (h : ∀ k, t.get k = t'.get k) : t.entries.Perm t'.entries := by
  have hnodup : ∀ t : KeyedTable κ ν, t.entries.Nodup := fun t => t.nodup.of_map _
  refine (List.perm_ext_iff_of_nodup (hnodup t) (hnodup t')).mpr fun entry => ?_
  rw [← KeyedTable.get_eq_some_iff (k := entry.1) (v := entry.2), h, KeyedTable.get_eq_some_iff]

section Order
variable {directory : List UInt8} {currentBoot : Option String} {entries entries' : List RecordEntry}

theorem LoadedFrom.get_eq (hperm : entries.Perm entries') {l l' : Loading}
    (h : LoadedFrom directory currentBoot entries l) (h' : LoadedFrom directory currentBoot entries' l')
    (id : String) : l.records.get id = l'.records.get id := by
  ext r
  rw [h.records, h'.records]
  simp only [hperm.mem_iff]

theorem LoadedFrom.readings_perm (hperm : entries.Perm entries') {l l' : Loading}
    (h : LoadedFrom directory currentBoot entries l) (h' : LoadedFrom directory currentBoot entries' l') :
    (l.readResults.map (·.reading)).Perm (l'.readResults.map (·.reading)) := by
  rw [h.readings, h'.readings]
  exact (hperm.filterMap _).map _

theorem LoadedFrom.lifecycles_nodup {l : Loading} (h : LoadedFrom directory currentBoot entries l)
    (hnames : (entries.map (·.name)).Nodup) :
    (Reading.lifecycleIds (l.readResults.map (·.reading))).Nodup := by
  rw [h.readings]
  unfold Reading.lifecycleIds
  rw [List.filterMap_map, List.filterMap_filterMap]
  refine List.Pairwise.filterMap _ ?_ (List.pairwise_map.mp hnames)
  have hid : ∀ e id, ((readAlone directory currentBoot e).bind fun result =>
      result.reading.record.map (·.lifecycleId)) = some id →
      e.name = bytesOf id ++ bytesOf ".json" := by
    intro e id heq
    obtain ⟨result, hresult, hmap⟩ := Option.bind_eq_some_iff.mp heq
    obtain ⟨r, hr, rfl⟩ := Option.map_eq_some_iff.mp hmap
    have haccepted : accepted directory currentBoot e = some r := by
      rw [accepted, hresult, ← hr, reading_record]
      rfl
    exact accepted_name haccepted
  intro e e' hne id heq id' heq' hsame
  exact hne ((hid e id heq).trans (hsame ▸ (hid e' id' heq').symm))

theorem seatConflict_isSome {count : Nat × Nat} :
    (seatConflict count).isSome = true ↔ 2 ≤ count.1 + count.2 := by
  unfold seatConflict
  split_ifs with hboth hone
  · simp
    omega
  · simp
    omega
  · simp
    omega

theorem seatCount_eq (results : List DurableRecoveryRecordReadResult) (seat : String) :
    (Reading.seatCount (results.map (·.reading)) seat).1 +
        (Reading.seatCount (results.map (·.reading)) seat).2 =
      (results.filterMap (·.record)).countP (·.seat = seat) := by
  induction results with
  | nil => rfl
  | cons result results ih =>
    have hone : ∀ count : Nat × Nat,
        (count.1 + if result.reading.sameBoot.any (·.seat = seat) then 1 else 0) +
          (count.2 + if result.reading.previousBoot.any (·.seat = seat) then 1 else 0) =
        (count.1 + count.2) + if result.record.any (·.seat = seat) then 1 else 0 := by
      intro count
      cases result <;>
      simp [DurableRecoveryRecordReadResult.reading, DurableRecoveryRecordReadResult.record,
        Nat.add_assoc, Nat.add_comm, Nat.add_left_comm]
    have hcons : Reading.seatCount ((result :: results).map (·.reading)) seat =
        ((Reading.seatCount (results.map (·.reading)) seat).1 +
            if result.reading.sameBoot.any (·.seat = seat) then 1 else 0,
          (Reading.seatCount (results.map (·.reading)) seat).2 +
            if result.reading.previousBoot.any (·.seat = seat) then 1 else 0) := by
      simp [Reading.seatCount, List.countP_cons]
    rw [hcons, hone, ih]
    cases hrecord : result.record with
    | none => simp [hrecord]
    | some r => simp [hrecord, List.countP_cons]

theorem LoadedFrom.values_perm {l : Loading} (h : LoadedFrom directory currentBoot entries l)
    (hnames : (entries.map (·.name)).Nodup) :
    (l.records.entries.map Prod.snd).Perm (entries.filterMap (accepted directory currentBoot)) := by
  have hkey : ∀ entry ∈ l.records.entries, entry.2.lifecycleId = entry.1 := by
    intro entry hentry
    exact ((h.records entry.1 entry.2).mp (KeyedTable.get_eq_some_iff.mpr hentry)).1
  have hids : (l.records.entries.map Prod.snd).map (·.lifecycleId) = l.records.entries.map Prod.fst := by
    rw [List.map_map]
    exact List.map_congr_left hkey
  have hnodup : (l.records.entries.map Prod.snd).Nodup := by
    refine List.Nodup.of_map (·.lifecycleId) ?_
    rw [hids]
    exact l.records.nodup
  have hnodup' : (entries.filterMap (accepted directory currentBoot)).Nodup := by
    refine List.Pairwise.filterMap _ ?_ (List.pairwise_map.mp hnames)
    rintro e e' hne r hr r' hr' rfl
    exact hne ((accepted_name hr).trans (accepted_name hr').symm)
  refine (List.perm_ext_iff_of_nodup hnodup hnodup').mpr fun r => ?_
  rw [List.mem_map, List.mem_filterMap]
  constructor
  · rintro ⟨entry, hentry, rfl⟩
    obtain ⟨-, e, he, haccepted⟩ := (h.records entry.1 entry.2).mp (KeyedTable.get_eq_some_iff.mpr hentry)
    exact ⟨e, he, haccepted⟩
  · rintro ⟨e, he, haccepted⟩
    have hget := (h.records r.lifecycleId r).mpr ⟨rfl, e, he, haccepted⟩
    exact ⟨(r.lifecycleId, r), KeyedTable.get_eq_some_iff.mp hget, rfl⟩

def oversized (directory : List UInt8) (l : Loading) : List DurableRecoveryRecordReadResult :=
  if maxRecoveryRecords < l.records.entries.length then [.corrupted directory .oversized] else []

def classifiedResults (directory : List UInt8) (currentBoot : Option String)
    (entries : List RecordEntry) : List DurableRecoveryRecordReadResult :=
  let l := entries.foldl (loadEntry directory currentBoot) {}
  l.readResults ++ oversized directory l

theorem loadRecords_records (entries : List RecordEntry) :
    (loadRecords directory currentBoot entries).records =
      (entries.foldl (loadEntry directory currentBoot) {}).records := by
  cases currentBoot <;> rfl

theorem oversized_record (l : Loading) : ∀ result ∈ oversized directory l, result.record = none := by
  intro result hresult
  unfold oversized at hresult
  split at hresult
  · rw [List.mem_singleton.mp hresult]
    rfl
  · cases hresult

theorem classifiedResults_nodup (hnames : (entries.map (·.name)).Nodup) :
    (Reading.lifecycleIds ((classifiedResults directory currentBoot entries).map (·.reading))).Nodup := by
  have hnone : Reading.lifecycleIds ((oversized directory
      (entries.foldl (loadEntry directory currentBoot) {})).map (·.reading)) = [] := by
    unfold Reading.lifecycleIds
    rw [List.filterMap_map, List.filterMap_eq_nil_iff]
    intro result hresult
    rw [Function.comp_apply, reading_record, oversized_record _ result hresult]
    rfl
  have hloaded : LoadedFrom directory currentBoot entries _ := loadedFrom_foldl hnames
  have hnodup := hloaded.lifecycles_nodup hnames
  unfold classifiedResults
  dsimp only
  unfold Reading.lifecycleIds at hnone hnodup ⊢
  rw [List.map_append, List.filterMap_append, hnone, List.append_nil]
  exact hnodup

theorem classifiedResults_perm (hperm : entries.Perm entries')
    (hnames : (entries.map (·.name)).Nodup) :
    ((classifiedResults directory currentBoot entries).map (·.reading)).Perm
      ((classifiedResults directory currentBoot entries').map (·.reading)) := by
  have hnames' : (entries'.map (·.name)).Nodup := (hperm.map _).nodup_iff.mp hnames
  have h : LoadedFrom directory currentBoot entries _ := loadedFrom_foldl hnames
  have h' : LoadedFrom directory currentBoot entries' _ := loadedFrom_foldl hnames'
  unfold classifiedResults oversized
  dsimp only
  rw [(perm_of_get (h.get_eq hperm h')).length_eq, List.map_append, List.map_append]
  exact (h.readings_perm hperm h').append_right _

/-- `open` classifies the results with the conflicts that came out of them. -/
theorem openRecordSet_some (boot : String) (entries : List RecordEntry) :
    openRecordSet directory (some boot) entries =
      classifyRecoveryRecordSet (classifiedResults directory (some boot) entries) boot := by
  rw [← reclassify (classifiedResults directory (some boot) entries) directory]
  unfold openRecordSet loadRecords classifiedResults oversized
  simp only [decide_eq_true_eq]

theorem loadRecords_quarantined_some (boot : String) (entries : List RecordEntry) :
    (loadRecords directory (some boot) entries).quarantined =
      ((entries.foldl (loadEntry directory (some boot)) {}).quarantined ||
        (openRecordSet directory (some boot) entries).globalQuarantine ||
        decide (maxRecoveryRecords <
          (entries.foldl (loadEntry directory (some boot)) {}).records.entries.length)) := by
  rw [openRecordSet_some]
  unfold loadRecords classifiedResults oversized
  simp only [decide_eq_true_eq]

theorem mem_blockedSeats (hnames : (entries.map (·.name)).Nodup) (seat : String) :
    seat ∈ (openRecordSet directory currentBoot entries).blockedSeats ↔
      2 ≤ (loadRecords directory currentBoot entries).records.entries.countP
        fun entry => entry.2.seat = seat := by
  have hloaded : LoadedFrom directory currentBoot entries _ := loadedFrom_foldl hnames
  have hvalues : (loadRecords directory currentBoot entries).records.entries.countP
      (fun entry => entry.2.seat = seat) =
      (entries.filterMap (accepted directory currentBoot)).countP (·.seat = seat) := by
    rw [loadRecords_records, ← (hloaded.values_perm hnames).countP_eq, List.countP_map]
    rfl
  rw [hvalues]
  cases hboot : currentBoot with
  | none =>
    -- without a boot identity no record is taken, and nothing is classified
    have hnone : entries.filterMap (accepted directory none) = [] := by
      rw [List.filterMap_eq_nil_iff]
      exact fun e _ => accepted_without_boot e
    rw [hnone]
    simp [openRecordSet]
  | some boot =>
    subst hboot
    have hresults : (classifiedResults directory (some boot) entries).filterMap (·.record) =
        entries.filterMap (accepted directory (some boot)) := by
      have hrecords : ∀ results : List DurableRecoveryRecordReadResult,
          results.filterMap (·.record) = (results.map (·.reading)).filterMap Reading.record := by
        intro results
        rw [List.filterMap_map]
        exact List.filterMap_congr fun result _ => (reading_record result).symm
      have hnone : (oversized directory (entries.foldl (loadEntry directory (some boot)) {})).filterMap
          (·.record) = [] := List.filterMap_eq_nil_iff.mpr (oversized_record _)
      unfold classifiedResults
      rw [List.filterMap_append, hnone, List.append_nil, hrecords, hloaded.readings, ← hrecords,
        List.filterMap_filterMap]
      rfl
    rw [openRecordSet_some, (classified _ (classifiedResults_nodup hnames)).blockedSeats,
      seatConflict_isSome, seatCount_eq, hresults]

/-- Whatever the order in which the directory's entries come, the same records are loaded and the
same seats, conflicts and quarantine come out; a second classification finds nothing new. -/
theorem load_order_irrelevant (directory : List UInt8) (currentBoot : Option String)
    {entries entries' : List RecordEntry} (hperm : entries.Perm entries')
    (hnames : (entries.map (·.name)).Nodup) :
    (∀ id, (loadRecords directory currentBoot entries).records.get id =
      (loadRecords directory currentBoot entries').records.get id) ∧
    (loadRecords directory currentBoot entries).quarantined =
      (loadRecords directory currentBoot entries').quarantined ∧
    openRecordSet directory currentBoot entries = openRecordSet directory currentBoot entries' ∧
    (∀ seat, seat ∈ (openRecordSet directory currentBoot entries).blockedSeats ↔
      2 ≤ (loadRecords directory currentBoot entries).records.entries.countP
        fun entry => entry.2.seat = seat) ∧
    ∀ (results : List DurableRecoveryRecordReadResult) (boot : String),
      classifyRecoveryRecordSet (results ++ (classifyRecoveryRecordSet results boot).conflicts.map
        (.conflictingRecords directory)) boot = classifyRecoveryRecordSet results boot := by
  have hnames' : (entries'.map (·.name)).Nodup := (hperm.map _).nodup_iff.mp hnames
  have h : LoadedFrom directory currentBoot entries _ := loadedFrom_foldl hnames
  have h' : LoadedFrom directory currentBoot entries' _ := loadedFrom_foldl hnames'
  have hlength := (perm_of_get (h.get_eq hperm h')).length_eq
  have hflag : (entries.foldl (loadEntry directory currentBoot) {}).quarantined =
      (entries'.foldl (loadEntry directory currentBoot) {}).quarantined := by
    rw [Bool.eq_iff_iff, h.quarantined, h'.quarantined]
    simp only [hperm.mem_iff]
  have hset : openRecordSet directory currentBoot entries =
      openRecordSet directory currentBoot entries' := by
    cases currentBoot with
    | none => rfl
    | some boot =>
      rw [openRecordSet_some, openRecordSet_some]
      exact classify_perm (classifiedResults_perm hperm hnames) (classifiedResults_nodup hnames)
  refine ⟨fun id => ?_, ?_, hset, mem_blockedSeats hnames, fun results boot => ?_⟩
  · rw [loadRecords_records, loadRecords_records]
    exact h.get_eq hperm h' id
  · cases currentBoot with
    | none =>
      unfold loadRecords
      dsimp only
      rw [hflag, hlength]
    | some boot =>
      rw [loadRecords_quarantined_some, loadRecords_quarantined_some, hflag, hset, hlength]
  · exact reclassify results directory

def seatRecord (id : String) : PersistentRecoveryRecord where
  lifecycleId := id
  sequence := 1
  createdBootId := "boot-1"
  lastUpdatedBootId := "boot-1"
  state := "payload_prepared"
  uid := 1000
  seat := "seat0"
  workerPid := 41
  launcherPid := 40

def recordEntry (name : String) (r : PersistentRecoveryRecord) : RecordEntry where
  name := bytesOf name
  kind := .file
  uid := 0
  mode := 0o600
  length := 500
  links := 1
  read := 500
  content := some ⟨some 2, some r⟩

/-- Two records of one seat, and a copy of the first under another name. -/
def copiedEntries : List RecordEntry :=
  [recordEntry "worker-1.json" (seatRecord "worker-1"),
    recordEntry "worker-2.json" (seatRecord "worker-2"), recordEntry "copy.json" (seatRecord "worker-1")]

/-- The copy is refused as a duplicate where it comes last, and for its name where it comes first; the
records, the seat they block and the quarantine are the same. -/
theorem load_order_irrelevant_copied :
    (loadRecords [47] (some "boot-1") copiedEntries).readResults.contains
        (.identityMismatch (join [47] (bytesOf "copy.json")) .duplicateRecordId) = true ∧
      (loadRecords [47] (some "boot-1") copiedEntries.reverse).readResults.contains
        (.identityMismatch (join [47] (bytesOf "copy.json")) .filenameRecordId) = true ∧
      (loadRecords [47] (some "boot-1") copiedEntries).records.get "worker-1" =
        some (seatRecord "worker-1") ∧
      (openRecordSet [47] (some "boot-1") copiedEntries).blockedSeats = {"seat0"} ∧
      (∀ id, (loadRecords [47] (some "boot-1") copiedEntries).records.get id =
        (loadRecords [47] (some "boot-1") copiedEntries.reverse).records.get id) ∧
      (loadRecords [47] (some "boot-1") copiedEntries).quarantined =
        (loadRecords [47] (some "boot-1") copiedEntries.reverse).quarantined ∧
      openRecordSet [47] (some "boot-1") copiedEntries =
        openRecordSet [47] (some "boot-1") copiedEntries.reverse := by
  have hperm : copiedEntries.Perm copiedEntries.reverse := copiedEntries.reverse_perm.symm
  have hnames : (copiedEntries.map (·.name)).Nodup := by decide +kernel
  have h := load_order_irrelevant [47] (some "boot-1") hperm hnames
  refine ⟨?_, ?_, ?_, ?_, h.1, h.2.1, h.2.2.1⟩ <;> decide +kernel

end Order

end Niralis.RecoveryDirectory
