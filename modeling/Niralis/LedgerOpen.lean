import Niralis.RecoveryLedger

namespace Niralis

def readsBack (f : RecordFile) : Bool :=
  validateRecord f.record && (validateHistoricalRecord f.record).isEmpty

def maxRecoveryRecords : Nat := 64

/-- How many of the records are of the current boot and of an earlier one, for one seat. -/
def seatCounts (records : List PersistentRecoveryRecord) (currentBoot seat : String) : Nat × Nat :=
  let ofSeat := records.filter (·.seat = seat)
  (ofSeat.countP (·.createdBootId = currentBoot), ofSeat.countP (·.createdBootId ≠ currentBoot))

def seatConflicts (counts : Nat × Nat) : Bool :=
  (0 < counts.1 && 0 < counts.2) || 1 < counts.2 || 1 < counts.1

/-- Two valid records never share a lifecycle id, since the file name repeats it. -/
def classifyRecoveryRecordSet (records : List PersistentRecoveryRecord) (anyRefused : Bool)
    (currentBoot : String) : RecoveryRecordSetClassification where
  blockedSeats := (records.map (·.seat)).filter fun seat =>
    seatConflicts (seatCounts records currentBoot seat)
  globalQuarantine := anyRefused

def RecoveryRecordSetClassification.seatBlocked (c : RecoveryRecordSetClassification)
    (seat : String) : Bool := c.blockedSeats.contains seat

namespace PersistentRecoveryLedger

/-- Records are kept only if the current boot is known. -/
def loadRecords (l : PersistentRecoveryLedger) (currentBoot : Option String) :
    List PersistentRecoveryRecord :=
  match currentBoot with
  | none => []
  | some _ => (l.files.filter readsBack).map (·.record)

def anyRefused (l : PersistentRecoveryLedger) (currentBoot : Option String) : Bool :=
  l.unreadableFiles || !l.files.all readsBack || currentBoot.isNone ||
    maxRecoveryRecords < (l.loadRecords currentBoot).length

/-- `apply_historical_journal_quarantine` -/
def applyHistoricalJournalQuarantine (l : PersistentRecoveryLedger) : PersistentRecoveryLedger :=
  match l.journal with
  | .absent => l
  | .leftover => l
  | _ =>
    match l.loadJournal with
    | some journal =>
      { l with startupQuarantinedSeats := l.startupQuarantinedSeats ++
          (journal.entries.filter (·.stage ≠ .freePublished)).map (·.seat) }
    | none => { l with startupQuarantined := true }

/-- `open` with the text of the boot id file, on the directory of `l`. -/
def openDirectory (l : PersistentRecoveryLedger) (bootId : Option String) :
    PersistentRecoveryLedger :=
  let currentBoot := bootId.filter bootIdentityValid
  let records := l.loadRecords currentBoot
  let recordSet := match currentBoot with
    | some boot => classifyRecoveryRecordSet records (l.anyRefused currentBoot) boot
    | none => { globalQuarantine := true }
  applyHistoricalJournalQuarantine { l with
    records, recordSet
    startupQuarantined := recordSet.globalQuarantine
    startupQuarantinedSeats := [] }

theorem applyHistoricalJournalQuarantine_keeps (l : PersistentRecoveryLedger) :
    l.applyHistoricalJournalQuarantine.records = l.records ∧
      l.applyHistoricalJournalQuarantine.files = l.files ∧
      l.applyHistoricalJournalQuarantine.recordSet = l.recordSet := by
  unfold applyHistoricalJournalQuarantine
  split
  · exact ⟨rfl, rfl, rfl⟩
  · exact ⟨rfl, rfl, rfl⟩
  · split <;> exact ⟨rfl, rfl, rfl⟩

/-- The ledger a start finds when every file of the directory is readable and there is no
journal. -/
theorem openDirectory_of_allReadBack {l : PersistentRecoveryLedger} {boot : String}
    (h : ∀ f ∈ l.files, readsBack f = true) (hfiles : l.unreadableFiles = false)
    (hlength : l.files.length ≤ maxRecoveryRecords) (hjournal : l.journal = .absent)
    (hboot : bootIdentityValid boot = true) :
    l.openDirectory (some boot) = { l with
      records := l.files.map (·.record), startupQuarantined := false, startupQuarantinedSeats := []
      recordSet := classifyRecoveryRecordSet (l.files.map (·.record)) false boot } := by
  have hall : l.files.all readsBack = true := List.all_eq_true.mpr h
  have hfilter : l.files.filter readsBack = l.files := List.filter_eq_self.mpr h
  simp [openDirectory, loadRecords, anyRefused, applyHistoricalJournalQuarantine, hall, hfilter,
    hfiles, hjournal, hboot, Option.filter, classifyRecoveryRecordSet, hlength]

/-- The ledger a start finds when the directory holds one readable file and no journal. -/
theorem openDirectory_of_readsBack {l : PersistentRecoveryLedger} {f : RecordFile} {boot : String}
    (hf : l.files = [f]) (h : readsBack f = true) (hfiles : l.unreadableFiles = false)
    (hjournal : l.journal = .absent) (hboot : bootIdentityValid boot = true) :
    l.openDirectory (some boot) = { l with
      records := [f.record], startupQuarantined := false, startupQuarantinedSeats := []
      recordSet := classifyRecoveryRecordSet [f.record] false boot } := by
  have hopen := openDirectory_of_allReadBack (l := l) (by rw [hf]; simpa using h) hfiles
    (by rw [hf]; exact Nat.le_add_left 1 63) hjournal hboot
  rw [hopen, hf]
  rfl

end PersistentRecoveryLedger

end Niralis
