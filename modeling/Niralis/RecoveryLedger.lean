import Mathlib.Algebra.Order.BigOperators.Group.List
import Mathlib.Algebra.Order.Group.Nat
import Niralis.HistoricalValidation
import Niralis.JsonText
import Niralis.KeyedList

namespace Niralis

inductive StartupRecoveryFailure
  | unsupportedRehydration
  | persistentRecordConflict
  | boundaryIdentityChanged
  | workerIdentityIndeterminate
  | leaderIdentityIndeterminate
  | systemdOwnerChanged
  | logindOwnerChanged
  | logindIdentityChanged
  | previousBootConflict
  | unknownPayloadScope
  | vtDisallocateBusy
  deriving DecidableEq, Repr

def StartupRecoveryFailure.persistentReason : StartupRecoveryFailure → String
  | unsupportedRehydration => "unsupported_rehydration"
  | persistentRecordConflict => "persistent_record_conflict"
  | boundaryIdentityChanged => "boundary_identity_changed"
  | workerIdentityIndeterminate => "worker_identity_indeterminate"
  | leaderIdentityIndeterminate => "leader_identity_indeterminate"
  | systemdOwnerChanged => "systemd_owner_changed"
  | logindOwnerChanged => "logind_owner_changed"
  | logindIdentityChanged => "logind_identity_changed"
  | previousBootConflict => "previous_boot_conflict"
  | unknownPayloadScope => "unknown_payload_scope"
  | vtDisallocateBusy => "vt_disallocate_busy"

inductive TerminalVtCleanupResult
  | released
  | vtDisallocateBusy
  deriving DecidableEq, Repr

def ebusy : Int := 16

/-- What one ledger operation does to the record it is about. -/
inductive RecordWrite
  | operation (op : DurableOperation) (s : DurableOperationState)
  | transition (state : String)
  | transitionWithOperation (state : String) (op : DurableOperation) (s : DurableOperationState)
  | quarantine (reason : StartupRecoveryFailure)
  | vtBusyProvenance (provenance : VtBusyProvenance)
  | appendVtRecoveryAttempt (attempt : VtRecoveryAttempt)
  | finishVtRecoveryAttempt (attemptId : Nat) (state : VtRecoveryAttemptState)
    (provenanceAfter : Option VtBusyProvenance)
  | workerVtCleanupIntent (attemptId : Nat)
  | workerVtCleanupResult (attemptId : Nat) (result : TerminalVtCleanupResult)
  deriving DecidableEq, Repr

def maxVtRecoveryAttempts : Nat := 8

/-- The new attempt is the last one; the oldest goes when there are too many. -/
def appendAttempt (attempt : VtRecoveryAttempt) (l : List VtRecoveryAttempt) :
    List VtRecoveryAttempt :=
  let next := l ++ [attempt]
  if next.length > maxVtRecoveryAttempts then next.drop 1 else next

/-- The newest attempt with this id takes its result, if it still waits for one. -/
def finishAttempt (attemptId : Nat) (state : VtRecoveryAttemptState)
    (provenanceAfter : Option VtBusyProvenance) :
    List VtRecoveryAttempt → Option (List VtRecoveryAttempt)
  | [] => none
  | a :: rest =>
    match finishAttempt attemptId state provenanceAfter rest with
    | some rest' => some (a :: rest')
    | none =>
      if rest.any (·.attemptId = attemptId) then none
      else if a.attemptId = attemptId ∧ a.state = .intentPersisted then
        some ({ a with state, provenanceAfter } :: rest)
      else none

namespace RecordWrite

/-- The fields the operation sets before the record makes its transition. -/
def edit (r : PersistentRecoveryRecord) : RecordWrite → Option PersistentRecoveryRecord
  | operation op s => some { r with operationLedger := r.operationLedger.set op s }
  | transition _ => some r
  | transitionWithOperation _ op s =>
    if op = .recordResolution ∨ op = .runtimeRelease then
      some { r with operationLedger := r.operationLedger.set op s }
    else none
  | quarantine reason => some { r with quarantineReason := some reason.persistentReason }
  | vtBusyProvenance provenance => some { r with vtBusyProvenance := some provenance }
  | appendVtRecoveryAttempt attempt =>
    some { r with vtRecoveryAttempts := appendAttempt attempt r.vtRecoveryAttempts }
  | finishVtRecoveryAttempt attemptId state provenanceAfter =>
    (finishAttempt attemptId state provenanceAfter r.vtRecoveryAttempts).map
      fun vtRecoveryAttempts => { r with vtRecoveryAttempts }
  | workerVtCleanupIntent attemptId =>
    some { r with
      pamStatus := "closed_by_worker_confirmed"
      operationLedger := r.operationLedger.set .vtDisallocate (.intentPersisted attemptId) }
  | workerVtCleanupResult attemptId .released =>
    some { r with
      operationLedger := r.operationLedger.set .vtDisallocate (.confirmed attemptId) }
  | workerVtCleanupResult attemptId .vtDisallocateBusy =>
    some { r with
      operationLedger := r.operationLedger.set .vtDisallocate (.failed attemptId ebusy) }

def target (r : PersistentRecoveryRecord) : RecordWrite → String
  | transition state => state
  | transitionWithOperation state _ _ => state
  | quarantine _ => "quarantined"
  | workerVtCleanupIntent _ => "started"
  | workerVtCleanupResult _ .released => "started"
  | workerVtCleanupResult _ .vtDisallocateBusy => "vt_disallocate_failed_busy"
  | _ => r.state

def apply (w : RecordWrite) (r : PersistentRecoveryRecord) (bootId : Option String) :
    Option PersistentRecoveryRecord :=
  (w.edit r).bind fun next => next.transition (w.target r) bootId

end RecordWrite

/-- The calls to the world that a recovery makes once its intent is durable. -/
inductive ExternalEffect
  | payloadKill
  | supervisorUnref
  | logindTermination
  | vtDisallocate
  deriving DecidableEq, Repr

def ExternalEffect.operation : ExternalEffect → DurableOperation
  | payloadKill => .payloadKill
  | supervisorUnref => .supervisorUnref
  | logindTermination => .logindTermination
  | vtDisallocate => .vtDisallocate

inductive DurableEvent
  | committed (write : RecordWrite) (before after : PersistentRecoveryRecord)
  | created (record : PersistentRecoveryRecord)
  | removed (lifecycleId : String)
  | effect (effect : ExternalEffect) (lifecycleId : String)
  deriving DecidableEq, Repr

structure RecordFile where
  inode : Nat
  record : PersistentRecoveryRecord
  deriving DecidableEq, Repr

def RecordFile.lifecycleId (f : RecordFile) : String := f.record.lifecycleId

structure RecoveryRecordSetClassification where
  blockedSeats : List String := []
  globalQuarantine : Bool := false
  deriving DecidableEq, Repr

inductive HistoricalFinalizationStage
  | notReplayed
  | resolutionIntent
  | recordResolved
  | runtimeReleaseIntent
  | runtimeReleaseConfirmed
  | removalIntent
  | removed
  | freePublished
  deriving DecidableEq, Repr

structure HistoricalNotReplayed where
  operation : DurableOperation
  attemptId : Option Nat
  originalState : DurableOperationState
  deriving DecidableEq, Repr

/-- The identity of the record's file is its inode: the directory lies on one device and every
record file has one link. -/
structure HistoricalFinalizationEntry where
  recordId : String
  lifecycleId : String
  seat : String
  bootId : String
  sequence : Nat
  stage : HistoricalFinalizationStage
  notReplayed : List HistoricalNotReplayed := []
  inode : Option Nat
  deriving DecidableEq, Repr

structure HistoricalFinalizationJournal where
  entries : List HistoricalFinalizationEntry := []
  deriving DecidableEq, Repr

section JournalText
open JsonText

def DurableOperation.name : DurableOperation → String
  | payloadKill => "payload_kill"
  | supervisorUnref => "supervisor_unref"
  | logindTermination => "logind_termination"
  | selinuxRestore => "selinux_restore"
  | vtActivation => "vt_activation"
  | vtDisallocate => "vt_disallocate"
  | runtimeRelease => "runtime_release"
  | recordResolution => "record_resolution"

def HistoricalFinalizationStage.name : HistoricalFinalizationStage → String
  | notReplayed => "NotReplayed"
  | resolutionIntent => "ResolutionIntent"
  | recordResolved => "RecordResolved"
  | runtimeReleaseIntent => "RuntimeReleaseIntent"
  | runtimeReleaseConfirmed => "RuntimeReleaseConfirmed"
  | removalIntent => "RemovalIntent"
  | removed => "Removed"
  | freePublished => "FreePublished"

/-- `format!("{state:?}")` -/
def DurableOperationState.debug : DurableOperationState → String
  | notStarted => "NotStarted"
  | intentPersisted a => "IntentPersisted \x7b attempt_id: " ++ toString a ++ " \x7d"
  | confirmed a => "Confirmed \x7b attempt_id: " ++ toString a ++ " \x7d"
  | failed a c =>
    "Failed \x7b attempt_id: " ++ toString a ++ ", failure_class: " ++ toString c ++ " \x7d"
  | indeterminate a stage =>
    "Indeterminate \x7b attempt_id: " ++ toString a ++ ", stage: " ++ toString stage ++ " \x7d"

def HistoricalNotReplayed.jsonBytes (n : HistoricalNotReplayed) : Nat :=
  object [("operation", text n.operation.name), ("attempt_id", optional n.attemptId),
    ("original_state", text n.originalState.debug)]

def HistoricalFinalizationEntry.jsonBytes (device : Nat) (e : HistoricalFinalizationEntry) : Nat :=
  object [("record_id", text e.recordId), ("lifecycle_id", text e.lifecycleId),
    ("seat", text e.seat), ("boot_id", text e.bootId), ("sequence", number e.sequence),
    ("stage", text e.stage.name), ("not_replayed", array (e.notReplayed.map (·.jsonBytes))),
    ("device", optional (e.inode.map fun _ => device)), ("inode", optional e.inode),
    ("links", optional (e.inode.map fun _ => 1))]

/-- The length of the journal's text, on the device its directory is on. -/
def HistoricalFinalizationJournal.jsonBytes (device : Nat) (journal : HistoricalFinalizationJournal) :
    Nat :=
  object [("version", number 1), ("entries", array (journal.entries.map (·.jsonBytes device)))]

end JournalText

/-- The journal's file, as `HistoricalFinalizationJournal::load` finds it. `leftover` is an
abandoned temporary file, or another candidate, without a journal. -/
inductive JournalFile
  | absent
  | leftover
  | unusable
  | stored (journal : HistoricalFinalizationJournal)
  deriving DecidableEq, Repr

/-- How the file system numbers a new file. The number is not in use, but may have been before. -/
structure InodeAllocator where
  next : Nat → List Nat → Nat
  unused : ∀ n used, next n used ∉ used

def InodeAllocator.rising : InodeAllocator where
  next n used := n + used.sum + 1
  unused n used h := by
    have := List.le_sum_of_mem h
    omega

/-- `files` are the record files that parse, under the names their records ask for;
`unreadableFiles` says that the directory has another file which `load_records` refuses. `log` is
not part of the source's ledger: it records what became durable. -/
structure PersistentRecoveryLedger where
  records : List PersistentRecoveryRecord := []
  files : List RecordFile := []
  unreadableFiles : Bool := false
  inodes : InodeAllocator := .rising
  filesCreated : Nat := 0
  device : Nat := 0
  journal : JournalFile := .absent
  recordSet : RecoveryRecordSetClassification := {}
  startupQuarantined : Bool := false
  startupQuarantinedSeats : List String := []
  log : List DurableEvent := []

/-- How far the file operations of a commit get: all of them, none past the rename, or all but
the final directory sync. -/
inductive CommitAnswer
  | synced
  | notRenamed
  | notSynced
  deriving DecidableEq, Repr

structure WriteAnswer where
  bootId : Option String
  commit : CommitAnswer := .synced
  deriving DecidableEq, Repr

inductive RemoveAnswer
  | synced
  | notRemoved
  | notSynced
  deriving DecidableEq, Repr

namespace PersistentRecoveryLedger
open KeyedList

def stringLt (a b : String) : Bool := decide (a < b)

def get (l : PersistentRecoveryLedger) (id : String) : Option PersistentRecoveryRecord :=
  lookup (·.lifecycleId) id l.records

def file (l : PersistentRecoveryLedger) (id : String) : Option RecordFile :=
  lookup RecordFile.lifecycleId id l.files

def putRecord (l : PersistentRecoveryLedger) (r : PersistentRecoveryRecord) :
    PersistentRecoveryLedger :=
  { l with records := put (·.lifecycleId) stringLt r l.records }

def freshInode (l : PersistentRecoveryLedger) : Nat :=
  l.inodes.next l.filesCreated (l.files.map (·.inode))

/-- The rename: the record's file is a new one, written while the old one still existed. -/
def putFile (l : PersistentRecoveryLedger) (r : PersistentRecoveryRecord) (event : DurableEvent) :
    PersistentRecoveryLedger :=
  { l with
    files := put RecordFile.lifecycleId stringLt ⟨l.freshInode, r⟩ l.files
    filesCreated := l.filesCreated + 1
    log := l.log ++ [event] }

def commit (l : PersistentRecoveryLedger) (r : PersistentRecoveryRecord) (event : DurableEvent)
    (answer : CommitAnswer) : Bool × PersistentRecoveryLedger :=
  if !validateRecord r then (false, l)
  else
    match answer with
    | .notRenamed => (false, l)
    | .notSynced => (false, l.putFile r event)
    | .synced => (true, (l.putFile r event).putRecord r)

def create (l : PersistentRecoveryLedger) (r : PersistentRecoveryRecord) (answer : CommitAnswer) :
    Bool × PersistentRecoveryLedger :=
  if (l.get r.lifecycleId).isSome then (false, l)
  else l.commit r (.created r) answer

/-- Every update of an existing record: look it up, edit it, make the transition, commit. -/
def write (l : PersistentRecoveryLedger) (id : String) (w : RecordWrite) (answer : WriteAnswer) :
    Bool × PersistentRecoveryLedger :=
  match l.get id with
  | none => (false, l)
  | some r =>
    match w.apply r answer.bootId with
    | none => (false, l)
    | some next => l.commit next (.committed w r next) answer.commit

def transition (l : PersistentRecoveryLedger) (id state : String) (answer : WriteAnswer) :
    Bool × PersistentRecoveryLedger := l.write id (.transition state) answer

def operationIntent (l : PersistentRecoveryLedger) (id : String) (op : DurableOperation)
    (attemptId : Nat) (answer : WriteAnswer) : Bool × PersistentRecoveryLedger :=
  l.write id (.operation op (.intentPersisted attemptId)) answer

def operationConfirmed (l : PersistentRecoveryLedger) (id : String) (op : DurableOperation)
    (attemptId : Nat) (answer : WriteAnswer) : Bool × PersistentRecoveryLedger :=
  l.write id (.operation op (.confirmed attemptId)) answer

def markRecordResolved (l : PersistentRecoveryLedger) (id : String) (answer : WriteAnswer) :
    Bool × PersistentRecoveryLedger := l.transition id "record_resolved" answer

def removeResolved (l : PersistentRecoveryLedger) (id : String) (answer : RemoveAnswer) :
    Bool × PersistentRecoveryLedger :=
  match l.get id with
  | none => (false, l)
  | some r =>
    if r.state ≠ "record_resolved" ∧ r.state ≠ "cleared_by_boot_boundary" then (false, l)
    else
      let unlinked := { l with
        files := erase RecordFile.lifecycleId id l.files
        log := l.log ++ [.removed id] }
      match answer with
      | .notRemoved => (false, l)
      | .notSynced => (false, unlinked)
      | .synced => (true, { unlinked with records := erase (·.lifecycleId) id l.records })

def resolveAndRemove (l : PersistentRecoveryLedger) (id : String) (resolve : WriteAnswer)
    (remove : RemoveAnswer) : Bool × PersistentRecoveryLedger :=
  match l.transition id "record_resolved" resolve with
  | (false, l) => (false, l)
  | (true, l) => l.removeResolved id remove

def markStartupQuarantine (l : PersistentRecoveryLedger) : PersistentRecoveryLedger :=
  { l with startupQuarantined := true }

def markSeatStartupQuarantine (l : PersistentRecoveryLedger) (seat : String) :
    PersistentRecoveryLedger :=
  { l with startupQuarantinedSeats := l.startupQuarantinedSeats.insert seat }

def seatStartupQuarantined (l : PersistentRecoveryLedger) (seat : String) : Bool :=
  l.startupQuarantinedSeats.contains seat

/-- `record_file_identity`: the inode of the record's file. -/
def recordFileIdentity (l : PersistentRecoveryLedger) (id : String) : Option Nat :=
  if validateLifecycleId id then (l.file id).map (·.inode) else none

def recordFileExists (l : PersistentRecoveryLedger) (id : String) : Option Bool :=
  if validateLifecycleId id then some (l.file id).isSome else none

def clearSeatStartupQuarantine (l : PersistentRecoveryLedger) (seat : String) :
    PersistentRecoveryLedger :=
  { l with startupQuarantinedSeats := l.startupQuarantinedSeats.filter (· ≠ seat) }

def removeRecordExact (l : PersistentRecoveryLedger) (id : String) (expected : Nat)
    (answer : RemoveAnswer) : Bool × PersistentRecoveryLedger :=
  if l.recordFileIdentity id ≠ some expected then (false, l)
  else
    match l.get id with
    | none => (false, l)
    | some r => if r.state ≠ "record_resolved" then (false, l) else l.removeResolved id answer

def maxJournalEntries : Nat := 64

def maxRecoveryRecordBytes : Nat := 128 * 1024

/-- `HistoricalFinalizationJournal::load` -/
def loadJournal (l : PersistentRecoveryLedger) : Option HistoricalFinalizationJournal :=
  match l.journal with
  | .absent => some {}
  | .leftover => none
  | .unusable => none
  | .stored journal => if journal.entries.length > maxJournalEntries then none else some journal

/-- `HistoricalFinalizationJournal::persist` -/
def persistJournal (l : PersistentRecoveryLedger) (journal : HistoricalFinalizationJournal)
    (answer : CommitAnswer) : Bool × PersistentRecoveryLedger :=
  if journal.entries.length > maxJournalEntries then (false, l)
  else if journal.jsonBytes l.device > maxRecoveryRecordBytes then (false, l)
  else
    match answer with
    | .notRenamed => (false, l)
    | .notSynced => (false, { l with journal := .stored journal })
    | .synced => (true, { l with journal := .stored journal })

def emit (l : PersistentRecoveryLedger) (effect : ExternalEffect) (id : String) :
    PersistentRecoveryLedger := { l with log := l.log ++ [.effect effect id] }

section Lookups
variable {l : PersistentRecoveryLedger} {r : PersistentRecoveryRecord} {event : DurableEvent}
  {id : String}

theorem lifecycleId_of_get (h : l.get id = some r) : r.lifecycleId = id := key_of_lookup h

theorem get_putRecord (l : PersistentRecoveryLedger) (r : PersistentRecoveryRecord) (id : String) :
    (l.putRecord r).get id = if id = r.lifecycleId then some r else l.get id := by
  split
  next h =>
    subst h
    exact lookup_put_self
  next h => exact lookup_put_of_ne h

theorem file_putFile (l : PersistentRecoveryLedger) (r : PersistentRecoveryRecord)
    (event : DurableEvent) (id : String) :
    (l.putFile r event).file id =
      if id = r.lifecycleId then some ⟨l.freshInode, r⟩ else l.file id := by
  unfold file putFile
  split
  next h =>
    subst h
    exact lookup_put_self (a := RecordFile.mk l.freshInode r)
  next h => exact lookup_put_of_ne (a := RecordFile.mk l.freshInode r) h

@[simp] theorem get_putFile : (l.putFile r event).get id = l.get id := rfl

@[simp] theorem file_putRecord : (l.putRecord r).file id = l.file id := rfl

end Lookups

theorem persistJournal_cases (l : PersistentRecoveryLedger)
    (journal : HistoricalFinalizationJournal) (answer : CommitAnswer) :
    l.persistJournal journal answer = (false, l) ∨
      journal.entries.length ≤ maxJournalEntries ∧
        journal.jsonBytes l.device ≤ maxRecoveryRecordBytes ∧ answer ≠ .notRenamed ∧
        l.persistJournal journal answer =
          (decide (answer = .synced), { l with journal := .stored journal }) := by
  unfold persistJournal
  split
  · exact Or.inl rfl
  next hentries =>
    split
    · exact Or.inl rfl
    next hbytes =>
      cases answer with
      | notRenamed => exact Or.inl rfl
      | notSynced =>
        exact Or.inr ⟨Nat.le_of_not_lt hentries, Nat.le_of_not_lt hbytes, nofun, rfl⟩
      | synced => exact Or.inr ⟨Nat.le_of_not_lt hentries, Nat.le_of_not_lt hbytes, nofun, rfl⟩

theorem removeRecordExact_cases (l : PersistentRecoveryLedger) (id : String) (expected : Nat)
    (answer : RemoveAnswer) : l.removeRecordExact id expected answer = (false, l) ∨
      l.removeRecordExact id expected answer = l.removeResolved id answer := by
  unfold removeRecordExact
  split
  · exact Or.inl rfl
  · split
    · exact Or.inl rfl
    · split
      · exact Or.inl rfl
      · exact Or.inr rfl

/-- A write changes nothing, or puts its record on disk and, once synced, into memory. -/
theorem write_cases (l : PersistentRecoveryLedger) (id : String) (w : RecordWrite)
    (answer : WriteAnswer) :
    l.write id w answer = (false, l) ∨
      ∃ r next, l.get id = some r ∧ w.apply r answer.bootId = some next ∧
        validateRecord next = true ∧ answer.commit ≠ .notRenamed ∧
        l.write id w answer = (if answer.commit = .synced then
          (true, (l.putFile next (.committed w r next)).putRecord next)
        else (false, l.putFile next (.committed w r next))) := by
  unfold write
  cases hget : l.get id with
  | none => exact Or.inl rfl
  | some r =>
    cases happly : w.apply r answer.bootId with
    | none => exact Or.inl (by simp [happly])
    | some next =>
      simp only [happly, commit]
      cases hvalid : validateRecord next with
      | false => exact Or.inl rfl
      | true =>
        cases hcommit : answer.commit with
        | notRenamed => exact Or.inl rfl
        | notSynced => exact Or.inr ⟨r, next, rfl, happly, hvalid, nofun, rfl⟩
        | synced => exact Or.inr ⟨r, next, rfl, happly, hvalid, nofun, rfl⟩

end PersistentRecoveryLedger

end Niralis
