import Niralis.Program
import Niralis.RecoveryLedger

namespace Niralis

structure StartupReconciliationSummary where
  free : Nat := 0
  quarantined : Nat := 0
  deriving DecidableEq, Repr

inductive QuarantineCause
  | record (lifecycleId : String)
  | unknownScope
  deriving DecidableEq, Repr

/-- The source marks a seat's name only; `causes` remembers what each mark was made for, and is
read by no function. -/
structure StartupWorld where
  ledger : PersistentRecoveryLedger := {}
  summary : StartupReconciliationSummary := {}
  causes : List (String × QuarantineCause) := []

/-- The points at which startup touches the disk, the host, the ledger's marks or its summary. A
mark and its clearing name the cause they are for. -/
inductive StartupRequest
  | inspect
  | write (lifecycleId : String) (write : RecordWrite)
  | effect (effect : ExternalEffect) (lifecycleId : String)
  | removeResolved (lifecycleId : String)
  | removeRecordExact (lifecycleId : String) (expected : Nat)
  | persistJournal (journal : HistoricalFinalizationJournal)
  | markStartupQuarantine
  | markSeatStartupQuarantine (seat : String) (cause : QuarantineCause)
  | clearSeatStartupQuarantine (seat : String) (cause : QuarantineCause)
  | countFree (lifecycleId : String)
  | countQuarantined (lifecycleId : String)
  | addToSummary (free quarantined : Nat)

def StartupRequest.isEffect : StartupRequest → Bool
  | effect _ _ => true
  | _ => false

/-- What the file system answers, whichever of the three operations is asked for. -/
structure StartupAnswer where
  write : WriteAnswer
  remove : RemoveAnswer := .synced
  journal : CommitAnswer := .synced

namespace StartupWorld

def onLedger (w : StartupWorld) (result : Bool × PersistentRecoveryLedger) : Bool × StartupWorld :=
  (result.1, { w with ledger := result.2 })

def perform (w : StartupWorld) (request : StartupRequest) (answer : StartupAnswer) :
    Bool × StartupWorld :=
  match request with
  | .inspect => (true, w)
  | .write id write => w.onLedger (w.ledger.write id write answer.write)
  | .effect effect id => w.onLedger (true, w.ledger.emit effect id)
  | .removeResolved id => w.onLedger (w.ledger.removeResolved id answer.remove)
  | .removeRecordExact id expected =>
    w.onLedger (w.ledger.removeRecordExact id expected answer.remove)
  | .persistJournal journal => w.onLedger (w.ledger.persistJournal journal answer.journal)
  | .markStartupQuarantine => w.onLedger (true, w.ledger.markStartupQuarantine)
  | .markSeatStartupQuarantine seat cause =>
    (true, { w with
      ledger := w.ledger.markSeatStartupQuarantine seat
      causes := (seat, cause) :: w.causes })
  | .clearSeatStartupQuarantine seat cause =>
    (true, { w with
      ledger := w.ledger.clearSeatStartupQuarantine seat
      causes := w.causes.filter (· ≠ (seat, cause)) })
  | .countFree _ => (true, { w with summary.free := w.summary.free + 1 })
  | .countQuarantined _ => (true, { w with summary.quarantined := w.summary.quarantined + 1 })
  | .addToSummary free quarantined => (true, { w with
      summary := ⟨w.summary.free + free, w.summary.quarantined + quarantined⟩ })

end StartupWorld

abbrev StartupM (α : Type) := Program StartupWorld StartupRequest α

/-- `Result<α, StartupRecoveryFailure>` -/
abbrev StartupResult (α : Type) := Attempt StartupWorld StartupRequest StartupRecoveryFailure α

abbrev IoResult (α : Type) := Attempt StartupWorld StartupRequest Unit α

section Requests
variable {ε : Type}

def persist (id : String) (write : RecordWrite) (e : ε) :
    Attempt StartupWorld StartupRequest ε Unit :=
  .perform (.write id write) e

def issue (effect : ExternalEffect) (id : String) :
    Attempt StartupWorld StartupRequest ε Unit :=
  .ask (.effect effect id) fun _ _ => .done (.ok ())

def readLedger : Attempt StartupWorld StartupRequest ε PersistentRecoveryLedger :=
  .ask .inspect fun _ w => .done (.ok w.ledger)

/-- `self.records.get(id).cloned().ok_or(e)?` -/
def readRecord (id : String) (e : ε) : Attempt StartupWorld StartupRequest ε
    PersistentRecoveryRecord := do
  let ledger ← readLedger
  .okOr (ledger.get id) e

end Requests

/-- The boot authority of a snapshot is built from its own record, so that its lifecycle id and
sequence always agree with the record's. -/
structure RecoveryStateSnapshot where
  record : PersistentRecoveryRecord
  currentBoot : String

namespace RecoveryStateSnapshot

def fromRecord (currentBoot : String) (record : PersistentRecoveryRecord) :
    Option RecoveryStateSnapshot :=
  if bootIdentityValid record.createdBootId then some ⟨record, currentBoot⟩ else none

def validates (s : RecoveryStateSnapshot) : Bool := s.currentBoot = s.record.createdBootId

end RecoveryStateSnapshot

def refreshRecoverySnapshot (snapshot : RecoveryStateSnapshot) :
    IoResult RecoveryStateSnapshot := do
  .require snapshot.validates ()
  let record ← readRecord snapshot.record.lifecycleId ()
  Attempt.okOr (RecoveryStateSnapshot.fromRecord snapshot.currentBoot record) ()

/-- The permit that comes with the new snapshot repeats its binding and the attempt id. -/
def persistRecoveryIntentFromSnapshot (snapshot : RecoveryStateSnapshot)
    (operation : DurableOperation) (attemptId : Nat) : IoResult RecoveryStateSnapshot := do
  .require snapshot.validates ()
  persist snapshot.record.lifecycleId (.operation operation (.intentPersisted attemptId)) ()
  let record ← readRecord snapshot.record.lifecycleId ()
  Attempt.okOr (RecoveryStateSnapshot.fromRecord snapshot.currentBoot record) ()

def confirmRecordResolution (id : String) (attempt : Nat) : DurableOperationState → IoResult Unit
  | .notStarted => do
    persist id (.operation .recordResolution (.intentPersisted attempt)) ()
    persist id (.operation .recordResolution (.confirmed attempt)) ()
  | .confirmed _ => pure ()
  | .intentPersisted _ => .fail ()
  | .indeterminate _ _ => .fail ()
  | .failed _ _ => .fail ()

/-- The proof of finished recovery and the receipt of the resolution are bound to the snapshot
they are made from. -/
def markRecordResolvedTyped (snapshot : RecoveryStateSnapshot) :
    IoResult RecoveryStateSnapshot := do
  .require snapshot.validates ()
  let current ← readRecord snapshot.record.lifecycleId ()
  .require (current.sequence = snapshot.record.sequence ∧
    current.createdBootId = snapshot.record.createdBootId ∧
    current.seat = snapshot.record.seat) ()
  confirmRecordResolution snapshot.record.lifecycleId
    (saturatingAdd snapshot.record.sequence 1) current.operationLedger.recordResolution
  persist snapshot.record.lifecycleId (.transition "record_resolved") ()
  let record ← readRecord snapshot.record.lifecycleId ()
  Attempt.okOr (RecoveryStateSnapshot.fromRecord snapshot.currentBoot record) ()

/-- The capabilities name the inode the record's file has at this point. -/
def removeRecordTyped (snapshot : RecoveryStateSnapshot) (fileIdentity : Nat) :
    IoResult PersistentRecoveryRecord := do
  let ledger ← readLedger
  let record ← .okOr (ledger.get snapshot.record.lifecycleId) ()
  .require (snapshot.validates && record.state = "record_resolved" &&
    record.operationLedger.runtimeRelease.isConfirmed &&
    ledger.recordFileIdentity record.lifecycleId = some fileIdentity) ()
  .perform (.removeResolved record.lifecycleId) ()
  pure snapshot.record

def issueSeatFreePermit (receipt : PersistentRecoveryRecord) : IoResult Unit := do
  let ledger ← readLedger
  .require (!(ledger.records.any (·.seat = receipt.seat) ||
    ledger.seatStartupQuarantined receipt.seat || ledger.startupQuarantined)) ()

/-- The three capabilities repeat the snapshot's binding; the last also names the file. -/
def finalizationCapabilities (snapshot : RecoveryStateSnapshot) : IoResult Nat := do
  let ledger ← readLedger
  .okOr (ledger.recordFileIdentity snapshot.record.lifecycleId) ()

def resolveForFinalization (snapshot : RecoveryStateSnapshot) : IoResult RecoveryStateSnapshot :=
  if snapshot.record.state = "record_resolved" then do
    let _ ← finalizationCapabilities snapshot
    pure snapshot
  else markRecordResolvedTyped snapshot

def releaseForFinalization (snapshot : RecoveryStateSnapshot) : IoResult RecoveryStateSnapshot :=
  if snapshot.record.operationLedger.runtimeRelease.isConfirmed then pure snapshot
  else do
    let attempt := saturatingAdd snapshot.record.sequence 1
    let next ← persistRecoveryIntentFromSnapshot snapshot .runtimeRelease attempt
    persist snapshot.record.lifecycleId (.operation .runtimeRelease (.confirmed attempt)) ()
    refreshRecoverySnapshot next

def finalizeStartupRecord (recordId : String) : IoResult Unit := do
  let record ← readRecord recordId ()
  .require (record.operationLedger.runtimeRelease = .notStarted ||
    record.operationLedger.runtimeRelease.isConfirmed) ()
  let snapshot ←
    Attempt.okOr (RecoveryStateSnapshot.fromRecord record.createdBootId record) ()
  let resolved ← resolveForFinalization snapshot
  let released ← releaseForFinalization resolved
  let removal ← finalizationCapabilities released
  let receipt ← removeRecordTyped released removal
  issueSeatFreePermit receipt

def quarantineStartupRecord (id : String) (reason : StartupRecoveryFailure) : StartupM Unit :=
  .ask .inspect fun _ w =>
    if (w.ledger.get id).any fun r =>
        r.state = "quarantined" && r.quarantineReason = some reason.persistentReason then
      .ask (.countQuarantined id) fun _ _ => .done ()
    else
      .ask (.write id (.quarantine reason)) fun ok _ =>
        if ok then .ask (.countQuarantined id) fun _ _ => .done ()
        else .ask .markStartupQuarantine fun _ _ => .ask (.countQuarantined id) fun _ _ => .done ()

/-- `finalize_startup_record`, and the quarantine that follows its failure. -/
def finalizeOrQuarantine (id : String) : StartupM Unit :=
  Program.bind (finalizeStartupRecord id) fun
    | .ok _ => .ask (.countFree id) fun _ _ => .done ()
    | .error _ => quarantineStartupRecord id .unsupportedRehydration

section Reading
variable {ε α : Type} {w : StartupWorld}
  {allows : StartupWorld → StartupRequest → StartupAnswer → Prop}
  {good : StartupWorld → StartupRequest → Prop}

/-- What the program leaves when it succeeds, for all answers that are allowed. -/
abbrev Leaves (allows : StartupWorld → StartupRequest → StartupAnswer → Prop)
    (p : Attempt StartupWorld StartupRequest ε α) (w : StartupWorld)
    (post : α → StartupWorld → Prop) : Prop :=
  p.Sat StartupWorld.perform allows (fun _ _ => True) w post

theorem sat_readRecord_gives (h : good w .inspect) {id : String} {e : ε}
    {f : PersistentRecoveryRecord → Attempt StartupWorld StartupRequest ε α}
    {post : α → StartupWorld → Prop}
    (hf : ∀ record, w.ledger.get id = some record →
      (f record).Sat StartupWorld.perform allows good w post) :
    (readRecord id e >>= f).Sat StartupWorld.perform allows good w post := by
  have hread : (readRecord id e : Attempt StartupWorld StartupRequest ε PersistentRecoveryRecord).Sat
      StartupWorld.perform allows good w
        fun record w' => w' = w ∧ w.ledger.get id = some record :=
    ⟨h, fun _ _ => Attempt.sat_okOr _ _ _⟩
  exact hread.bind fun record _ hr => hr.1 ▸ hf record hr.2

theorem sat_readLedger_gives (h : good w .inspect) {f : PersistentRecoveryLedger → Attempt
    StartupWorld StartupRequest ε α} {post : α → StartupWorld → Prop}
    (hf : (f w.ledger).Sat StartupWorld.perform allows good w post) :
    (readLedger >>= f).Sat StartupWorld.perform allows good w post := ⟨h, fun _ _ => hf⟩

theorem fromRecord_record {currentBoot : String} {record : PersistentRecoveryRecord}
    {snapshot : RecoveryStateSnapshot}
    (h : RecoveryStateSnapshot.fromRecord currentBoot record = some snapshot) :
    snapshot.record = record := by
  unfold RecoveryStateSnapshot.fromRecord at h
  split at h
  · cases h
    rfl
  · cases h

theorem sat_newSnapshot {id currentBoot : String} :
    Leaves allows (do
        let record ← readRecord id ()
        Attempt.okOr (RecoveryStateSnapshot.fromRecord currentBoot record) ()) w
      fun snapshot _ => snapshot.record.lifecycleId = id := by
  refine sat_readRecord_gives trivial fun record hget => ?_
  refine (Attempt.sat_okOr _ _ _).mono fun snapshot _ h => ?_
  rw [fromRecord_record h.2]
  exact PersistentRecoveryLedger.lifecycleId_of_get hget

end Reading

end Niralis
