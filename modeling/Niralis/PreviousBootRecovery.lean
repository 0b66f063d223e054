import Niralis.PreviousBootPlanner
import Niralis.StartupProgram

namespace Niralis

inductive HistoricalDurableStateConflict
  | ledgerAheadOfJournal
  | journalAheadOfLedger
  | recordPresentAfterRemovalReceipt
  | recordMissingBeforeRemoval
  | sequenceConflict
  | replacedInode
  | duplicateRecordEntry
  deriving DecidableEq, Repr

inductive PreviousBootFinalizationError
  | planChanged
  | staleSnapshot
  | conflicted
  | durableConflict (conflict : HistoricalDurableStateConflict)
  | io
  deriving DecidableEq, Repr

inductive PreviousBootFinalizationOutcome
  | seatFreed
  | preservedQuarantine
  deriving DecidableEq, Repr

namespace HistoricalFinalizationStage

def afterUnlink : HistoricalFinalizationStage → Bool
  | removalIntent => true
  | removed => true
  | freePublished => true
  | _ => false

def needsResolved : HistoricalFinalizationStage → Bool
  | recordResolved => true
  | runtimeReleaseIntent => true
  | runtimeReleaseConfirmed => true
  | removalIntent => true
  | _ => false

end HistoricalFinalizationStage

def validateEntry (ledger : PersistentRecoveryLedger) (entry : HistoricalFinalizationEntry) :
    Option HistoricalDurableStateConflict :=
  match ledger.get entry.recordId with
  | none => if entry.stage.afterUnlink then none else some .recordMissingBeforeRemoval
  | some record =>
    let release := record.operationLedger.runtimeRelease
    if record.seat ≠ entry.seat ∨ record.lifecycleId ≠ entry.lifecycleId then
      some .sequenceConflict
    else if entry.sequence > record.sequence then some .journalAheadOfLedger
    else if entry.stage = .removed ∨ entry.stage = .freePublished then
      some .recordPresentAfterRemovalReceipt
    else if entry.stage.needsResolved ∧ record.state ≠ "record_resolved" then
      some .ledgerAheadOfJournal
    else if entry.stage = .runtimeReleaseIntent ∧ !release.isConfirmed ∧
        !release.isIntentPersisted then some .journalAheadOfLedger
    else if entry.stage = .recordResolved ∧ release ≠ .notStarted then
      some .ledgerAheadOfJournal
    else if (entry.stage = .runtimeReleaseConfirmed ∨ entry.stage = .removalIntent) ∧
        !release.isConfirmed then some .journalAheadOfLedger
    else if entry.inode.isSome ∧ ledger.recordFileIdentity entry.recordId ≠ entry.inode then
      some .replacedInode
    else none

namespace HistoricalFinalizationJournal

def validateEntries (ledger : PersistentRecoveryLedger) (seen : List String) :
    List HistoricalFinalizationEntry → Option HistoricalDurableStateConflict
  | [] => none
  | entry :: rest =>
    if seen.contains entry.recordId then some .duplicateRecordEntry
    else
      match validateEntry ledger entry with
      | some conflict => some conflict
      | none => validateEntries ledger (entry.recordId :: seen) rest

def validateAgainstLedger (journal : HistoricalFinalizationJournal)
    (ledger : PersistentRecoveryLedger) : Option HistoricalDurableStateConflict :=
  validateEntries ledger [] journal.entries

def entry (journal : HistoricalFinalizationJournal) (id : String) :
    Option HistoricalFinalizationEntry := journal.entries.find? (·.recordId = id)

def upsertEntry (entry : HistoricalFinalizationEntry) :
    List HistoricalFinalizationEntry → List HistoricalFinalizationEntry
  | [] => [entry]
  | current :: rest =>
    if current.recordId = entry.recordId then entry :: rest
    else current :: upsertEntry entry rest

def upsert (journal : HistoricalFinalizationJournal) (entry : HistoricalFinalizationEntry) :
    HistoricalFinalizationJournal := { journal with entries := upsertEntry entry journal.entries }

end HistoricalFinalizationJournal

def historicalNotReplayed (r : PersistentRecoveryRecord) : List HistoricalNotReplayed :=
  [DurableOperation.payloadKill, .supervisorUnref, .logindTermination, .vtDisallocate].filterMap
    fun op =>
      let state := r.operationLedger.get op
      if state.isUndecided then some ⟨op, state.attemptId, state⟩ else none

def nextOperationAttemptId (r : PersistentRecoveryRecord) : Option Nat :=
  checkedAdd ((recordedAttempts r.operationLedger).foldl max 0) 1

structure PreviousBootView where
  currentBoot : Option String
  facts : Option PreviousBootCurrentFacts

/-- The host is asked when the plan is made, when it is revalidated, and before each of the four
steps that a changed host must stop. -/
structure PreviousBootHost where
  planned : Option PreviousBootCurrentFacts
  revalidated : PreviousBootView
  beforeIntent : PreviousBootView
  beforeResolved : PreviousBootView
  beforeRelease : PreviousBootView
  beforeUnlink : PreviousBootView

structure PreviousBootFinalizationAuthority where
  currentBoot : String
  recordedBoot : String
  recordId : String
  seat : String
  sequence : Nat
  file : Nat

def PreviousBootFinalizationAuthority.validates (a : PreviousBootFinalizationAuthority)
    (r : PersistentRecoveryRecord) (current : String) (file : Nat) : Bool :=
  a.currentBoot = current && a.recordedBoot = r.createdBootId && a.recordId = r.lifecycleId &&
    a.seat = r.seat && a.sequence = r.sequence && a.file = file

abbrev PreviousBootM (α : Type) :=
  Attempt StartupWorld StartupRequest PreviousBootFinalizationError α

section Execution

def currentRecord (id : String) : PreviousBootM (PersistentRecoveryRecord × Nat) := do
  let ledger ← readLedger
  let record ← .okOr (ledger.get id) .staleSnapshot
  let file ← .okOr (ledger.recordFileIdentity id) .io
  pure (record, file)

/-- The fingerprint is the record's sequence with the facts and the plan. -/
def revalidate (view : PreviousBootView) (original : PersistentRecoveryRecord)
    (currentBoot : String) (facts : PreviousBootCurrentFacts) (plan : PreviousBootRecoveryPlan)
    (expectedFile : Nat) : PreviousBootM PreviousBootFinalizationAuthority := do
  .require (view.currentBoot = some currentBoot) .staleSnapshot
  let (current, file) ← currentRecord original.lifecycleId
  .require (file = expectedFile) .staleSnapshot
  .require (bootIdentityValid current.createdBootId) .staleSnapshot
  .require (current.createdBootId ≠ currentBoot) .conflicted
  let currentFacts ← .okOr view.facts .staleSnapshot
  .require (original.sequence = current.sequence ∧ facts = currentFacts ∧
    plan = planPreviousBootReconciliation current currentFacts ∧
    currentFacts.authorityStable = true) .planChanged
  pure ⟨currentBoot, current.createdBootId, current.lifecycleId, current.seat, current.sequence,
    file⟩

def guardCurrentBoot (view : PreviousBootView) (a : PreviousBootFinalizationAuthority) :
    PreviousBootM Unit := do
  let boot ← .okOr view.currentBoot .staleSnapshot
  let (record, file) ← currentRecord a.recordId
  .require (a.validates record boot file) .staleSnapshot
  .require (bootIdentityValid record.createdBootId) .staleSnapshot
  .require (record.createdBootId ≠ boot) .conflicted
  let facts ← .okOr view.facts .staleSnapshot
  .require (facts.authorityStable && !facts.inspectionFailed) .planChanged

/-- The authority for the record as it is after a commit. -/
def advanceAuthority (a : PreviousBootFinalizationAuthority) :
    PreviousBootM PreviousBootFinalizationAuthority := do
  let (next, file) ← currentRecord a.recordId
  pure { a with sequence := next.sequence, file }

def commitAdvance (a : PreviousBootFinalizationAuthority) (write : RecordWrite) :
    PreviousBootM PreviousBootFinalizationAuthority := do
  persist a.recordId write .io
  advanceAuthority a

/-- `advance(…, "previous_boot_resolution_intent")` -/
def advanceResolutionIntent (a : PreviousBootFinalizationAuthority) :
    PreviousBootM PreviousBootFinalizationAuthority := do
  let (current, file) ← currentRecord a.recordId
  .require (a.validates current a.currentBoot file) .staleSnapshot
  let attempt ← .okOr (nextOperationAttemptId current) .conflicted
  commitAdvance a (.transitionWithOperation "previous_boot_resolution_intent" .recordResolution
    (.intentPersisted attempt))

def resolutionAttempt (current : PersistentRecoveryRecord) :
    Except PreviousBootFinalizationError Nat :=
  match current.operationLedger.recordResolution with
  | .intentPersisted attempt => .ok attempt
  | .notStarted =>
    match nextOperationAttemptId current with
    | some attempt => .ok attempt
    | none => .error .conflicted
  | .confirmed _ => .error .staleSnapshot
  | .failed _ _ => .error .conflicted
  | .indeterminate _ _ => .error .conflicted

/-- `advance(…, "record_resolved")` -/
def advanceRecordResolved (a : PreviousBootFinalizationAuthority) :
    PreviousBootM PreviousBootFinalizationAuthority := do
  let (current, file) ← currentRecord a.recordId
  .require (a.validates current a.currentBoot file) .staleSnapshot
  let attempt ← .check (resolutionAttempt current)
  commitAdvance a (.transitionWithOperation "record_resolved" .recordResolution
    (.confirmed attempt))

def advanceRuntimeRelease (a : PreviousBootFinalizationAuthority) (state : DurableOperationState) :
    PreviousBootM PreviousBootFinalizationAuthority := do
  let (current, file) ← currentRecord a.recordId
  .require (a.validates current a.currentBoot file && current.state = "record_resolved")
    .staleSnapshot
  commitAdvance a (.transitionWithOperation "record_resolved" .runtimeRelease state)

/-- `journal.upsert(entry); journal.persist(ledger)` -/
def persistEntry (journal : HistoricalFinalizationJournal) (entry : HistoricalFinalizationEntry) :
    PreviousBootM HistoricalFinalizationJournal := do
  .perform (.persistJournal (journal.upsert entry)) .io
  pure (journal.upsert entry)

def HistoricalFinalizationEntry.follow (entry : HistoricalFinalizationEntry)
    (a : PreviousBootFinalizationAuthority) (stage : HistoricalFinalizationStage) :
    HistoricalFinalizationEntry :=
  { entry with sequence := a.sequence, inode := some a.file, stage }

section Runtime
variable (host : PreviousBootHost)

def runtimeReleaseIntent (a : PreviousBootFinalizationAuthority)
    (journal : HistoricalFinalizationJournal) (entry : HistoricalFinalizationEntry)
    (current : PersistentRecoveryRecord) : PreviousBootM
      (PreviousBootFinalizationAuthority × Nat × HistoricalFinalizationJournal) :=
  match current.operationLedger.runtimeRelease with
  | .notStarted => do
    let attempt ← .okOr (nextOperationAttemptId current) .conflicted
    let next ← advanceRuntimeRelease a (.intentPersisted attempt)
    let journal ← persistEntry journal (entry.follow next .runtimeReleaseIntent)
    let record ← readRecord next.recordId .staleSnapshot
    match record.operationLedger.runtimeRelease with
    | .intentPersisted attempt => pure (next, attempt, journal)
    | _ => .fail .staleSnapshot
  | .intentPersisted attempt => pure (a, attempt, journal)
  | .confirmed attempt => pure (a, attempt, journal)
  | .failed _ _ => .fail .conflicted
  | .indeterminate _ _ => .fail .conflicted

def runtimeReleaseConfirmed (a : PreviousBootFinalizationAuthority) (attempt : Nat) :
    PreviousBootM PreviousBootFinalizationAuthority := do
  let record ← readRecord a.recordId .staleSnapshot
  if record.operationLedger.runtimeRelease.isConfirmed then pure a
  else advanceRuntimeRelease a (.confirmed attempt)

/-- The tail of the finalization, from the resolved record to the published seat. -/
def removeAndPublish (a : PreviousBootFinalizationAuthority)
    (journal : HistoricalFinalizationJournal) (entry : HistoricalFinalizationEntry) :
    PreviousBootM PreviousBootFinalizationOutcome := do
  let entry := entry.follow a .runtimeReleaseConfirmed
  let journal ← persistEntry journal entry
  let journal ← persistEntry journal { entry with stage := .removalIntent }
  guardCurrentBoot host.beforeUnlink a
  .perform (.removeRecordExact a.recordId a.file) .io
  let journal ← persistEntry journal { entry with stage := .removed }
  .perform (.clearSeatStartupQuarantine a.seat (.record a.recordId)) .io
  let _ ← persistEntry journal { entry with stage := .freePublished }
  pure .seatFreed

def authorityForRuntime (a : PreviousBootFinalizationAuthority)
    (journal : HistoricalFinalizationJournal) (entry : HistoricalFinalizationEntry) :
    PreviousBootM PreviousBootFinalizationOutcome := do
  let current ← readRecord a.recordId .staleSnapshot
  let (intent, attempt, journal) ← runtimeReleaseIntent a journal entry current
  guardCurrentBoot host.beforeRelease intent
  let confirmed ← runtimeReleaseConfirmed intent attempt
  removeAndPublish host confirmed journal entry

end Runtime

section Plan
variable (host : PreviousBootHost)

/-- The first two journal entries of a record that has none. -/
def openEntry (journal : HistoricalFinalizationJournal) (entry : HistoricalFinalizationEntry)
    (existing : Option HistoricalFinalizationStage) :
    PreviousBootM (HistoricalFinalizationJournal × HistoricalFinalizationEntry) :=
  match existing with
  | none => do
    let journal ← persistEntry journal entry
    let entry := { entry with stage := .resolutionIntent }
    let journal ← persistEntry journal entry
    pure (journal, entry)
  | some _ => pure (journal, entry)

def reachResolutionIntent (a : PreviousBootFinalizationAuthority)
    (current : PersistentRecoveryRecord) : PreviousBootM PreviousBootFinalizationAuthority :=
  if current.state = "previous_boot_resolution_intent" then pure a
  else do
    guardCurrentBoot host.beforeIntent a
    advanceResolutionIntent a

def reachRecordResolved (a : PreviousBootFinalizationAuthority) :
    PreviousBootM PreviousBootFinalizationAuthority := do
  let current ← readRecord a.recordId .staleSnapshot
  if current.state = "record_resolved" then pure a
  else do
    guardCurrentBoot host.beforeResolved a
    advanceRecordResolved a

def resolveHistoricalRecord (a : PreviousBootFinalizationAuthority)
    (journal : HistoricalFinalizationJournal) (entry : HistoricalFinalizationEntry)
    (existing : Option HistoricalFinalizationStage) (current : PersistentRecoveryRecord) :
    PreviousBootM PreviousBootFinalizationOutcome := do
  let (journal, entry) ← openEntry journal entry existing
  let a ← reachResolutionIntent host a current
  let entry := entry.follow a entry.stage
  let journal ← persistEntry journal entry
  let a ← reachRecordResolved host a
  let entry := entry.follow a .recordResolved
  let journal ← persistEntry journal entry
  authorityForRuntime host a journal entry

def finalizeAlreadyResolvedRecord (a : PreviousBootFinalizationAuthority)
    (journal : HistoricalFinalizationJournal) (entry : HistoricalFinalizationEntry) :
    PreviousBootM PreviousBootFinalizationOutcome := do
  let record ← readRecord a.recordId .staleSnapshot
  let a ← if record.operationLedger.recordResolution = .notStarted then advanceRecordResolved a
    else (pure a : PreviousBootM PreviousBootFinalizationAuthority)
  authorityForRuntime host a journal entry

/-- The stages past which a record is not resolved once more. -/
def resolutionDone : Option HistoricalFinalizationStage → Bool
  | none => false
  | some .notReplayed => false
  | some .resolutionIntent => false
  | some _ => true

def executePreviousBootPlan (record : PersistentRecoveryRecord) (currentBoot : String)
    (facts : PreviousBootCurrentFacts) (plan : PreviousBootRecoveryPlan) :
    PreviousBootM PreviousBootFinalizationOutcome :=
  if plan ≠ .resolveHistoricalRecord ∧ plan ≠ .finalizeAlreadyResolvedRecord then
    pure .preservedQuarantine
  else do
    let ledger ← readLedger
    let file ← .okOr (ledger.recordFileIdentity record.lifecycleId) .io
    let a ← revalidate host.revalidated record currentBoot facts plan file
    let ledger ← readLedger
    let journal ← .okOr ledger.loadJournal .io
    .check (match journal.validateAgainstLedger ledger with
      | some conflict => .error (.durableConflict conflict)
      | none => .ok ())
    let current ← readRecord a.recordId .staleSnapshot
    let existing := (journal.entry a.recordId).map (·.stage)
    let entry := ⟨a.recordId, a.recordId, a.seat, currentBoot, a.sequence, .notReplayed,
      historicalNotReplayed current, some a.file⟩
    if plan = .resolveHistoricalRecord ∧ resolutionDone existing = false then
      resolveHistoricalRecord host a journal entry existing current
    else finalizeAlreadyResolvedRecord host a journal entry

end Plan

end Execution

/-- The entries whose record is gone: their seats are freed and their stage is published. -/
def resumeEntries (ledger : PersistentRecoveryLedger) :
    List HistoricalFinalizationEntry → HistoricalFinalizationJournal → Nat →
      PreviousBootM (HistoricalFinalizationJournal × Nat)
  | [], journal, completed => pure (journal, completed)
  | entry :: rest, journal, completed =>
    if (entry.stage ≠ .removed ∧ entry.stage ≠ .removalIntent) ∨
        (ledger.get entry.recordId).isSome then
      resumeEntries ledger rest journal completed
    else if entry.stage = .removalIntent then
      match ledger.recordFileExists entry.recordId with
      | none => .fail .io
      | some true => resumeEntries ledger rest journal completed
      | some false => do
        .perform (.clearSeatStartupQuarantine entry.seat (.record entry.recordId)) .io
        resumeEntries ledger rest (journal.upsert { entry with stage := .freePublished })
          (completed + 1)
    else do
      .perform (.clearSeatStartupQuarantine entry.seat (.record entry.recordId)) .io
      resumeEntries ledger rest (journal.upsert { entry with stage := .freePublished })
        (completed + 1)

def resumeRemovedPreviousBootFinalization : PreviousBootM Nat := do
  let ledger ← readLedger
  let journal ← .okOr ledger.loadJournal .io
  .check (match journal.validateAgainstLedger ledger with
    | some conflict => .error (.durableConflict conflict)
    | none => .ok ())
  if ledger.startupQuarantined then pure 0
  else do
    let (journal, completed) ← resumeEntries ledger journal.entries journal 0
    if completed = 0 then pure 0
    else do
      .perform (.persistJournal journal) .io
      pure completed

end Niralis
