import Niralis.StaleSnapshots

namespace Niralis

/-- The ledger, and the receipts issued so far that a removal or a permit rests on. The other
receipts and the snapshots are left to the caller. -/
structure FinalizationWorld where
  ledger : PersistentRecoveryLedger
  removalPermits : List RecordRemovalPermit := []
  removedReceipts : List RecordRemovedReceipt := []

/-- `resolve_and_remove` is a write and a removal, and `finalize_startup_record` a resolution, two
writes, its own issue of the receipts, a removal and a permit, which others may come between. -/
inductive FinalizationAction
  | create (record : PersistentRecoveryRecord) (answer : CommitAnswer)
  | write (lifecycleId : String) (write : RecordWrite) (answer : WriteAnswer)
  | removeResolved (lifecycleId : String) (answer : RemoveAnswer)
  | reopen (bootId : Option String)
  | markStartupQuarantine
  | markSeatStartupQuarantine (seat : String)
  | clearSeatStartupQuarantine (seat : String)
  | markResolved (s : RecoveryStateSnapshot) (completion : FinalizationCompletionProof)
    (answers : ResolutionAnswers)
  | confirmRelease (s : RecoveryStateSnapshot) (resolved : PersistedRecordResolved)
    (permit : RuntimeReleasePermit) (answer : WriteAnswer)
  | finalizationCapabilities (s : RecoveryStateSnapshot)
  | remove (s : RecoveryStateSnapshot) (resolved : PersistedRecordResolved)
    (confirmed : RuntimeReleaseConfirmed) (permit : RecordRemovalPermit) (answer : RemoveAnswer)
  | issueFree (receipt : RecordRemovedReceipt)

namespace FinalizationWorld

def step (w : FinalizationWorld) : FinalizationAction → FinalizationWorld
  | .create record answer => { w with ledger := (w.ledger.create record answer).2 }
  | .write id write answer => { w with ledger := (w.ledger.write id write answer).2 }
  | .removeResolved id answer => { w with ledger := (w.ledger.removeResolved id answer).2 }
  | .reopen bootId => { w with ledger := w.ledger.openDirectory bootId }
  | .markStartupQuarantine => { w with ledger := w.ledger.markStartupQuarantine }
  | .markSeatStartupQuarantine seat =>
    { w with ledger := w.ledger.markSeatStartupQuarantine seat }
  | .clearSeatStartupQuarantine seat =>
    { w with ledger := w.ledger.clearSeatStartupQuarantine seat }
  | .markResolved s completion answers =>
    { w with ledger := (w.ledger.markRecordResolvedTyped s completion answers).2 }
  | .confirmRelease s resolved permit answer =>
    let (result, ledger) := w.ledger.confirmRuntimeReleaseTyped s resolved permit answer
    { w with
      ledger
      removalPermits := w.removalPermits ++ (result.map (·.2.2.2)).toList }
  | .finalizationCapabilities s =>
    { w with removalPermits := w.removalPermits ++
        ((w.ledger.finalizationCapabilities s).map (·.2.2)).toList }
  | .remove s resolved confirmed permit answer =>
    let (result, ledger) := w.ledger.removeRecordTyped s resolved confirmed permit answer
    { w with ledger, removedReceipts := w.removedReceipts ++ result.toList }
  | .issueFree _ => w

/-- A removal permit and a removal receipt are values that were issued before, however long ago. -/
def Issued (w : FinalizationWorld) : FinalizationAction → Prop
  | .remove _ _ _ permit _ => permit ∈ w.removalPermits
  | .issueFree receipt => receipt ∈ w.removedReceipts
  | _ => True

end FinalizationWorld

namespace PersistentRecoveryLedger

def OnDisk (P : PersistentRecoveryRecord → Prop) (l : PersistentRecoveryLedger) (id : String) :
    Prop :=
  ∃ f ∈ l.files, f.lifecycleId = id ∧ P f.record

def InMemory (P : PersistentRecoveryRecord → Prop) (l : PersistentRecoveryLedger) (id : String) :
    Prop :=
  ∃ r, l.get id = some r ∧ P r

def IsResolved (r : PersistentRecoveryRecord) : Prop := r.state = "record_resolved"

/-- The write takes a record neither out of the resolved state nor back from its release. -/
structure KeepsSettled (w : RecordWrite) : Prop where
  state : ∀ r : PersistentRecoveryRecord, IsResolved r → w.target r = "record_resolved"
  release : ∀ s, w.operationChange = some (.runtimeRelease, s) → s.isConfirmed = true

def Lasts (P : PersistentRecoveryRecord → Prop) : Prop :=
  ∀ w r next, KeepsSettled w → WriteResult r w next → P r → P next

theorem onDisk_of_file {P : PersistentRecoveryRecord → Prop} {l : PersistentRecoveryLedger}
    {id : String} {f : RecordFile} (hf : l.file id = some f) (hP : P f.record) : OnDisk P l id :=
  ⟨f, KeyedList.mem_of_lookup hf, KeyedList.key_of_lookup hf, hP⟩

/-- A step that gives the record in memory the property leaves a file that has it. -/
def Backed (P : PersistentRecoveryRecord → Prop) (id : String) (l l' : PersistentRecoveryLedger) :
    Prop :=
  InMemory P l' id → InMemory P l id ∨ OnDisk P l' id

theorem Backed.of_get {P : PersistentRecoveryRecord → Prop} {id : String}
    {l l' : PersistentRecoveryLedger} (h : ∀ r, l'.get id = some r → l.get id = some r) :
    Backed P id l l' := by
  rintro ⟨r, hr, hP⟩
  exact Or.inl ⟨r, h r hr, hP⟩

section Backed
variable {P : PersistentRecoveryRecord → Prop}

theorem backed_write (l : PersistentRecoveryLedger) (id id' : String) (w : RecordWrite)
    (answer : WriteAnswer) : Backed P id l (l.write id' w answer).2 := by
  by_cases hid : id = id'
  · subst hid
    cases hget : l.get id with
    | none =>
      refine .of_get fun r hr => ?_
      simpa only [write, hget] using hr
    | some r =>
      rcases write_outcomes hget w answer with hw | ⟨next, hnext, hfile, ⟨-, hget'⟩ | ⟨-, hget'⟩⟩
      · rw [hw]
        exact .of_get fun _ h => h
      · rintro ⟨r', hr', hstate⟩
        cases hget'.symm.trans hr'
        exact Or.inr (onDisk_of_file hfile hstate)
      · exact .of_get fun r' hr' => hget.trans (hget'.symm.trans hr')
  · exact .of_get fun r hr => ((l.onRecord_write id' w answer).get id hid).symm.trans hr

/-- A second commit after a first one that gave the record the property. -/
theorem Backed.write {id : String} {l₀ l : PersistentRecoveryLedger} (h : Backed P id l₀ l)
    (hP : Lasts P) {w : RecordWrite} (hw : KeepsSettled w) (answer : WriteAnswer) :
    Backed P id l₀ (l.write id w answer).2 := by
  intro hafter
  rcases backed_write l id id w answer hafter with hmem | hdisk
  · rcases h hmem with h₀ | hdisk
    · exact Or.inl h₀
    · obtain ⟨r, hget, hr⟩ := hmem
      rcases write_outcomes hget w answer with heq | ⟨next, hnext, hfile, -⟩
      · rw [heq]
        exact Or.inr hdisk
      · exact Or.inr (onDisk_of_file hfile (hP w r next hw hnext hr))
  · exact Or.inr hdisk

end Backed

/-- A confirmed release: the record was resolved in memory before, and its file is now the one
that the removal permit names. -/
structure Released (l l' : PersistentRecoveryLedger) (permit : RecordRemovalPermit) : Prop where
  resolved : InMemory IsResolved l permit.lifecycleId
  file : ∃ r, l'.file permit.lifecycleId = some ⟨permit.fileIdentity, r⟩ ∧
    r.state = "record_resolved" ∧ r.operationLedger.runtimeRelease.isConfirmed = true ∧
    r.sequence = permit.sequence ∧ r.seat = permit.seat

section ConfirmRelease
variable {l : PersistentRecoveryLedger} {s : RecoveryStateSnapshot}
  {resolved : PersistedRecordResolved} {permit : RuntimeReleasePermit} {answer : WriteAnswer}

end ConfirmRelease

/-- A removal: the file is the one the permit names, and the record in memory resolved and
released. -/
structure RemovedWith (l l' : PersistentRecoveryLedger) (permit : RecordRemovalPermit)
    (receipt : RecordRemovedReceipt) : Prop where
  identity : l.recordFileIdentity permit.lifecycleId = some permit.fileIdentity
  record : ∃ r, l.get permit.lifecycleId = some r ∧ r.state = "record_resolved" ∧
    r.operationLedger.runtimeRelease.isConfirmed = true ∧ receipt.sequence = r.sequence
  bound : receipt.lifecycleId = permit.lifecycleId ∧ receipt.recordId = permit.recordId ∧
    receipt.bootId = permit.bootId ∧ receipt.seat = permit.seat
  gone : l'.get permit.lifecycleId = none ∧ l'.file permit.lifecycleId = none

end PersistentRecoveryLedger

namespace FinalizationWorld
open PersistentRecoveryLedger

/-- The startup's issue of a removal permit: it names the file that the record has. -/
structure Identified (l : PersistentRecoveryLedger) (s : RecoveryStateSnapshot)
    (permit : RecordRemovalPermit) : Prop where
  binding : permit.toRecordBinding = s.binding
  file : l.recordFileIdentity permit.lifecycleId = some permit.fileIdentity

/-- The world in which the action number `n` is taken. -/
def after (w : FinalizationWorld) (actions : List FinalizationAction) (n : Nat) :
    FinalizationWorld := (actions.take n).foldl step w

def IssuedAtStartup (w : FinalizationWorld) (actions : List FinalizationAction) (n : Nat)
    (permit : RecordRemovalPermit) : Prop :=
  ∃ j < n, ∃ s, actions[j]? = some (.finalizationCapabilities s) ∧
    Identified (w.after actions j).ledger s permit

/-- What memory and the issued receipts rest on, after `n` actions. -/
structure Founded (w : FinalizationWorld) (actions : List FinalizationAction) (n : Nat) : Prop where
  memory : ∀ P, Lasts P → ∀ id, InMemory P (w.after actions n).ledger id →
    ∃ i ≤ n, OnDisk P (w.after actions i).ledger id
  permits : ∀ p ∈ (w.after actions n).removalPermits,
    (∃ j < n, Released (w.after actions j).ledger (w.after actions (j + 1)).ledger p) ∨
      IssuedAtStartup w actions n p
  receipts : ∀ receipt ∈ (w.after actions n).removedReceipts,
    ∃ m < n, ∃ permit ∈ (w.after actions m).removalPermits,
      RemovedWith (w.after actions m).ledger (w.after actions (m + 1)).ledger permit receipt

section Sample

def sampleBinding (sequence : Nat) : RecordBinding :=
  ⟨"boot-1", "worker-1", "worker-1", sequence, "seat0"⟩

def resolvedRecord : PersistentRecoveryRecord :=
  { preparedRecord with
    sequence := 4, state := "record_resolved", operationLedger.recordResolution := .confirmed 2 }

def releasedRecord : PersistentRecoveryRecord :=
  { resolvedRecord with
    sequence := 5, operationLedger.runtimeRelease := .confirmed 4 }

def writeSucceeds : WriteAnswer := ⟨some "boot-1", .synced⟩

def startedRecord : PersistentRecoveryRecord := { preparedRecord with state := "started" }

/-- One record from its creation to the permit for its seat. -/
def finishedRecord : List FinalizationAction :=
  [.create preparedRecord .synced,
    .markResolved ⟨preparedRecord, "boot-1"⟩ ⟨sampleBinding 1⟩
      ⟨writeSucceeds, writeSucceeds, writeSucceeds⟩,
    .confirmRelease ⟨resolvedRecord, "boot-1"⟩ ⟨sampleBinding 4⟩ ⟨sampleBinding 4⟩ writeSucceeds,
    .remove ⟨releasedRecord, "boot-1"⟩ ⟨sampleBinding 5⟩ ⟨sampleBinding 5⟩ ⟨sampleBinding 5, 15⟩
      .synced,
    .issueFree ⟨sampleBinding 5⟩]

end Sample

end FinalizationWorld

end Niralis
