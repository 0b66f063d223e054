import Niralis.LedgerFrames
import Niralis.PreviousBootRecovery

namespace Niralis
open PersistentRecoveryLedger

namespace HistoricalFinalizationJournal
variable (journal : HistoricalFinalizationJournal) (e : HistoricalFinalizationEntry)

theorem find_upsertEntry (l : List HistoricalFinalizationEntry) :
    (upsertEntry e l).find? (·.recordId = e.recordId) = some e := by
  induction l with
  | nil => simp [upsertEntry]
  | cons current rest ih =>
    unfold upsertEntry
    split
    · simp
    next hne => rw [List.find?_cons_of_neg (by simpa using hne), ih]

theorem entry_upsert_self : (journal.upsert e).entry e.recordId = some e :=
  find_upsertEntry e journal.entries

theorem upsertEntry_upsertEntry {e' : HistoricalFinalizationEntry} (h : e'.recordId = e.recordId)
    (l : List HistoricalFinalizationEntry) :
    upsertEntry e' (upsertEntry e l) = upsertEntry e' l := by
  induction l with
  | nil => simp [upsertEntry, h]
  | cons current rest ih =>
    by_cases hc : current.recordId = e.recordId
    · simp [upsertEntry, hc, h]
    · simp [upsertEntry, hc, h, ih]

theorem upsert_upsert {e' : HistoricalFinalizationEntry} (h : e'.recordId = e.recordId) :
    (journal.upsert e).upsert e' = journal.upsert e' := by
  simp only [upsert, upsertEntry_upsertEntry e h]

/-- The journal is the given one, but for the entry of one record. -/
def From (journal start : HistoricalFinalizationJournal) (id : String) : Prop :=
  journal = start ∨ ∃ e, e.recordId = id ∧ journal = start.upsert e

theorem From.upsert {start journal : HistoricalFinalizationJournal}
    {id : String} (h : journal.From start id) (hid : e.recordId = id) :
    journal.upsert e = start.upsert e := by
  subst hid
  rcases h with rfl | ⟨e', he', rfl⟩
  · rfl
  · exact upsert_upsert start e' he'.symm

theorem From.upserted {start journal : HistoricalFinalizationJournal} {id : String}
    (h : journal.From start id) (hid : e.recordId = id) : (journal.upsert e).From start id :=
  Or.inr ⟨e, hid, h.upsert e hid⟩

end HistoricalFinalizationJournal

namespace PersistentRecoveryLedger

def journalEntry (l : PersistentRecoveryLedger) (id : String) :
    Option HistoricalFinalizationEntry :=
  match l.journal with
  | .stored journal => journal.entry id
  | _ => none

/-- The record is in memory, and its file holds the same. -/
structure Held (l : PersistentRecoveryLedger) (id : String) (r : PersistentRecoveryRecord)
    (file : Nat) : Prop where
  memory : l.get id = some r
  disk : l.file id = some ⟨file, r⟩

/-- The record on disk is finished, and the journal on disk says that this file will go. -/
structure ReadyToUnlink (l : PersistentRecoveryLedger) (id : String) (file : Nat)
    (r : PersistentRecoveryRecord) (e : HistoricalFinalizationEntry) : Prop where
  held : l.Held id r file
  resolved : r.state = "record_resolved"
  released : r.operationLedger.runtimeRelease.isConfirmed = true
  journaled : l.journalEntry id = some e
  stage : e.stage = .removalIntent
  sequence : e.sequence = r.sequence
  inode : e.inode = some file

def SafeRequest (id seat : String) (l : PersistentRecoveryLedger) : StartupRequest → Prop
  | .inspect => True
  | .write id' _ => id' = id
  | .persistJournal journal =>
    l.file id = none → ∃ e, journal.entry id = some e ∧ e.stage.afterUnlink = true
  | .removeRecordExact id' file => id' = id ∧ ∃ r e, l.ReadyToUnlink id file r e
  | .clearSeatStartupQuarantine cleared cause => cleared = seat ∧ cause = .record id ∧
    l.file id = none ∧ ∃ e, l.journalEntry id = some e ∧ e.stage = .removed
  | _ => False

def RemovalAnnounced (l : PersistentRecoveryLedger) (id : String) : Prop :=
  l.file id = none → ∃ e, l.journalEntry id = some e ∧ e.stage.afterUnlink = true

theorem file_write_isSome {l : PersistentRecoveryLedger} {id : String} (w : RecordWrite)
    (answer : WriteAnswer) (h : (l.file id).isSome = true) :
    ((l.write id w answer).2.file id).isSome = true := by
  rcases l.write_cases id w answer with hw | ⟨r, next, hget, happly, -, -, hw⟩
  · rwa [hw]
  · have hid : next.lifecycleId = id := by
      rw [(writeResult_of_apply happly).lifecycleId, lifecycleId_of_get hget]
    rw [hw]
    split <;> simp [file_putFile, hid]

theorem journal_write (l : PersistentRecoveryLedger) (id : String) (w : RecordWrite)
    (answer : WriteAnswer) : (l.write id w answer).2.journal = l.journal := by
  rcases l.write_cases id w answer with hw | ⟨r, next, -, -, -, -, hw⟩
  · rw [hw]
  · rw [hw]
    split <;> rfl

theorem journal_removeResolved (l : PersistentRecoveryLedger) (id : String)
    (answer : RemoveAnswer) : (l.removeResolved id answer).2.journal = l.journal := by
  unfold removeResolved
  cases l.get id with
  | none => rfl
  | some r =>
    dsimp only
    split
    · rfl
    · cases answer <;> rfl

theorem journal_removeRecordExact (l : PersistentRecoveryLedger) (id : String) (file : Nat)
    (answer : RemoveAnswer) : (l.removeRecordExact id file answer).2.journal = l.journal := by
  unfold removeRecordExact
  split
  · rfl
  · cases l.get id with
    | none => rfl
    | some r =>
      dsimp only
      split
      · rfl
      · exact l.journal_removeResolved id answer

theorem journalEntry_congr {l l' : PersistentRecoveryLedger} (h : l'.journal = l.journal)
    (id : String) : l'.journalEntry id = l.journalEntry id := by
  unfold journalEntry
  rw [h]

theorem journalEntry_upsert {l l' : PersistentRecoveryLedger}
    {journal : HistoricalFinalizationJournal} {e : HistoricalFinalizationEntry} {id : String}
    (h : l' = { l with journal := .stored (journal.upsert e) }) (hid : e.recordId = id) :
    l'.journalEntry id = some e := by
  subst hid
  rw [h]
  exact journal.entry_upsert_self e

theorem removeRecordExact_ok {l : PersistentRecoveryLedger} {id : String} {file : Nat}
    {answer : RemoveAnswer} (h : (l.removeRecordExact id file answer).1 = true) :
    (l.removeRecordExact id file answer).2 = { l with
      files := KeyedList.erase RecordFile.lifecycleId id l.files
      log := l.log ++ [.removed id]
      records := KeyedList.erase (·.lifecycleId) id l.records } := by
  unfold removeRecordExact removeResolved at h ⊢
  split at h
  · cases h
  next hfile =>
    rw [if_neg hfile]
    cases hget : l.get id with
    | none => simp [hget] at h
    | some r =>
      simp only [hget] at h ⊢
      split at h
      · cases h
      next hstate =>
        rw [if_neg hstate]
        split at h
        · cases h
        next hstates =>
          rw [if_neg hstates]
          cases answer with
          | synced => rfl
          | notRemoved => cases h
          | notSynced => cases h

theorem removalAnnounced_perform {id seat : String} {w : StartupWorld} {request : StartupRequest}
    (h : w.ledger.RemovalAnnounced id) (hsafe : w.ledger.SafeRequest id seat request)
    (answer : StartupAnswer) : (w.perform request answer).2.ledger.RemovalAnnounced id := by
  cases request with
  | inspect => exact h
  | write id' write =>
    obtain rfl : id' = id := hsafe
    intro hgone
    simp only [StartupWorld.perform, StartupWorld.onLedger] at hgone ⊢
    rw [journalEntry_congr (journal_write w.ledger id' write answer.write)]
    refine h (Option.not_isSome_iff_eq_none.mp fun hsome => ?_)
    have hkept := file_write_isSome write answer.write hsome
    rw [hgone] at hkept
    cases hkept
  | persistJournal journal =>
    simp only [StartupWorld.perform, StartupWorld.onLedger]
    rcases w.ledger.persistJournal_cases journal answer.journal with hp | ⟨-, -, -, hp⟩
    · rwa [hp]
    · rw [hp]
      exact hsafe
  | removeRecordExact id' file =>
    obtain ⟨-, r, e, hready⟩ := hsafe
    intro _
    have hjournal := journal_removeRecordExact w.ledger id' file answer.remove
    exact ⟨e, (journalEntry_congr hjournal id).trans hready.journaled, by rw [hready.stage]; rfl⟩
  | clearSeatStartupQuarantine cleared cause => exact h
  | effect effect id' => exact hsafe.elim
  | removeResolved id' => exact hsafe.elim
  | markStartupQuarantine => exact hsafe.elim
  | markSeatStartupQuarantine seat' cause => exact hsafe.elim
  | countFree id' => exact hsafe.elim
  | countQuarantined id' => exact hsafe.elim
  | addToSummary free quarantined => exact hsafe.elim

theorem unlink_of_file_gone {id seat : String} {w : StartupWorld} {request : StartupRequest}
    {answer : StartupAnswer} (hsafe : w.ledger.SafeRequest id seat request)
    (hfile : w.ledger.file id ≠ none)
    (hgone : (w.perform request answer).2.ledger.file id = none) :
    ∃ file r e, request = .removeRecordExact id file ∧ w.ledger.ReadyToUnlink id file r e := by
  cases request with
  | inspect => exact absurd hgone hfile
  | write id' write =>
    obtain rfl : id' = id := hsafe
    have hkept := file_write_isSome write answer.write (Option.isSome_iff_ne_none.mpr hfile)
    exact absurd hgone (Option.isSome_iff_ne_none.mp hkept)
  | persistJournal journal =>
    simp only [StartupWorld.perform, StartupWorld.onLedger] at hgone
    rcases w.ledger.persistJournal_cases journal answer.journal with hp | ⟨-, -, -, hp⟩
    · rw [hp] at hgone
      exact absurd hgone hfile
    · rw [hp] at hgone
      exact absurd hgone hfile
  | removeRecordExact id' file =>
    obtain ⟨rfl, r, e, hready⟩ := hsafe
    exact ⟨file, r, e, rfl, hready⟩
  | clearSeatStartupQuarantine cleared cause => exact absurd hgone hfile
  | effect effect id' => exact hsafe.elim
  | removeResolved id' => exact hsafe.elim
  | markStartupQuarantine => exact hsafe.elim
  | markSeatStartupQuarantine seat' cause => exact hsafe.elim
  | countFree id' => exact hsafe.elim
  | countQuarantined id' => exact hsafe.elim
  | addToSummary free quarantined => exact hsafe.elim

end PersistentRecoveryLedger

def authorityFor (boot id : String) (r : PersistentRecoveryRecord) (file : Nat) :
    PreviousBootFinalizationAuthority :=
  ⟨boot, r.createdBootId, id, r.seat, r.sequence, file⟩

section Steps
variable {id seat boot : String} {w : StartupWorld} {r : PersistentRecoveryRecord} {file : Nat}
  {β : Type} {post : β → StartupWorld → Prop}

/-- Every request is safe, and success ends as `post` says. -/
abbrev SafeSat (id seat : String) (p : PreviousBootM β) (w : StartupWorld)
    (post : β → StartupWorld → Prop) : Prop :=
  p.Sat StartupWorld.perform (fun _ _ _ => True) (fun w => w.ledger.SafeRequest id seat) w post

theorem safe_readLedger {f : PersistentRecoveryLedger → PreviousBootM β}
    (hf : SafeSat id seat (f w.ledger) w post) : SafeSat id seat (readLedger >>= f) w post :=
  ⟨trivial, fun _ _ => hf⟩

theorem safe_readRecord {e : PreviousBootFinalizationError}
    {f : PersistentRecoveryRecord → PreviousBootM β} (h : w.ledger.Held id r file)
    (hf : SafeSat id seat (f r) w post) : SafeSat id seat (readRecord id e >>= f) w post := by
  have hread : SafeSat id seat (readRecord id e) w fun record w' => w' = w ∧ record = r := by
    refine safe_readLedger ((Attempt.sat_okOr _ _ _).mono fun record w' hr => ⟨hr.1, ?_⟩)
    exact Option.some.inj (hr.2.symm.trans h.memory)
  exact hread.bind fun record w' hr => by
    rw [hr.1, hr.2]
    exact hf

theorem safe_currentRecord {f : PersistentRecoveryRecord × Nat → PreviousBootM β}
    (h : w.ledger.Held id r file) (hf : SafeSat id seat (f (r, file)) w post) :
    SafeSat id seat (currentRecord id >>= f) w post := by
  have hread : SafeSat id seat (currentRecord id) w fun found w' => w' = w ∧ found = (r, file) := by
    refine safe_readLedger (Attempt.Sat.okOr_bind fun record hrecord => ?_)
    refine Attempt.Sat.okOr_bind fun inode hinode => ⟨rfl, ?_⟩
    obtain rfl := Option.some.inj (hrecord.symm.trans h.memory)
    simp only [recordFileIdentity, h.disk] at hinode
    split at hinode
    · cases hinode
      rfl
    · cases hinode
  exact hread.bind fun found w' hr => by
    rw [hr.1, hr.2]
    exact hf

theorem safe_guardCurrentBoot {view : PreviousBootView} {f : Unit → PreviousBootM β}
    (h : w.ledger.Held id r file)
    (hf : view.currentBoot = some boot → SafeSat id seat (f ()) w post) :
    SafeSat id seat (guardCurrentBoot view (authorityFor boot id r file) >>= f) w post := by
  have hguard : SafeSat id seat (guardCurrentBoot view (authorityFor boot id r file)) w
      fun _ w' => w' = w ∧ view.currentBoot = some boot := by
    refine Attempt.Sat.okOr_bind fun current hcurrent => safe_currentRecord h ?_
    refine Attempt.Sat.require_bind fun hvalid => ?_
    have hboot : boot = current := by
      simp only [PreviousBootFinalizationAuthority.validates, authorityFor, Bool.and_eq_true,
        decide_eq_true_eq] at hvalid
      exact of_decide_eq_true hvalid.1.1.1.1.1
    refine Attempt.Sat.require_bind fun _ => Attempt.Sat.require_bind fun _ => ?_
    refine Attempt.Sat.okOr_bind fun facts _ => ?_
    exact (Attempt.sat_require _ _ _).mono fun _ _ hw => ⟨hw.1, hboot ▸ hcurrent⟩
  exact hguard.bind fun _ _ hw => hw.1 ▸ hf hw.2

theorem safe_commitAdvance (write : RecordWrite) (h : w.ledger.Held id r file) :
    SafeSat id seat (commitAdvance (authorityFor boot id r file) write) w fun a w' =>
      ∃ next file', a = authorityFor boot id next file' ∧ w'.ledger.Held id next file' ∧
        WriteResult r write next := by
  have hwrite : SafeSat id seat (persist id write .io) w fun _ w' => ∃ next file',
      w'.ledger.Held id next file' ∧ WriteResult r write next := by
    refine Attempt.sat_perform rfl fun x _ hok => ?_
    simp only [StartupWorld.perform, StartupWorld.onLedger] at hok ⊢
    rcases w.ledger.write_cases id write x.write with hw | ⟨r', next, hget, happly, -, -, hw⟩
    · rw [hw] at hok
      cases hok
    · obtain rfl := Option.some.inj (hget.symm.trans h.memory)
      have hid : next.lifecycleId = id := by
        rw [(writeResult_of_apply happly).lifecycleId, lifecycleId_of_get hget]
      rw [hw] at hok ⊢
      split at hok
      next hsynced =>
        rw [if_pos hsynced]
        refine ⟨next, w.ledger.freshInode, ⟨?_, ?_⟩, writeResult_of_apply happly⟩
        · rw [get_putRecord, if_pos hid.symm]
        · rw [file_putRecord, file_putFile, if_pos hid.symm]
      · cases hok
  refine hwrite.bind fun _ w' ⟨next, file', hheld, hresult⟩ => ?_
  refine safe_currentRecord hheld ⟨next, file', ?_, hheld, hresult⟩
  simp only [authorityFor, hresult.createdBoot, hresult.seat]

/-- While the record is there the journal may say anything about it. -/
theorem safe_persistEntry {journal : HistoricalFinalizationJournal}
    {entry : HistoricalFinalizationEntry} {f : HistoricalFinalizationJournal → PreviousBootM β}
    (hid : entry.recordId = id)
    (hsafe : w.ledger.file id = none → entry.stage.afterUnlink = true)
    (hf : ∀ w', w'.ledger = { w.ledger with journal := .stored (journal.upsert entry) } →
      SafeSat id seat (f (journal.upsert entry)) w' post) :
    SafeSat id seat (persistEntry journal entry >>= f) w post := by
  subst hid
  have hpersist : SafeSat entry.recordId seat (persistEntry journal entry) w
      fun journal' w' => journal' = journal.upsert entry ∧
        w'.ledger = { w.ledger with journal := .stored (journal.upsert entry) } := by
    have hstore : SafeSat entry.recordId seat (.perform (.persistJournal (journal.upsert entry)) .io)
        w fun _ w' =>
          w'.ledger = { w.ledger with journal := .stored (journal.upsert entry) } := by
      refine Attempt.sat_perform (fun hgone => ⟨entry,
        HistoricalFinalizationJournal.entry_upsert_self journal entry, hsafe hgone⟩)
        fun x _ hok => ?_
      simp only [StartupWorld.perform, StartupWorld.onLedger] at hok ⊢
      rcases w.ledger.persistJournal_cases (journal.upsert entry) x.journal with
        hp | ⟨-, -, -, hp⟩
      · rw [hp] at hok
        cases hok
      · rw [hp]
    exact hstore.bind fun _ w' hw => ⟨rfl, hw⟩
  exact hpersist.bind fun journal' w' hw => by
    rw [hw.1]
    exact hf w' hw.2

end Steps

/-- The record is gone, its seat is free, and the journal on disk says so. -/
structure Published (start : HistoricalFinalizationJournal) (id seat : String)
    (l : PersistentRecoveryLedger) : Prop where
  memory : l.get id = none
  disk : l.file id = none
  seatFree : l.seatStartupQuarantined seat = false
  journal : ∃ e, e.recordId = id ∧ e.stage = .freePublished ∧ l.journal = .stored (start.upsert e)

section Tail
variable {id seat boot : String} {w : StartupWorld} {r : PersistentRecoveryRecord} {file : Nat}
  {start journal : HistoricalFinalizationJournal} {entry : HistoricalFinalizationEntry}
  {host : PreviousBootHost}

theorem safe_removeAndPublish (h : w.ledger.Held id r file) (hstate : r.state = "record_resolved")
    (hreleased : r.operationLedger.runtimeRelease.isConfirmed = true) (hseat : r.seat = seat)
    (hentry : entry.recordId = id) (hj : journal.From start id) :
    SafeSat id seat (removeAndPublish host (authorityFor boot id r file) journal entry) w
      fun _ w' => Published start id seat w'.ledger ∧
        host.beforeUnlink.currentBoot = some boot := by
  have hpresent : ∀ {l : PersistentRecoveryLedger}, l.Held id r file → l.file id ≠ none :=
    fun hl hnone => by simp [hl.disk] at hnone
  refine safe_persistEntry hentry (fun hnone => absurd hnone (hpresent h)) fun w₁ hw₁ => ?_
  have h₁ : w₁.ledger.Held id r file := hw₁ ▸ ⟨h.memory, h.disk⟩
  refine safe_persistEntry hentry (fun hnone => absurd hnone (hpresent h₁)) fun w₂ hw₂ => ?_
  have h₂ : w₂.ledger.Held id r file := hw₂ ▸ ⟨h₁.memory, h₁.disk⟩
  refine safe_guardCurrentBoot h₂ fun hunlink => ?_
  -- the journal on disk now names the sequence and the file that the guard has just seen
  have hready : ∃ r e, w₂.ledger.ReadyToUnlink id file r e :=
    ⟨r, _, h₂, hstate, hreleased, journalEntry_upsert hw₂ hentry, rfl, rfl, rfl⟩
  have hremove : SafeSat id seat (.perform (.removeRecordExact id file) .io) w₂ fun _ w' =>
      w'.ledger.get id = none ∧ w'.ledger.file id = none := by
    refine Attempt.sat_perform ⟨rfl, hready⟩ fun x _ hok => ?_
    simp only [StartupWorld.perform, StartupWorld.onLedger] at hok ⊢
    rw [removeRecordExact_ok hok]
    exact ⟨KeyedList.lookup_erase_self, KeyedList.lookup_erase_self⟩
  refine hremove.bind fun _ w₃ ⟨hget₃, hfile₃⟩ => ?_
  refine safe_persistEntry hentry (fun _ => rfl) fun w₄ hw₄ => ?_
  have hclear : SafeSat id seat (.perform (.clearSeatStartupQuarantine r.seat (.record id)) .io) w₄
      fun _ w' => w'.ledger = w₄.ledger.clearSeatStartupQuarantine seat := by
    refine Attempt.sat_perform ⟨hseat, rfl, ?_, _, journalEntry_upsert hw₄ hentry, rfl⟩
      fun x _ _ => hseat ▸ rfl
    rw [hw₄]
    exact hfile₃
  refine hclear.bind fun _ w₅ hw₅ => ?_
  refine safe_persistEntry hentry (fun _ => rfl) fun w₆ hw₆ => ?_
  refine ⟨⟨?_, ?_, ?_, { entry.follow (authorityFor boot id r file) .runtimeReleaseConfirmed with
    stage := .freePublished }, hentry, rfl, ?_⟩, hunlink⟩
  · rw [hw₆, hw₅, hw₄]
    exact hget₃
  · rw [hw₆, hw₅, hw₄]
    exact hfile₃
  · rw [hw₆, hw₅]
    simp [seatStartupQuarantined, clearSeatStartupQuarantine]
  · rw [hw₆]
    dsimp only
    rw [HistoricalFinalizationJournal.upsert_upsert, HistoricalFinalizationJournal.upsert_upsert,
      HistoricalFinalizationJournal.upsert_upsert, hj.upsert]
    · exact hentry
    all_goals rfl

/-- The authority is for the record as it is now, in this state. -/
def Reached (boot id seat state : String) (a : PreviousBootFinalizationAuthority)
    (w : StartupWorld) : Prop :=
  ∃ r file, a = authorityFor boot id r file ∧ w.ledger.Held id r file ∧ r.seat = seat ∧
    r.state = state

theorem safe_advanceRuntimeRelease (state : DurableOperationState) (h : w.ledger.Held id r file) :
    SafeSat id seat (advanceRuntimeRelease (authorityFor boot id r file) state) w fun a w' =>
      ∃ next file', a = authorityFor boot id next file' ∧ w'.ledger.Held id next file' ∧
        next.seat = r.seat ∧ next.state = "record_resolved" ∧
        next.operationLedger.runtimeRelease = state := by
  refine safe_currentRecord h (Attempt.Sat.require_bind fun _ => ?_)
  refine (safe_commitAdvance _ h).mono fun a w' ⟨next, file', ha, hheld, hresult⟩ => ?_
  refine ⟨next, file', ha, hheld, hresult.seat, hresult.state, ?_⟩
  rw [hresult.operations]
  rfl

/-- The release is on record as intended or confirmed, and the record is still the resolved one. -/
theorem safe_runtimeReleaseIntent (h : w.ledger.Held id r file)
    (hstate : r.state = "record_resolved") (hentry : entry.recordId = id)
    (hj : journal.From start id) :
    SafeSat id seat (runtimeReleaseIntent (authorityFor boot id r file) journal entry r) w
      fun result w' => Reached boot id r.seat "record_resolved" result.1 w' ∧
        result.2.2.From start id := by
  have hhere : Reached boot id r.seat "record_resolved" (authorityFor boot id r file) w :=
    ⟨r, file, rfl, h, rfl, hstate⟩
  unfold runtimeReleaseIntent
  split
  · refine Attempt.Sat.okOr_bind fun attempt _ => ?_
    refine (safe_advanceRuntimeRelease _ h).bind fun a w₁ ⟨next, file', ha, hheld, hseat, hs, hr⟩ => ?_
    subst ha
    refine safe_persistEntry hentry (fun hnone => by simp [hheld.disk] at hnone) fun w₂ hw₂ => ?_
    have hheld₂ : w₂.ledger.Held id next file' := hw₂ ▸ ⟨hheld.memory, hheld.disk⟩
    refine safe_readRecord hheld₂ ?_
    rw [hr]
    exact ⟨⟨next, file', rfl, hheld₂, hseat, hs⟩, hj.upserted _ hentry⟩
  · exact ⟨hhere, hj⟩
  · exact ⟨hhere, hj⟩
  · exact Attempt.sat_fail _ _ _
  · exact Attempt.sat_fail _ _ _

theorem safe_runtimeReleaseConfirmed (attempt : Nat) (h : w.ledger.Held id r file)
    (hstate : r.state = "record_resolved") :
    SafeSat id seat (runtimeReleaseConfirmed (authorityFor boot id r file) attempt) w fun a w' =>
      ∃ next file', a = authorityFor boot id next file' ∧ w'.ledger.Held id next file' ∧
        next.seat = r.seat ∧ next.state = "record_resolved" ∧
        next.operationLedger.runtimeRelease.isConfirmed = true := by
  refine safe_readRecord h ?_
  split
  next hconfirmed => exact ⟨r, file, rfl, h, rfl, hstate, hconfirmed⟩
  next =>
    refine (safe_advanceRuntimeRelease _ h).mono
      fun a w' ⟨next, file', ha, hheld, hseat, hs, hr⟩ => ⟨next, file', ha, hheld, hseat, hs, ?_⟩
    rw [hr]
    rfl

/-- From the resolved record on, success means that the record went and its seat is free. -/
theorem safe_authorityForRuntime (h : w.ledger.Held id r file)
    (hstate : r.state = "record_resolved") (hseat : r.seat = seat) (hentry : entry.recordId = id)
    (hj : journal.From start id) :
    SafeSat id seat (authorityForRuntime host (authorityFor boot id r file) journal entry) w
      fun _ w' => Published start id seat w'.ledger ∧
        host.beforeRelease.currentBoot = some boot ∧
        host.beforeUnlink.currentBoot = some boot := by
  refine safe_readRecord h ?_
  refine (safe_runtimeReleaseIntent h hstate hentry hj).bind
    fun (intent, attempt, journal') w₁ ⟨⟨r₁, file₁, ha₁, h₁, hseat₁, hstate₁⟩, hj₁⟩ => ?_
  subst ha₁
  refine safe_guardCurrentBoot h₁ fun hrelease => ?_
  refine (safe_runtimeReleaseConfirmed attempt h₁ hstate₁).bind
    fun confirmed w₂ ⟨r₂, file₂, ha₂, h₂, hseat₂, hstate₂, hconfirmed⟩ => ?_
  subst ha₂
  have hseat' : r₂.seat = seat := by rw [hseat₂, hseat₁, hseat]
  exact (safe_removeAndPublish h₂ hstate₂ hconfirmed hseat' hentry hj₁).mono
    fun _ _ hw => ⟨hw.1, hrelease, hw.2⟩

end Tail

section Validation
variable {l : PersistentRecoveryLedger}

theorem validateEntry_of_validateEntries {seen : List String}
    {entries : List HistoricalFinalizationEntry}
    (h : HistoricalFinalizationJournal.validateEntries l seen entries = none) :
    ∀ e ∈ entries, validateEntry l e = none := by
  induction entries generalizing seen with
  | nil => simp
  | cons entry rest ih =>
    unfold HistoricalFinalizationJournal.validateEntries at h
    split at h
    · cases h
    · split at h
      · cases h
      next hentry =>
        intro e he
        rcases List.mem_cons.mp he with rfl | he
        · exact hentry
        · exact ih h e he

/-- A record that is not resolved is not past its resolution in a journal that agrees with it. -/
theorem resolutionDone_eq_false {journal : HistoricalFinalizationJournal} {id : String}
    {r : PersistentRecoveryRecord} (h : journal.validateAgainstLedger l = none)
    (hget : l.get id = some r) (hstate : r.state ≠ "record_resolved") :
    resolutionDone ((journal.entry id).map (·.stage)) = false := by
  cases hentry : journal.entry id with
  | none => rfl
  | some e =>
    have hid : e.recordId = id := by simpa using List.find?_some hentry
    have hvalid := validateEntry_of_validateEntries h e (List.mem_of_find?_eq_some hentry)
    simp only [validateEntry, hid, hget] at hvalid
    split_ifs at hvalid with _ _ hgone hresolved
    simp only [hstate, not_or, and_true, ne_eq, not_false_eq_true] at hgone hresolved
    rw [Option.map_some]
    cases hs : e.stage <;>
      simp_all [resolutionDone, HistoricalFinalizationStage.needsResolved]

end Validation

/-- The views of the host that a successful finalization asks for, by the plan and by the state the
record is in before it. -/
def PreviousBootHost.asked (host : PreviousBootHost) (plan : PreviousBootRecoveryPlan)
    (state : String) : List PreviousBootView :=
  let resolution :=
    if state = "previous_boot_resolution_intent" then [host.beforeResolved]
    else [host.beforeIntent, host.beforeResolved]
  host.revalidated :: (if plan = .resolveHistoricalRecord then resolution else []) ++
    [host.beforeRelease, host.beforeUnlink]

theorem PreviousBootHost.boot_of_asked {host : PreviousBootHost} {plan : PreviousBootRecoveryPlan}
    {state boot : String} (hrevalidated : host.revalidated.currentBoot = some boot)
    (hintent : plan = .resolveHistoricalRecord → state ≠ "previous_boot_resolution_intent" →
      host.beforeIntent.currentBoot = some boot)
    (hresolved : plan = .resolveHistoricalRecord → host.beforeResolved.currentBoot = some boot)
    (hrelease : host.beforeRelease.currentBoot = some boot)
    (hunlink : host.beforeUnlink.currentBoot = some boot) :
    ∀ view ∈ host.asked plan state, view.currentBoot = some boot := by
  unfold PreviousBootHost.asked
  by_cases hplan : plan = .resolveHistoricalRecord
  · by_cases hstate : state = "previous_boot_resolution_intent"
    · simp [hplan, hstate, hrevalidated, hresolved hplan, hrelease, hunlink]
    · simp [hplan, hstate, hrevalidated, hintent hplan hstate, hresolved hplan, hrelease, hunlink]
  · simp [hplan, hrevalidated, hrelease, hunlink]

section Execution
variable {id seat boot : String} {w : StartupWorld} {r : PersistentRecoveryRecord} {file : Nat}
  {start journal : HistoricalFinalizationJournal} {entry : HistoricalFinalizationEntry}
  {host : PreviousBootHost}

theorem safe_openEntry (existing : Option HistoricalFinalizationStage)
    (h : w.ledger.Held id r file) (hentry : entry.recordId = id) (hj : journal.From start id) :
    SafeSat id seat (openEntry journal entry existing) w fun result w' =>
      w'.ledger.Held id r file ∧ result.2.recordId = id ∧ result.1.From start id := by
  cases existing with
  | some stage => exact ⟨h, hentry, hj⟩
  | none =>
    refine safe_persistEntry hentry (fun hnone => by simp [h.disk] at hnone) fun w₁ hw₁ => ?_
    have h₁ : w₁.ledger.Held id r file := hw₁ ▸ ⟨h.memory, h.disk⟩
    refine safe_persistEntry hentry (fun hnone => by simp [h₁.disk] at hnone) fun w₂ hw₂ => ?_
    have h₂ : w₂.ledger.Held id r file := hw₂ ▸ ⟨h₁.memory, h₁.disk⟩
    exact ⟨h₂, hentry, (hj.upserted _ hentry).upserted _ hentry⟩

theorem safe_reachResolutionIntent (h : w.ledger.Held id r file) :
    SafeSat id seat (reachResolutionIntent host (authorityFor boot id r file) r) w fun a w' =>
      Reached boot id r.seat "previous_boot_resolution_intent" a w' ∧
        (r.state ≠ "previous_boot_resolution_intent" →
          host.beforeIntent.currentBoot = some boot) := by
  unfold reachResolutionIntent
  split
  next hstate => exact ⟨⟨r, file, rfl, h, rfl, hstate⟩, absurd hstate⟩
  next =>
    refine safe_guardCurrentBoot h fun hboot => ?_
    refine safe_currentRecord h (Attempt.Sat.require_bind fun _ => ?_)
    refine Attempt.Sat.okOr_bind fun attempt _ => ?_
    refine (safe_commitAdvance _ h).mono fun a w' ⟨next, file', ha, hheld, hresult⟩ => ?_
    exact ⟨⟨next, file', ha, hheld, hresult.seat, hresult.state⟩, fun _ => hboot⟩

theorem safe_advanceRecordResolved (h : w.ledger.Held id r file) :
    SafeSat id seat (advanceRecordResolved (authorityFor boot id r file)) w fun a w' =>
      Reached boot id r.seat "record_resolved" a w' := by
  refine safe_currentRecord h (Attempt.Sat.require_bind fun _ => ?_)
  refine Attempt.Sat.check_bind fun attempt _ => ?_
  exact (safe_commitAdvance _ h).mono fun a w' ⟨next, file', ha, hheld, hresult⟩ =>
    ⟨next, file', ha, hheld, hresult.seat, hresult.state⟩

theorem safe_reachRecordResolved (h : w.ledger.Held id r file)
    (hstate : r.state = "previous_boot_resolution_intent") :
    SafeSat id seat (reachRecordResolved host (authorityFor boot id r file)) w fun a w' =>
      Reached boot id r.seat "record_resolved" a w' ∧
        host.beforeResolved.currentBoot = some boot := by
  refine safe_readRecord h ?_
  rw [if_neg (by rw [hstate]; decide)]
  refine safe_guardCurrentBoot h fun hboot => ?_
  exact (safe_advanceRecordResolved h).mono fun _ _ hw => ⟨hw, hboot⟩

theorem safe_resolveHistoricalRecord (existing : Option HistoricalFinalizationStage)
    (h : w.ledger.Held id r file) (hseat : r.seat = seat) (hentry : entry.recordId = id)
    (hj : journal.From start id) :
    SafeSat id seat
      (resolveHistoricalRecord host (authorityFor boot id r file) journal entry existing r) w
      fun _ w' => Published start id seat w'.ledger ∧
        (r.state ≠ "previous_boot_resolution_intent" →
          host.beforeIntent.currentBoot = some boot) ∧
        host.beforeResolved.currentBoot = some boot ∧
        host.beforeRelease.currentBoot = some boot ∧
        host.beforeUnlink.currentBoot = some boot := by
  refine (safe_openEntry existing h hentry hj).bind fun (journal₁, entry₁) w₁ ⟨h₁, hentry₁, hj₁⟩ => ?_
  refine (safe_reachResolutionIntent h₁).bind
    fun a₂ w₂ ⟨⟨r₂, file₂, ha₂, h₂, hseat₂, hstate₂⟩, hintent⟩ => ?_
  subst ha₂
  refine safe_persistEntry hentry₁ (fun hnone => by simp [h₂.disk] at hnone) fun w₃ hw₃ => ?_
  have h₃ : w₃.ledger.Held id r₂ file₂ := hw₃ ▸ ⟨h₂.memory, h₂.disk⟩
  have hj₃ := hj₁.upserted (entry₁.follow (authorityFor boot id r₂ file₂) entry₁.stage) hentry₁
  refine (safe_reachRecordResolved h₃ hstate₂).bind
    fun a₄ w₄ ⟨⟨r₄, file₄, ha₄, h₄, hseat₄, hstate₄⟩, hresolved⟩ => ?_
  subst ha₄
  refine safe_persistEntry hentry₁ (fun hnone => by simp [h₄.disk] at hnone) fun w₅ hw₅ => ?_
  have h₅ : w₅.ledger.Held id r₄ file₄ := hw₅ ▸ ⟨h₄.memory, h₄.disk⟩
  have hseat₅ : r₄.seat = seat := by rw [hseat₄, hseat₂, hseat]
  have hj₅ := hj₃.upserted ((entry₁.follow (authorityFor boot id r₂ file₂) entry₁.stage).follow
    (authorityFor boot id r₄ file₄) .recordResolved) hentry₁
  refine Attempt.Sat.mono (safe_authorityForRuntime h₅ hstate₄ hseat₅ hentry₁ hj₅) ?_
  exact fun _ _ hw => ⟨hw.1, hintent, hresolved, hw.2⟩

theorem safe_finalizeAlreadyResolvedRecord (h : w.ledger.Held id r file)
    (hstate : r.state = "record_resolved") (hseat : r.seat = seat) (hentry : entry.recordId = id)
    (hj : journal.From start id) :
    SafeSat id seat
      (finalizeAlreadyResolvedRecord host (authorityFor boot id r file) journal entry) w
      fun _ w' => Published start id seat w'.ledger ∧
        host.beforeRelease.currentBoot = some boot ∧
        host.beforeUnlink.currentBoot = some boot := by
  refine safe_readRecord h ?_
  dsimp only
  split
  · refine (safe_advanceRecordResolved h).bind
      fun a w₁ ⟨r₁, file₁, ha, h₁, hseat₁, hstate₁⟩ => ?_
    subst ha
    exact safe_authorityForRuntime h₁ hstate₁ (hseat₁.trans hseat) hentry hj
  · exact safe_authorityForRuntime h hstate hseat hentry hj

theorem safe_revalidate {view : PreviousBootView} {original : PersistentRecoveryRecord}
    {facts : PreviousBootCurrentFacts} {plan : PreviousBootRecoveryPlan}
    (h : w.ledger.Held original.lifecycleId r file) :
    SafeSat original.lifecycleId seat (revalidate view original boot facts plan file) w fun a w' =>
      w' = w ∧ a = authorityFor boot original.lifecycleId r file ∧ view.currentBoot = some boot ∧
        r.createdBootId ≠ boot ∧
        ∃ fresh, view.facts = some fresh ∧ plan = planPreviousBootReconciliation r fresh := by
  refine Attempt.Sat.require_bind fun hboot => safe_currentRecord h ?_
  refine Attempt.Sat.require_bind fun _ => Attempt.Sat.require_bind fun _ => ?_
  refine Attempt.Sat.require_bind fun hprevious => ?_
  refine Attempt.Sat.okOr_bind fun fresh hfresh => Attempt.Sat.require_bind fun hplan => ?_
  simp only [decide_eq_true_eq] at hboot hprevious hplan
  refine ⟨rfl, ?_, hboot, hprevious, fresh, hfresh, hplan.2.2.1⟩
  rw [authorityFor, lifecycleId_of_get h.memory]

structure FinalizationGrounds (host : PreviousBootHost) (r : PersistentRecoveryRecord)
    (plan : PreviousBootRecoveryPlan) (boot : String) : Prop where
  resolving : plan = .resolveHistoricalRecord ∨ plan = .finalizeAlreadyResolvedRecord
  replanned : ∃ fresh, host.revalidated.facts = some fresh ∧
    plan = planPreviousBootReconciliation r fresh
  previousBoot : r.createdBootId ≠ boot
  boots : ∀ view ∈ host.asked plan r.state, view.currentBoot = some boot

theorem safe_executePreviousBootPlan {record : PersistentRecoveryRecord}
    {facts : PreviousBootCurrentFacts} {plan : PreviousBootRecoveryPlan}
    (h : w.ledger.Held record.lifecycleId r file) :
    SafeSat record.lifecycleId r.seat (executePreviousBootPlan host record boot facts plan) w
      fun outcome w' => outcome = .seatFreed → FinalizationGrounds host r plan boot ∧
        ∃ journal, w.ledger.loadJournal = some journal ∧
          Published journal record.lifecycleId r.seat w'.ledger := by
  unfold executePreviousBootPlan
  split
  · exact nofun
  next hplan =>
    refine safe_readLedger (Attempt.Sat.okOr_bind fun inode hinode => ?_)
    obtain rfl : inode = file := by
      simp only [recordFileIdentity, h.disk] at hinode
      split at hinode
      · exact (Option.some.inj hinode).symm
      · cases hinode
    refine (safe_revalidate h).bind fun a w' ⟨hw, ha, hboot, hprevious, fresh, hfresh, hfreshPlan⟩ => ?_
    subst hw ha
    refine safe_readLedger (Attempt.Sat.okOr_bind fun journal hjournal => ?_)
    refine Attempt.Sat.check_bind fun _ hvalid => ?_
    have hvalidated : journal.validateAgainstLedger w'.ledger = none := by
      split at hvalid
      · cases hvalid
      next hnone => exact hnone
    refine safe_readRecord h ?_
    dsimp only
    split
    next hresolve =>
      obtain ⟨rfl, -⟩ := hresolve
      refine Attempt.Sat.mono (safe_resolveHistoricalRecord _ h rfl rfl (Or.inl rfl)) ?_
      intro _ w'' ⟨hpublished, hintent, hresolved, hrelease, hunlink⟩ _
      exact ⟨⟨Or.inl rfl, ⟨fresh, hfresh, hfreshPlan⟩, hprevious, PreviousBootHost.boot_of_asked
        hboot (fun _ => hintent) (fun _ => hresolved) hrelease hunlink⟩, journal, hjournal,
        hpublished⟩
    next hresolve =>
      -- a resolving plan is for an unresolved record, which no valid journal is past
      have hne : plan ≠ .resolveHistoricalRecord := fun heq =>
        hresolve ⟨heq, resolutionDone_eq_false hvalidated h.memory
          (state_of_resolveHistoricalRecord (hfreshPlan.symm.trans heq))⟩
      obtain rfl : plan = .finalizeAlreadyResolvedRecord := by
        by_contra hother
        exact hplan ⟨hne, hother⟩
      have hstate := state_of_finalizeAlreadyResolvedRecord hfreshPlan.symm
      refine Attempt.Sat.mono
        (safe_finalizeAlreadyResolvedRecord h hstate rfl rfl (Or.inl rfl)) ?_
      intro _ w'' ⟨hpublished, hrelease, hunlink⟩ _
      exact ⟨⟨Or.inr rfl, ⟨fresh, hfresh, hfreshPlan⟩, hprevious, PreviousBootHost.boot_of_asked
        hboot (absurd · hne) (absurd · hne) hrelease hunlink⟩, journal, hjournal, hpublished⟩

end Execution

section Runs

abbrev Finalizing :=
  StartupWorld × Program StartupWorld StartupRequest
    (Except PreviousBootFinalizationError PreviousBootFinalizationOutcome)

/-- The finalization after the first `n` of these answers. -/
def Finalizing.after (s : Finalizing) (answers : List StartupAnswer) (n : Nat) : Finalizing :=
  (answers.take n).foldl (Program.step StartupWorld.perform) s

def Finalizing.freed (s : Finalizing) : Bool :=
  match s.2 with
  | .done (.ok .seatFreed) => true
  | _ => false

theorem Finalizing.done_of_freed {s : Finalizing} (h : s.freed = true) :
    s.2 = .done (.ok .seatFreed) := by
  unfold freed at h
  split at h
  · assumption
  · cases h

variable (host : PreviousBootHost) (w : StartupWorld) (record : PersistentRecoveryRecord)
  (boot : String) (facts : PreviousBootCurrentFacts) (plan : PreviousBootRecoveryPlan)

def Finalizing.begin : Finalizing := (w, executePreviousBootPlan host record boot facts plan)

theorem admits_all (s : Finalizing) (answers : List StartupAnswer) :
    StepsMeet (Program.step StartupWorld.perform) (Program.Admits fun _ _ _ => True) s answers :=
  stepsMeet_of_getElem fun _ _ _ _ _ => trivial

/-- Wherever a finalization is stopped, a record file that is gone was announced in the journal on
disk; the file is unlinked only when it holds the finished record that the journal names, and the
seat is cleared only when the journal says that the record went. It reports a freed seat only on a
plan that fresh facts confirm, with one boot in all that the host said, and after such an unlink. -/
theorem previous_boot_finalization_safe {r : PersistentRecoveryRecord} {file : Nat}
    (h : w.ledger.Held record.lifecycleId r file) (answers : List StartupAnswer) :
    let reached := (Finalizing.begin host w record boot facts plan).after answers
    (∀ n, (reached n).1.ledger.RemovalAnnounced record.lifecycleId) ∧
    (∀ n id file', (reached n).2.pending = some (.removeRecordExact id file') →
      id = record.lifecycleId ∧ ∃ r' e, (reached n).1.ledger.ReadyToUnlink id file' r' e) ∧
    (∀ n seat cause, (reached n).2.pending = some (.clearSeatStartupQuarantine seat cause) →
      seat = r.seat ∧ cause = .record record.lifecycleId ∧ (reached n).1.ledger.file record.lifecycleId = none ∧
        ∃ e, (reached n).1.ledger.journalEntry record.lifecycleId = some e ∧ e.stage = .removed) ∧
    ((reached answers.length).freed = true →
      FinalizationGrounds host r plan boot ∧
      (∃ n file' r' e, n < answers.length ∧
        (reached n).2.pending = some (.removeRecordExact record.lifecycleId file') ∧
        (reached n).1.ledger.ReadyToUnlink record.lifecycleId file' r' e ∧
        (reached (n + 1)).1.ledger.file record.lifecycleId = none) ∧
      ∃ journal, w.ledger.loadJournal = some journal ∧ Published journal record.lifecycleId r.seat
        (reached answers.length).1.ledger) := by
  intro reached
  have hstart : SafeSat record.lifecycleId r.seat
      (executePreviousBootPlan host record boot facts plan) w _ := safe_executePreviousBootPlan h
  have hsat : ∀ n, Program.Sat StartupWorld.perform (fun _ _ _ => True)
      (fun w => w.ledger.SafeRequest record.lifecycleId r.seat) (reached n).2 (reached n).1
      (Attempt.onOk _) := fun n => Program.Sat.steps hstart (admits_all _ (answers.take n))
  refine ⟨fun n => ?_, fun n id file' hpending => ?_, fun n seat cause hpending => ?_,
    fun hdone => ?_⟩
  · refine Program.Sat.steps_invariant hstart (·.ledger.RemovalAnnounced record.lifecycleId)
      (fun _ _ x hs hsafe _ => removalAnnounced_perform hs hsafe x) (fun hnone => ?_)
      (admits_all _ (answers.take n))
    rw [h.disk] at hnone
    cases hnone
  · obtain ⟨rfl, hready⟩ := Program.Sat.pending (hsat n) hpending
    exact ⟨rfl, hready⟩
  · exact Program.Sat.pending (hsat n) hpending
  · have hpost := hsat answers.length
    rw [Finalizing.done_of_freed hdone] at hpost
    obtain ⟨hgrounds, journal, hjournal, hpublished⟩ := hpost rfl
    refine ⟨hgrounds, ?_, journal, hjournal, hpublished⟩
    -- the file was there at the start, so one request took it away
    have hfile : ¬(reached 0).1.ledger.file record.lifecycleId = none := by
      show ¬w.ledger.file record.lifecycleId = none
      rw [h.disk]
      nofun
    have hgone := hpublished.disk
    simp only [reached, Finalizing.after, List.take_length] at hgone
    obtain ⟨n, x, hx, hbefore, hafter⟩ := exists_step_of_change
      (P := fun s : Finalizing => s.1.ledger.file record.lifecycleId = none) hfile hgone
    rcases Program.step_cases StartupWorld.perform (reached n) x with
      hsame | ⟨request, hpending, hperform⟩
    · exact absurd (hsame ▸ hafter) hbefore
    · obtain ⟨file', r', e, rfl, hready⟩ := unlink_of_file_gone
        (Program.Sat.pending (hsat n) hpending) hbefore (hperform ▸ hafter)
      refine ⟨n, file', r', e, (List.getElem?_eq_some_iff.mp hx).1, hpending, hready, ?_⟩
      simp only [reached, Finalizing.after, foldl_take_succ hx]
      exact hafter

end Runs

section Sample

def leftRecord : PersistentRecoveryRecord where
  lifecycleId := "worker-1"
  sequence := 3
  createdBootId := "boot-0"
  lastUpdatedBootId := "boot-0"
  state := "started"
  uid := 1000
  seat := "seat0"
  workerPid := 41
  launcherPid := 40

def clearFacts : PreviousBootCurrentFacts where
  authorityStable := true
  seat := ⟨.unclaimed, true⟩

/-- Nothing of the earlier boot is left, and nothing changes. -/
def clearHost : PreviousBootHost :=
  let view := ⟨some "boot-1", some clearFacts⟩
  ⟨some clearFacts, view, view, view, view, view⟩

def leftWorld : StartupWorld where
  ledger := { records := [leftRecord], files := [⟨1, leftRecord⟩]
              startupQuarantinedSeats := ["seat0"] }

def leftFinalizing : Finalizing :=
  .begin clearHost leftWorld leftRecord "boot-1" clearFacts .resolveHistoricalRecord

def allSynced : List StartupAnswer := List.replicate 50 { write := ⟨some "boot-1", .synced⟩ }

theorem leftRecord_freed : (leftFinalizing.after allSynced 50).freed = true ∧
    FinalizationGrounds clearHost leftRecord .resolveHistoricalRecord "boot-1" := by
  have hfreed : (leftFinalizing.after allSynced 50).freed = true := by decide +kernel
  have hsafe := previous_boot_finalization_safe clearHost leftWorld leftRecord "boot-1" clearFacts
    .resolveHistoricalRecord (r := leftRecord) ⟨rfl, rfl⟩ allSynced
  exact ⟨hfreed, (hsafe.2.2.2 hfreed).1⟩

end Sample

end Niralis
