import Niralis.PreviousBootSafety

namespace Niralis
open PersistentRecoveryLedger

/-- The disk takes every write, and the boot is known. -/
def takesAll (boot : String) : StartupAnswer := { write := ⟨some boot, .synced⟩ }

structure PreviousBootView.Steady (view : PreviousBootView) (boot : String) : Prop where
  currentBoot : view.currentBoot = some boot
  facts : ∃ facts, view.facts = some facts ∧ facts.authorityStable = true ∧
    facts.inspectionFailed = false

/-- Neither limit keeps the journal from being stored. -/
def HistoricalFinalizationJournal.Fits (journal : HistoricalFinalizationJournal) (device : Nat) :
    Prop :=
  journal.entries.length ≤ maxJournalEntries ∧ journal.jsonBytes device ≤ maxRecoveryRecordBytes

/-- A record of an earlier boot whose name can be a file's. -/
structure PersistentRecoveryRecord.OfEarlierBoot (r : PersistentRecoveryRecord) (boot : String) :
    Prop where
  valid : bootIdentityValid r.createdBootId = true
  previous : r.createdBootId ≠ boot
  name : validateLifecycleId r.lifecycleId = true

abbrev Attains {β : Type} (boot : String) (p : PreviousBootM β) (w : StartupWorld)
    (post : β → StartupWorld → Prop) : Prop :=
  p.Attains StartupWorld.perform (takesAll boot) w post

section Steps
variable {id boot : String} {w : StartupWorld} {r : PersistentRecoveryRecord} {file : Nat}
  {β : Type} {post : β → StartupWorld → Prop}

theorem recordFileIdentity_of_held {l : PersistentRecoveryLedger} (h : l.Held id r file)
    (hname : validateLifecycleId r.lifecycleId = true) : l.recordFileIdentity id = some file := by
  rw [lifecycleId_of_get h.memory] at hname
  simp [recordFileIdentity, hname, h.disk]

theorem attains_readLedger {f : PersistentRecoveryLedger → PreviousBootM β}
    (hf : Attains boot (f w.ledger) w post) : Attains boot (readLedger >>= f) w post := by
  have hread : Attains boot (readLedger : PreviousBootM _) w
      fun ledger w' => ledger = w.ledger ∧ w' = w := ⟨w.ledger, w, rfl, rfl, rfl⟩
  exact hread.bind fun ledger w' hr => by
    rw [hr.1, hr.2]
    exact hf

theorem attains_readRecord {e : PreviousBootFinalizationError}
    {f : PersistentRecoveryRecord → PreviousBootM β} (h : w.ledger.Held id r file)
    (hf : Attains boot (f r) w post) : Attains boot (readRecord id e >>= f) w post := by
  have hread : Attains boot (readRecord id e) w fun record w' => record = r ∧ w' = w := by
    refine attains_readLedger ?_
    rw [h.memory]
    exact Attempt.attains_pure ⟨rfl, rfl⟩
  exact hread.bind fun record w' hr => by
    rw [hr.1, hr.2]
    exact hf

theorem attains_currentRecord {f : PersistentRecoveryRecord × Nat → PreviousBootM β}
    (h : w.ledger.Held id r file) (he : r.OfEarlierBoot boot)
    (hf : Attains boot (f (r, file)) w post) : Attains boot (currentRecord id >>= f) w post := by
  have hread : Attains boot (currentRecord id) w fun found w' => found = (r, file) ∧ w' = w :=
    attains_readLedger <| .okOr_bind h.memory <|
      .okOr_bind (recordFileIdentity_of_held h he.name) (Attempt.attains_pure ⟨rfl, rfl⟩)
  exact hread.bind fun found w' hr => by
    rw [hr.1, hr.2]
    exact hf

theorem validates_authorityFor (h : w.ledger.Held id r file) :
    (authorityFor boot id r file).validates r boot file = true := by
  simp [PreviousBootFinalizationAuthority.validates, authorityFor, lifecycleId_of_get h.memory]

theorem attains_guardCurrentBoot {view : PreviousBootView} {f : Unit → PreviousBootM β}
    (h : w.ledger.Held id r file) (he : r.OfEarlierBoot boot) (hview : view.Steady boot)
    (hf : Attains boot (f ()) w post) :
    Attains boot (guardCurrentBoot view (authorityFor boot id r file) >>= f) w post := by
  have hguard : Attains boot (guardCurrentBoot view (authorityFor boot id r file)) w
      fun _ w' => w' = w := by
    obtain ⟨facts, hfacts, hstable, hinspected⟩ := hview.facts
    refine .okOr_bind hview.currentBoot (attains_currentRecord h he ?_)
    refine .require_bind (validates_authorityFor h) (.require_bind he.valid ?_)
    refine .require_bind (decide_eq_true he.previous) (.okOr_bind hfacts ?_)
    rw [hstable, hinspected]
    exact Attempt.attains_pure rfl
  exact hguard.bind fun _ w' hw => hw ▸ hf

theorem attains_persistEntry {journal : HistoricalFinalizationJournal}
    {entry : HistoricalFinalizationEntry} {f : HistoricalFinalizationJournal → PreviousBootM β}
    (hfits : (journal.upsert entry).Fits w.ledger.device)
    (hf : ∀ w', w'.ledger = { w.ledger with journal := .stored (journal.upsert entry) } →
      Attains boot (f (journal.upsert entry)) w' post) :
    Attains boot (persistEntry journal entry >>= f) w post := by
  have hstored : w.ledger.persistJournal (journal.upsert entry) .synced =
      (true, { w.ledger with journal := .stored (journal.upsert entry) }) := by
    unfold persistJournal
    rw [if_neg (Nat.not_lt.mpr hfits.1), if_neg (Nat.not_lt.mpr hfits.2)]
  have hpersist : Attains boot (persistEntry journal entry) w fun journal' w' =>
      journal' = journal.upsert entry ∧
        w'.ledger = { w.ledger with journal := .stored (journal.upsert entry) } := by
    have hperform : Attains boot (.perform (.persistJournal (journal.upsert entry)) .io) w fun _ w' =>
        w'.ledger = { w.ledger with journal := .stored (journal.upsert entry) } :=
      Attempt.attains_perform (congrArg Prod.fst hstored) (congrArg Prod.snd hstored)
    exact hperform.bind fun _ w' hw => Attempt.attains_pure ⟨rfl, hw⟩
  exact hpersist.bind fun journal' w' hw => hw.1 ▸ hf w' hw.2

theorem attains_removeRecordExact (h : w.ledger.Held id r file)
    (hname : validateLifecycleId r.lifecycleId = true) (hstate : r.state = "record_resolved") :
    Attains boot (.perform (.removeRecordExact id file) .io) w fun _ w' =>
      w'.ledger.device = w.ledger.device := by
  have hok : (w.ledger.removeRecordExact id file .synced).1 = true := by
    simp [removeRecordExact, recordFileIdentity_of_held h hname, removeResolved, h.memory, hstate]
  refine Attempt.attains_perform hok ?_
  simp only [StartupWorld.perform, StartupWorld.onLedger]
  rw [show (takesAll boot).remove = .synced from rfl, removeRecordExact_ok hok]

end Steps

section Tail
variable {id boot : String} {w : StartupWorld} {r : PersistentRecoveryRecord} {file : Nat}
  {host : PreviousBootHost} {journal : HistoricalFinalizationJournal}
  {entry : HistoricalFinalizationEntry}

/-- Every stage of the record's entry leaves the journal within its limits. -/
def HistoricalFinalizationJournal.Takes (journal : HistoricalFinalizationJournal) (device : Nat)
    (entry : HistoricalFinalizationEntry) : Prop :=
  ∀ stage, (journal.upsert { entry with stage }).Fits device

theorem HistoricalFinalizationJournal.Takes.fits {device : Nat}
    {journal' : HistoricalFinalizationJournal} (h : journal.Takes device entry)
    (hfrom : journal'.From journal entry.recordId) (stage : HistoricalFinalizationStage) :
    (journal'.upsert { entry with stage }).Fits device := by
  rw [hfrom.upsert]
  · exact h stage
  · rfl

theorem attains_removeAndPublish (h : w.ledger.Held id r file) (he : r.OfEarlierBoot boot)
    (hstate : r.state = "record_resolved") (hunlink : host.beforeUnlink.Steady boot)
    (htakes : journal.Takes w.ledger.device
      (entry.follow (authorityFor boot id r file) .runtimeReleaseConfirmed)) :
    Attains boot (removeAndPublish host (authorityFor boot id r file) journal entry) w
      fun outcome w' => outcome = .seatFreed ∧ w'.ledger.journal = .stored (journal.upsert
        { entry.follow (authorityFor boot id r file) .runtimeReleaseConfirmed with
          stage := .freePublished }) := by
  refine attains_persistEntry (htakes _) fun w₁ hw₁ => ?_
  have h₁ : w₁.ledger.Held id r file := hw₁ ▸ ⟨h.memory, h.disk⟩
  have hdevice₁ : w₁.ledger.device = w.ledger.device := by rw [hw₁]
  refine attains_persistEntry ?_ fun w₂ hw₂ => ?_
  · rw [hdevice₁]
    refine htakes.fits ?_ _
    exact .upserted _ (.inl rfl) rfl
  have h₂ : w₂.ledger.Held id r file := hw₂ ▸ ⟨h₁.memory, h₁.disk⟩
  refine attains_guardCurrentBoot h₂ he hunlink ?_
  refine (attains_removeRecordExact h₂ he.name hstate).bind fun _ w₃ hw₃ => ?_
  have hdevice₃ : w₃.ledger.device = w.ledger.device := by rw [hw₃, hw₂, hdevice₁]
  refine attains_persistEntry ?_ fun w₄ hw₄ => ?_
  · rw [hdevice₃]
    refine htakes.fits ?_ _
    exact .upserted _ (.upserted _ (.inl rfl) rfl) rfl
  have hclear : Attains boot (.perform (.clearSeatStartupQuarantine r.seat (.record id)) .io) w₄
      fun _ w' => w'.ledger.device = w.ledger.device := by
    refine Attempt.attains_perform rfl ?_
    show w₄.ledger.device = w.ledger.device
    rw [hw₄, hdevice₃]
  refine hclear.bind fun _ w₅ hdevice₅ => ?_
  refine attains_persistEntry ?_ fun w₆ hw₆ => Attempt.attains_pure ⟨rfl, ?_⟩
  · rw [hdevice₅]
    refine htakes.fits ?_ _
    exact .upserted _ (.upserted _ (.upserted _ (.inl rfl) rfl) rfl) rfl
  · rw [hw₆]
    dsimp only
    rw [HistoricalFinalizationJournal.upsert_upsert, HistoricalFinalizationJournal.upsert_upsert,
      HistoricalFinalizationJournal.upsert_upsert]
    all_goals rfl

theorem attains_authorityForRuntime_of_confirmed (h : w.ledger.Held id r file)
    (he : r.OfEarlierBoot boot) (hstate : r.state = "record_resolved")
    (hreleased : r.operationLedger.runtimeRelease.isConfirmed = true)
    (hrelease : host.beforeRelease.Steady boot) (hunlink : host.beforeUnlink.Steady boot)
    (htakes : journal.Takes w.ledger.device
      (entry.follow (authorityFor boot id r file) .runtimeReleaseConfirmed)) :
    Attains boot (authorityForRuntime host (authorityFor boot id r file) journal entry) w
      fun outcome w' => outcome = .seatFreed ∧ w'.ledger.journal = .stored (journal.upsert
        { entry.follow (authorityFor boot id r file) .runtimeReleaseConfirmed with
          stage := .freePublished }) := by
  refine attains_readRecord h ?_
  obtain ⟨attempt, hattempt⟩ : ∃ attempt,
      r.operationLedger.runtimeRelease = .confirmed attempt := by
    cases hr : r.operationLedger.runtimeRelease with
    | confirmed attempt => exact ⟨attempt, rfl⟩
    | notStarted => simp [hr, DurableOperationState.isConfirmed] at hreleased
    | intentPersisted attempt => simp [hr, DurableOperationState.isConfirmed] at hreleased
    | failed attempt failureClass => simp [hr, DurableOperationState.isConfirmed] at hreleased
    | indeterminate attempt stage => simp [hr, DurableOperationState.isConfirmed] at hreleased
  have hintent : Attains boot (runtimeReleaseIntent (authorityFor boot id r file) journal entry r) w
      fun result w' => result = (authorityFor boot id r file, attempt, journal) ∧ w' = w := by
    unfold runtimeReleaseIntent
    rw [hattempt]
    exact Attempt.attains_pure ⟨rfl, rfl⟩
  refine hintent.bind fun (a, attempt', journal') w' ⟨hresult, hw⟩ => ?_
  cases hresult
  subst hw
  refine attains_guardCurrentBoot h he hrelease ?_
  have hconfirmed : Attains boot
      (runtimeReleaseConfirmed (authorityFor boot id r file) attempt) w'
      fun a w'' => a = authorityFor boot id r file ∧ w'' = w' := by
    refine attains_readRecord h ?_
    rw [if_pos hreleased]
    exact Attempt.attains_pure ⟨rfl, rfl⟩
  refine hconfirmed.bind fun a w'' ⟨ha, hw⟩ => ?_
  subst ha hw
  exact attains_removeAndPublish h he hstate hunlink htakes

end Tail

structure PreviousBootHost.Constant (host : PreviousBootHost) (boot : String)
    (facts : PreviousBootCurrentFacts) : Prop where
  revalidated : host.revalidated = ⟨some boot, some facts⟩
  beforeIntent : host.beforeIntent.Steady boot
  beforeResolved : host.beforeResolved.Steady boot
  beforeRelease : host.beforeRelease.Steady boot
  beforeUnlink : host.beforeUnlink.Steady boot
  stable : facts.authorityStable = true

section Execution
variable {boot : String} {w : StartupWorld} {r : PersistentRecoveryRecord} {file : Nat}
  {host : PreviousBootHost} {facts : PreviousBootCurrentFacts}
  {journal : HistoricalFinalizationJournal}

theorem attains_revalidate (h : w.ledger.Held r.lifecycleId r file) (he : r.OfEarlierBoot boot)
    (hhost : host.Constant boot facts) :
    Attains boot (revalidate host.revalidated r boot facts (planPreviousBootReconciliation r facts)
      file) w fun a w' => a = authorityFor boot r.lifecycleId r file ∧ w' = w := by
  refine .require_bind ?_ (attains_currentRecord h he ?_)
  · rw [hhost.revalidated]
    exact decide_eq_true rfl
  refine .require_bind (decide_eq_true rfl) (.require_bind he.valid ?_)
  refine .require_bind (decide_eq_true he.previous) (.okOr_bind (a := facts) ?_ ?_)
  · rw [hhost.revalidated]
  · exact .require_bind (decide_eq_true ⟨rfl, rfl, rfl, hhost.stable⟩)
      (Attempt.attains_pure ⟨rfl, rfl⟩)

/-- The entry a record's finalization writes into the journal. -/
def entryFor (r : PersistentRecoveryRecord) (boot : String) (file : Nat)
    (stage : HistoricalFinalizationStage) : HistoricalFinalizationEntry :=
  ⟨r.lifecycleId, r.lifecycleId, r.seat, boot, r.sequence, stage, historicalNotReplayed r,
    some file⟩

theorem attains_executePreviousBootPlan_of_released (h : w.ledger.Held r.lifecycleId r file)
    (he : r.OfEarlierBoot boot) (hhost : host.Constant boot facts)
    (hplan : planPreviousBootReconciliation r facts = .finalizeAlreadyResolvedRecord)
    (hresolution : r.operationLedger.recordResolution ≠ .notStarted)
    (hreleased : r.operationLedger.runtimeRelease.isConfirmed = true)
    (hload : w.ledger.loadJournal = some journal)
    (hvalid : journal.validateAgainstLedger w.ledger = none)
    (htakes : ∀ stage, (journal.upsert (entryFor r boot file stage)).Fits w.ledger.device) :
    Attains boot (executePreviousBootPlan host r boot facts (planPreviousBootReconciliation r facts))
      w fun outcome w' => outcome = .seatFreed ∧
        w'.ledger.journal = .stored (journal.upsert (entryFor r boot file .freePublished)) := by
  have hstate := state_of_finalizeAlreadyResolvedRecord hplan
  unfold executePreviousBootPlan
  rw [if_neg (by rw [hplan]; simp)]
  refine attains_readLedger (.okOr_bind (recordFileIdentity_of_held h he.name) ?_)
  refine (attains_revalidate h he hhost).bind fun a w' ⟨ha, hw⟩ => ?_
  subst ha hw
  refine attains_readLedger (.okOr_bind hload (.check_bind (a := ()) ?_ ?_))
  · rw [hvalid]
  refine attains_readRecord h ?_
  dsimp only
  rw [if_neg (by rw [hplan]; simp)]
  refine attains_readRecord h ?_
  dsimp only
  rw [if_neg hresolution]
  exact attains_authorityForRuntime_of_confirmed h he hstate hreleased hhost.beforeRelease
    hhost.beforeUnlink htakes

end Execution

end Niralis
