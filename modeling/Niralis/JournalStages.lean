import Niralis.LedgerOpen
import Niralis.LedgerRuns
import Niralis.PreviousBootRequests
import Niralis.PreviousBootSafety

namespace Niralis
open PersistentRecoveryLedger

/-- The order in which a finalization passes its stages. -/
def HistoricalFinalizationStage.rank : HistoricalFinalizationStage → Nat
  | notReplayed => 0
  | resolutionIntent => 1
  | recordResolved => 2
  | runtimeReleaseIntent => 3
  | runtimeReleaseConfirmed => 4
  | removalIntent => 5
  | removed => 6
  | freePublished => 7

/-- The entry is still there, at its stage or at a later one. -/
def NotBefore (before after : Option HistoricalFinalizationEntry) : Prop :=
  ∀ e, before = some e → ∃ e', after = some e' ∧ e.stage.rank ≤ e'.stage.rank

theorem NotBefore.refl (entry : Option HistoricalFinalizationEntry) : NotBefore entry entry :=
  fun e h => ⟨e, h, le_rfl⟩

theorem NotBefore.trans {a b c : Option HistoricalFinalizationEntry} (h : NotBefore a b)
    (h' : NotBefore b c) : NotBefore a c := by
  intro e he
  obtain ⟨e', he', hle⟩ := h e he
  obtain ⟨e'', he'', hle'⟩ := h' e' he'
  exact ⟨e'', he'', hle.trans hle'⟩

namespace HistoricalFinalizationJournal

theorem entry_upsert_of_ne (journal : HistoricalFinalizationJournal)
    {e : HistoricalFinalizationEntry} {id : String} (h : e.recordId ≠ id) :
    (journal.upsert e).entry id = journal.entry id := by
  obtain ⟨entries⟩ := journal
  show (upsertEntry e entries).find? _ = entries.find? _
  induction entries with
  | nil => simp [upsertEntry, h]
  | cons current rest ih =>
    unfold upsertEntry
    split
    next hsame =>
      have hne : current.recordId ≠ id := hsame ▸ h
      rw [List.find?_cons_of_neg (by simpa using h), List.find?_cons_of_neg (by simpa using hne)]
    next =>
      by_cases hid : current.recordId = id
      · rw [List.find?_cons_of_pos (by simpa using hid), List.find?_cons_of_pos (by simpa using hid)]
      · rw [List.find?_cons_of_neg (by simpa using hid), List.find?_cons_of_neg (by simpa using hid), ih]

/-- Only an entry's own record can be moved by it, and not back if the entry is at a later stage. -/
theorem notBefore_upsert (journal : HistoricalFinalizationJournal) (e : HistoricalFinalizationEntry)
    (h : ∀ e', journal.entry e.recordId = some e' → e'.stage.rank ≤ e.stage.rank) (id : String) :
    NotBefore (journal.entry id) ((journal.upsert e).entry id) := by
  by_cases hid : e.recordId = id
  · subst hid
    exact fun e' he' => ⟨e, journal.entry_upsert_self e, h e' he'⟩
  · rw [journal.entry_upsert_of_ne hid]
    exact .refl _

end HistoricalFinalizationJournal

def Rising (w : StartupWorld) : StartupRequest → Prop
  | .persistJournal journal => ∀ id, NotBefore (w.ledger.journalEntry id) (journal.entry id)
  | _ => True

/-- The journal on disk is this one, with the record's entry, if any, at this stage at most. -/
structure AtStage (l : PersistentRecoveryLedger) (journal : HistoricalFinalizationJournal)
    (id : String) (stage : HistoricalFinalizationStage) : Prop where
  stored : ∀ id, l.journalEntry id = journal.entry id
  stage : ∀ e, journal.entry id = some e → e.stage.rank ≤ stage.rank

theorem AtStage.mono {l l' : PersistentRecoveryLedger} {journal : HistoricalFinalizationJournal}
    {id : String} {stage stage' : HistoricalFinalizationStage} (h : AtStage l journal id stage)
    (hjournal : l'.journal = l.journal) (hle : stage.rank ≤ stage'.rank) :
    AtStage l' journal id stage' :=
  ⟨fun id => (journalEntry_congr hjournal id).trans (h.stored id), fun e he => (h.stage e he).trans hle⟩

theorem journalEntry_of_loadJournal {l : PersistentRecoveryLedger}
    {journal : HistoricalFinalizationJournal} (h : l.loadJournal = some journal) (id : String) :
    l.journalEntry id = journal.entry id := by
  unfold loadJournal at h
  unfold journalEntry
  split at h
  next habsent =>
    cases h
    rw [habsent]
    rfl
  · cases h
  · cases h
  next journal' hstored =>
    split at h
    · cases h
    · cases h
      rw [hstored]

section Programs
variable {w : StartupWorld} {β : Type} {host : PreviousBootHost}
  {journal : HistoricalFinalizationJournal} {entry : HistoricalFinalizationEntry}
  {a : PreviousBootFinalizationAuthority}

/-- No journal that is stored takes an entry back, and success ends as `post` says. -/
abbrev RisingSat (p : PreviousBootM β) (w : StartupWorld) (post : β → StartupWorld → Prop) : Prop :=
  p.Sat StartupWorld.perform (fun _ _ _ => True) Rising w post

def LeavesJournal : StartupRequest → Prop
  | .persistJournal _ => False
  | _ => True

theorem journal_perform_of_leaves {request : StartupRequest} (h : LeavesJournal request)
    (w : StartupWorld) (x : StartupAnswer) :
    (w.perform request x).2.ledger.journal = w.ledger.journal := by
  cases request with
  | write id write => exact journal_write _ _ _ _
  | removeResolved id => exact journal_removeResolved _ _ _
  | removeRecordExact id file => exact journal_removeRecordExact _ _ _ _
  | persistJournal journal => exact h.elim
  | _ => rfl

theorem leavesJournal_updates : AllowsUpdates LeavesJournal := ⟨trivial, fun _ _ => trivial⟩

theorem rising_of_leaves {request : StartupRequest} (h : LeavesJournal request) (w : StartupWorld) :
    Rising w request := by
  cases request with
  | persistJournal journal => exact h.elim
  | _ => trivial

theorem rising_quiet {p : PreviousBootM β} (h : p.Asks LeavesJournal) (w : StartupWorld) :
    RisingSat p w fun _ w' => w'.ledger.journal = w.ledger.journal := by
  have hquiet : Program.Sat StartupWorld.perform (fun _ _ _ => True) Rising p w
      fun _ w' => w'.ledger.journal = w.ledger.journal :=
    Program.Asks.sat h (fun w' => w'.ledger.journal = w.ledger.journal)
      (fun s _ _ hr => rising_of_leaves hr s)
      (fun s _ x hs hr => (journal_perform_of_leaves hr s x).trans hs) rfl
  refine hquiet.mono fun result w' hw => ?_
  cases result with
  | ok b => exact hw
  | error e => trivial

theorem rising_persistEntry (entry : HistoricalFinalizationEntry)
    (h : AtStage w.ledger journal entry.recordId entry.stage) :
    RisingSat (persistEntry journal entry) w fun journal' w' =>
      AtStage w'.ledger journal' entry.recordId entry.stage ∧
        ∀ id, w'.ledger.get id = w.ledger.get id := by
  have hstore : RisingSat (.perform (.persistJournal (journal.upsert entry)) .io) w fun _ w' =>
      w'.ledger = { w.ledger with journal := .stored (journal.upsert entry) } := by
    refine Attempt.sat_perform (fun id => ?_) fun x _ hok => ?_
    · rw [h.stored]
      exact journal.notBefore_upsert entry h.stage id
    · simp only [StartupWorld.perform, StartupWorld.onLedger] at hok ⊢
      rcases w.ledger.persistJournal_cases (journal.upsert entry) x.journal with hp | ⟨-, -, -, hp⟩
      · rw [hp] at hok
        cases hok
      · rw [hp]
  refine hstore.bind fun _ w' hw => ⟨⟨fun id => ?_, fun e he => ?_⟩, fun id => ?_⟩
  · rw [hw]
    rfl
  · rw [journal.entry_upsert_self] at he
    cases he
    exact le_rfl
  · rw [hw]
    rfl

theorem rising_removeAndPublish
    (h : AtStage w.ledger journal entry.recordId .runtimeReleaseConfirmed) :
    RisingSat (removeAndPublish host a journal entry) w fun _ _ => True := by
  let removing := { entry.follow a .runtimeReleaseConfirmed with stage := .removalIntent }
  refine (rising_persistEntry (entry.follow a .runtimeReleaseConfirmed) h).bind
    fun journal₁ w₁ ⟨h₁, _⟩ => ?_
  refine (rising_persistEntry removing (h₁.mono rfl (by show 4 ≤ 5; omega))).bind
    fun journal₂ w₂ ⟨h₂, _⟩ => ?_
  refine (rising_quiet (asks_guardCurrentBoot leavesJournal_updates _ _) w₂).bind fun _ w₃ hw₃ => ?_
  refine (rising_quiet (Attempt.asks_perform trivial _) w₃).bind fun _ w₄ hw₄ => ?_
  have h₄ := h₂.mono (hw₄.trans hw₃) (le_refl _)
  refine (rising_persistEntry { removing with stage := .removed }
    (h₄.mono rfl (by show 5 ≤ 6; omega))).bind fun journal₅ w₅ ⟨h₅, _⟩ => ?_
  refine (rising_quiet (Attempt.asks_perform trivial _) w₅).bind fun _ w₆ hw₆ => ?_
  exact (rising_persistEntry { removing with stage := .freePublished }
    (h₅.mono hw₆ (by show 6 ≤ 7; omega))).bind fun _ _ _ => trivial

theorem rising_runtimeReleaseIntent {current : PersistentRecoveryRecord}
    (h : AtStage w.ledger journal entry.recordId .runtimeReleaseConfirmed)
    (hnew : current.operationLedger.runtimeRelease = .notStarted →
      AtStage w.ledger journal entry.recordId .runtimeReleaseIntent) :
    RisingSat (runtimeReleaseIntent a journal entry current) w fun result w' =>
      AtStage w'.ledger result.2.2 entry.recordId .runtimeReleaseConfirmed := by
  unfold runtimeReleaseIntent
  split
  next hnotStarted =>
    refine Attempt.Sat.okOr_bind fun attempt _ => ?_
    refine (rising_quiet (asks_advanceRuntimeRelease leavesJournal_updates _ _) w).bind
      fun next w₁ hw₁ => ?_
    have h₁ := (hnew hnotStarted).mono hw₁ (le_refl _)
    refine (rising_persistEntry (entry.follow next .runtimeReleaseIntent) h₁).bind
      fun journal₂ w₂ ⟨h₂, _⟩ => ?_
    refine sat_readRecord_gives trivial fun record _ => ?_
    split
    · exact h₂.mono rfl (by show 3 ≤ 4; omega)
    · exact Attempt.sat_fail _ _ _
  · exact h
  · exact h
  · exact Attempt.sat_fail _ _ _
  · exact Attempt.sat_fail _ _ _

theorem rising_authorityForRuntime
    (h : AtStage w.ledger journal entry.recordId .runtimeReleaseConfirmed)
    (hnew : ∀ r, w.ledger.get a.recordId = some r → r.operationLedger.runtimeRelease = .notStarted →
      AtStage w.ledger journal entry.recordId .runtimeReleaseIntent) :
    RisingSat (authorityForRuntime host a journal entry) w fun _ _ => True := by
  refine sat_readRecord_gives trivial fun current hcurrent => ?_
  refine (rising_runtimeReleaseIntent h (hnew current hcurrent)).bind
    fun (intent, attempt, journal₁) w₁ h₁ => ?_
  refine (rising_quiet (asks_guardCurrentBoot leavesJournal_updates _ _) w₁).bind fun _ w₂ hw₂ => ?_
  refine (rising_quiet (asks_runtimeReleaseConfirmed leavesJournal_updates _ _) w₂).bind
    fun confirmed w₃ hw₃ => ?_
  exact rising_removeAndPublish (h₁.mono (hw₃.trans hw₂) (le_refl _))

/-- The first two stages of a record that has no entry, or the stage of its entry. -/
theorem rising_openEntry {existing : Option HistoricalFinalizationStage}
    (hstored : ∀ id, w.ledger.journalEntry id = journal.entry id)
    (hexisting : (journal.entry entry.recordId).map (·.stage) = existing)
    (hstage : existing = none ∨ existing = some .notReplayed) (hentry : entry.stage = .notReplayed) :
    RisingSat (openEntry journal entry existing) w fun result w' =>
      AtStage w'.ledger result.1 entry.recordId result.2.stage ∧
        result.2.recordId = entry.recordId ∧ result.2.stage.rank ≤ 2 := by
  rcases hstage with rfl | rfl
  · have hnone : ∀ e, journal.entry entry.recordId = some e → e.stage.rank ≤ entry.stage.rank := by
      intro e he
      rw [he] at hexisting
      cases hexisting
    refine (rising_persistEntry entry ⟨hstored, hnone⟩).bind fun journal₁ w₁ ⟨h₁, _⟩ => ?_
    have h₂ : AtStage w₁.ledger journal₁ entry.recordId .resolutionIntent :=
      h₁.mono rfl (by rw [hentry]; decide)
    refine (rising_persistEntry { entry with stage := .resolutionIntent } h₂).bind
      fun journal₃ w₃ ⟨h₃, _⟩ => ?_
    exact ⟨h₃, rfl, by show 1 ≤ 2; omega⟩
  · refine ⟨⟨hstored, fun e he => ?_⟩, rfl, by rw [hentry]; decide⟩
    have he' : journal.entry entry.recordId = some e := he
    rw [he', Option.map_some] at hexisting
    rw [Option.some.inj hexisting]
    exact Nat.zero_le _

theorem rising_resolveHistoricalRecord {existing : Option HistoricalFinalizationStage}
    {current : PersistentRecoveryRecord}
    (hstored : ∀ id, w.ledger.journalEntry id = journal.entry id)
    (hexisting : (journal.entry entry.recordId).map (·.stage) = existing)
    (hstage : existing = none ∨ existing = some .notReplayed) (hentry : entry.stage = .notReplayed) :
    RisingSat (resolveHistoricalRecord host a journal entry existing current) w fun _ _ => True := by
  refine (rising_openEntry hstored hexisting hstage hentry).bind
    fun (journal₁, entry₁) w₁ ⟨h₁, hid, hrank⟩ => ?_
  refine (rising_quiet (asks_reachResolutionIntent leavesJournal_updates _ _ _) w₁).bind
    fun a₂ w₂ hw₂ => ?_
  have h₂ : AtStage w₂.ledger journal₁ entry₁.recordId entry₁.stage :=
    hid ▸ h₁.mono hw₂ (le_refl _)
  refine (rising_persistEntry (entry₁.follow a₂ entry₁.stage) h₂).bind
    fun journal₃ w₃ ⟨h₃, _⟩ => ?_
  refine (rising_quiet (asks_reachRecordResolved leavesJournal_updates _ _) w₃).bind
    fun a₄ w₄ hw₄ => ?_
  have h₄ : AtStage w₄.ledger journal₃ entry₁.recordId .recordResolved := h₃.mono hw₄ hrank
  refine (rising_persistEntry ((entry₁.follow a₂ entry₁.stage).follow a₄ .recordResolved) h₄).bind fun journal₅ w₅ ⟨h₅, _⟩ => ?_
  exact rising_authorityForRuntime (h₅.mono rfl (by show 2 ≤ 4; omega))
    fun _ _ _ => h₅.mono rfl (by show 2 ≤ 3; omega)

/-- A commit leaves the authority with the record it names, one write further. -/
theorem rising_commitAdvance (write : RecordWrite) :
    RisingSat (commitAdvance a write) w fun a' w' => a'.recordId = a.recordId ∧
      w'.ledger.journal = w.ledger.journal ∧ ∃ r r', w.ledger.get a.recordId = some r ∧
        w'.ledger.get a.recordId = some r' ∧ WriteResult r write r' := by
  have hwrite : RisingSat (persist a.recordId write .io) w fun _ w' =>
      w'.ledger.journal = w.ledger.journal ∧ ∃ r r', w.ledger.get a.recordId = some r ∧
        w'.ledger.get a.recordId = some r' ∧ WriteResult r write r' := by
    refine Attempt.sat_perform trivial fun x _ hok => ⟨journal_write _ _ _ _, ?_⟩
    obtain ⟨r, -, hget, -, -, -⟩ := write_committed hok
    rcases write_outcomes hget write x.write with hw | ⟨next, hresult, -, ⟨-, hnext⟩ | ⟨hfailed, -⟩⟩
    · simp only [StartupWorld.perform, StartupWorld.onLedger, hw] at hok
      cases hok
    · exact ⟨r, next, hget, hnext, hresult⟩
    · have hno : (w.perform (.write a.recordId write) x).1 = false := hfailed
      rw [hno] at hok
      cases hok
  exact hwrite.bind fun _ w' hw' => sat_currentRecord_bind trivial fun next file _ => ⟨rfl, hw'⟩

theorem rising_advanceRecordResolved :
    RisingSat (advanceRecordResolved a) w fun a' w' => a'.recordId = a.recordId ∧
      w'.ledger.journal = w.ledger.journal ∧ ∃ r r', w.ledger.get a.recordId = some r ∧
        w'.ledger.get a.recordId = some r' ∧
        r'.operationLedger.runtimeRelease = r.operationLedger.runtimeRelease := by
  refine sat_currentRecord_bind trivial fun current file _ => Attempt.Sat.require_bind fun _ => ?_
  refine Attempt.Sat.check_bind fun attempt _ => (rising_commitAdvance _).mono ?_
  intro a' w' ⟨hid, hjournal, r, r', hr, hr', hresult⟩
  refine ⟨hid, hjournal, r, r', hr, hr', ?_⟩
  rw [hresult.operations]
  rfl

theorem rising_finalizeAlreadyResolvedRecord
    (h : AtStage w.ledger journal entry.recordId .runtimeReleaseConfirmed)
    (hnew : ∀ r, w.ledger.get a.recordId = some r → r.operationLedger.runtimeRelease = .notStarted →
      AtStage w.ledger journal entry.recordId .runtimeReleaseIntent) :
    RisingSat (finalizeAlreadyResolvedRecord host a journal entry) w fun _ _ => True := by
  refine sat_readRecord_gives trivial fun record hrecord => ?_
  split
  · refine rising_advanceRecordResolved.bind fun a' w' ⟨hid, hjournal, r, r', hr, hr', hsame⟩ => ?_
    refine rising_authorityForRuntime (h.mono hjournal (le_refl _)) fun r'' hr'' hnotStarted => ?_
    rw [hid, hr'] at hr''
    cases hr''
    exact (hnew r hr (hsame ▸ hnotStarted)).mono hjournal (le_refl _)
  · exact rising_authorityForRuntime h hnew

/-- The record's journal entry does not say that its file is about to go, nor that its resolution is
about to be written while the plan is to write it. Other plans leave the journal alone. -/
def StartsForward (l : PersistentRecoveryLedger) (id : String) (plan : PreviousBootRecoveryPlan) :
    Prop :=
  plan = .resolveHistoricalRecord ∨ plan = .finalizeAlreadyResolvedRecord →
    ∀ e, l.journalEntry id = some e → e.stage ≠ .removalIntent ∧
      (plan = .resolveHistoricalRecord → e.stage ≠ .resolutionIntent)

theorem stage_of_validateEntry {l : PersistentRecoveryLedger} {e : HistoricalFinalizationEntry}
    {r : PersistentRecoveryRecord} (h : validateEntry l e = none) (hget : l.get e.recordId = some r)
    (hremoval : e.stage ≠ .removalIntent) :
    e.stage.rank ≤ 4 ∧ (r.operationLedger.runtimeRelease = .notStarted → e.stage.rank ≤ 3) := by
  unfold validateEntry at h
  rw [hget] at h
  dsimp only at h
  split_ifs at h with _ _ hgone _ _ _ hconfirmed
  rw [not_or] at hgone
  cases hstage : e.stage with
  | removalIntent => exact absurd hstage hremoval
  | removed => exact absurd hstage hgone.1
  | freePublished => exact absurd hstage hgone.2
  | runtimeReleaseConfirmed =>
    refine ⟨le_refl _, fun hrelease => absurd ⟨Or.inl hstage, ?_⟩ hconfirmed⟩
    rw [hrelease]
    rfl
  | _ => exact ⟨by decide, fun _ => by decide⟩

theorem rising_executePreviousBootPlan {record : PersistentRecoveryRecord} {boot : String}
    {facts : PreviousBootCurrentFacts} {plan : PreviousBootRecoveryPlan}
    (h : StartsForward w.ledger record.lifecycleId plan) :
    RisingSat (executePreviousBootPlan host record boot facts plan) w fun _ _ => True := by
  unfold executePreviousBootPlan
  split
  · trivial
  next hplan =>
    have hplan : plan = .resolveHistoricalRecord ∨ plan = .finalizeAlreadyResolvedRecord := by
      rwa [not_and_or, not_not, not_not] at hplan
    refine ⟨trivial, fun _ _ => Attempt.Sat.okOr_bind fun file _ => ?_⟩
    refine sat_revalidate_bind trivial fun a _ hid _ _ _ => ?_
    refine ⟨trivial, fun _ _ => Attempt.Sat.okOr_bind fun journal hjournal => ?_⟩
    refine Attempt.Sat.check_bind fun _ hvalid => ?_
    refine sat_readRecord_gives trivial fun current hcurrent => ?_
    have hvalidated : journal.validateAgainstLedger w.ledger = none := by
      split at hvalid
      · cases hvalid
      next hnone => exact hnone
    have hstored : ∀ id, w.ledger.journalEntry id = journal.entry id :=
      journalEntry_of_loadJournal hjournal
    -- the stages from which the plan would step back are excluded at its start
    have hforward : ∀ e, journal.entry a.recordId = some e → e.stage ≠ .removalIntent ∧
        (plan = .resolveHistoricalRecord → e.stage ≠ .resolutionIntent) := by
      intro e he
      refine h hplan e ?_
      rw [hstored, ← hid, he]
    dsimp only
    split
    next hresolve =>
      refine rising_resolveHistoricalRecord hstored rfl ?_ rfl
      cases hentry : journal.entry a.recordId with
      | none => exact Or.inl rfl
      | some e =>
        have hne := (hforward e hentry).2 hresolve.1
        rw [hentry] at hresolve
        have hdone := hresolve.2
        refine Or.inr (congrArg some ?_)
        show e.stage = _
        cases hstage : e.stage with
        | notReplayed => rfl
        | resolutionIntent => exact absurd hstage hne
        | _ => simp [hstage, resolutionDone] at hdone
    next =>
      have hentry : ∀ e, journal.entry a.recordId = some e → e.stage.rank ≤ 4 ∧
          (current.operationLedger.runtimeRelease = .notStarted → e.stage.rank ≤ 3) := by
        intro e he
        have hrecord : e.recordId = a.recordId := by simpa using List.find?_some he
        refine stage_of_validateEntry
          (validateEntry_of_validateEntries hvalidated e (List.mem_of_find?_eq_some he))
          (hrecord ▸ hcurrent) (hforward e he).1
      refine rising_finalizeAlreadyResolvedRecord ⟨hstored, fun e he => (hentry e he).1⟩ ?_
      intro r hr hnotStarted
      rw [hcurrent] at hr
      cases hr
      exact ⟨hstored, fun e he => (hentry e he).2 hnotStarted⟩

theorem rising_resumeEntries (ledger : PersistentRecoveryLedger)
    (entries : List HistoricalFinalizationEntry) {start : HistoricalFinalizationJournal}
    (completed : Nat) (h : ∀ id, NotBefore (start.entry id) (journal.entry id)) :
    RisingSat (resumeEntries ledger entries journal completed) w fun result w' =>
      w'.ledger.journal = w.ledger.journal ∧ ∀ id, NotBefore (start.entry id) (result.1.entry id) := by
  induction entries generalizing journal completed w with
  | nil => exact ⟨rfl, h⟩
  | cons entry rest ih =>
    -- `FreePublished` is the last stage
    have hpublished : ∀ id, NotBefore (start.entry id)
        ((journal.upsert { entry with stage := .freePublished }).entry id) := by
      refine fun id => (h id).trans (journal.notBefore_upsert _ (fun e _ => ?_) id)
      show e.stage.rank ≤ 7
      cases e.stage <;> decide
    have hfree : RisingSat (do
        .perform (.clearSeatStartupQuarantine entry.seat (.record entry.recordId)) .io
        resumeEntries ledger rest (journal.upsert { entry with stage := .freePublished })
          (completed + 1)) w fun result w' => w'.ledger.journal = w.ledger.journal ∧
            ∀ id, NotBefore (start.entry id) (result.1.entry id) := by
      refine (rising_quiet (Attempt.asks_perform trivial _) w).bind fun _ w' hw' => ?_
      exact (ih _ hpublished).mono fun _ _ hresult => ⟨hresult.1.trans hw', hresult.2⟩
    unfold resumeEntries
    split
    · exact ih _ h
    · split
      · split
        · exact Attempt.sat_fail _ _ _
        · exact ih _ h
        · exact hfree
      · exact hfree

theorem rising_resume : RisingSat resumeRemovedPreviousBootFinalization w fun _ _ => True := by
  refine ⟨trivial, fun _ _ => Attempt.Sat.okOr_bind fun journal hjournal => ?_⟩
  refine Attempt.Sat.check_bind fun _ _ => ?_
  split
  · trivial
  · refine (rising_resumeEntries _ _ 0 fun id => .refl (journal.entry id)).bind
      fun (journal', completed) w' ⟨hkept, hnotBefore⟩ => ?_
    dsimp only
    split
    · trivial
    · have hpersist : RisingSat (.perform (.persistJournal journal') .io) w' fun _ _ => True := by
        refine Attempt.sat_perform (fun id => ?_) fun _ _ _ => trivial
        rw [journalEntry_congr hkept, journalEntry_of_loadJournal hjournal]
        exact hnotBefore id
      exact hpersist.bind fun _ _ _ => trivial

end Programs

theorem notBefore_perform {w : StartupWorld} {request : StartupRequest} (h : Rising w request)
    (x : StartupAnswer) (id : String) :
    NotBefore (w.ledger.journalEntry id) ((w.perform request x).2.ledger.journalEntry id) := by
  have hcases : LeavesJournal request ∨ ∃ journal, request = .persistJournal journal := by
    cases request with
    | persistJournal journal => exact Or.inr ⟨journal, rfl⟩
    | _ => exact Or.inl trivial
  rcases hcases with hleaves | ⟨journal, rfl⟩
  · rw [journalEntry_congr (journal_perform_of_leaves hleaves w x)]
    exact .refl _
  · simp only [StartupWorld.perform, StartupWorld.onLedger]
    rcases w.ledger.persistJournal_cases journal x.journal with hp | ⟨-, -, -, hp⟩
    · rw [hp]
      exact .refl _
    · rw [hp]
      exact h id

theorem journal_openDirectory (l : PersistentRecoveryLedger) (bootId : Option String) :
    (l.openDirectory bootId).journal = l.journal := by
  unfold openDirectory
  dsimp only
  unfold applyHistoricalJournalQuarantine
  split
  · rfl
  · rfl
  · split <;> rfl

section Runs

/-- The process that finalizes, with what it is at, if anything. -/
structure Finalizer where
  world : StartupWorld
  running : StartupM Unit := .done ()

/-- Between two calls there may be a crash: the directory is opened again, by a process that may run
in another boot. -/
inductive FinalizerEvent
  | execute (host : PreviousBootHost) (record : PersistentRecoveryRecord) (boot : String)
    (facts : PreviousBootCurrentFacts) (plan : PreviousBootRecoveryPlan)
  | resume
  | answer (answer : StartupAnswer)
  | crash (bootId : Option String)

def call {α : Type} (p : PreviousBootM α) : StartupM Unit := Program.bind p fun _ => .done ()

namespace Finalizer

/-- A call begins where none is running; a crash ends the one that is. -/
def step (s : Finalizer) : FinalizerEvent → Finalizer
  | .execute host record boot facts plan =>
    match s.running with
    | .done _ => { s with running := call (executePreviousBootPlan host record boot facts plan) }
    | .ask _ _ => s
  | .resume =>
    match s.running with
    | .done _ => { s with running := call resumeRemovedPreviousBootFinalization }
    | .ask _ _ => s
  | .answer x =>
    let next := Program.step StartupWorld.perform (s.world, s.running) x
    ⟨next.1, next.2⟩
  | .crash bootId => { world := { ledger := s.world.ledger.openDirectory bootId } }

def stage (s : Finalizer) (id : String) : Option HistoricalFinalizationStage :=
  (s.world.ledger.journalEntry id).map (·.stage)

/-- The condition on an event: an execution that begins starts forward. -/
def Forward (s : Finalizer) : FinalizerEvent → Prop
  | .execute _ record _ _ plan =>
    s.running = .done () → StartsForward s.world.ledger record.lifecycleId plan
  | _ => True

def RunsForward (s : Finalizer) : Prop :=
  s.running.Sat StartupWorld.perform (fun _ _ _ => True) Rising s.world fun _ _ => True

variable {s : Finalizer}

theorem runsForward_call {α : Type} {p : PreviousBootM α} {w : StartupWorld}
    (h : RisingSat p w fun _ _ => True) : RunsForward ⟨w, call p⟩ :=
  Program.Sat.bind h fun _ _ _ => trivial

theorem runsForward_step (h : s.RunsForward) {event : FinalizerEvent} (hforward : s.Forward event) :
    (s.step event).RunsForward := by
  cases event with
  | execute host record boot facts plan =>
    unfold step
    dsimp only
    split
    next hidle => exact runsForward_call (rising_executePreviousBootPlan (hforward hidle))
    · exact h
  | resume =>
    unfold step
    dsimp only
    split
    · exact runsForward_call rising_resume
    · exact h
  | answer x => exact Program.Sat.step (s := (s.world, s.running)) h fun _ _ => trivial
  | crash bootId => exact trivial

theorem notBefore_step (h : s.RunsForward) (event : FinalizerEvent) (id : String) :
    NotBefore (s.world.ledger.journalEntry id) ((s.step event).world.ledger.journalEntry id) := by
  cases event with
  | execute host record boot facts plan =>
    unfold step
    dsimp only
    split <;> exact .refl _
  | resume =>
    unfold step
    dsimp only
    split <;> exact .refl _
  | crash bootId =>
    have hjournal : (s.world.ledger.openDirectory bootId).journal = s.world.ledger.journal :=
      journal_openDirectory _ _
    rw [step, journalEntry_congr hjournal]
    exact .refl _
  | answer x =>
    rcases Program.step_cases StartupWorld.perform (s.world, s.running) x with
      hsame | ⟨request, hpending, hperform⟩
    · rw [step]
      dsimp only
      rw [hsame]
      exact .refl _
    · rw [step]
      dsimp only
      rw [hperform]
      exact notBefore_perform (Program.Sat.pending (s := (s.world, s.running)) h hpending) x id

def after (s : Finalizer) (events : List FinalizerEvent) (n : Nat) : Finalizer :=
  (events.take n).foldl step s

/-- Over executions on any records, resumptions and crashes at any point, no entry on disk goes back
to an earlier stage, if each execution starts forward. -/
theorem stages_rise (s : Finalizer) (hidle : s.running = .done ()) (events : List FinalizerEvent)
    (hforward : StepsMeet step Forward s events) (id : String) {n m : Nat} (hnm : n ≤ m)
    (before : HistoricalFinalizationStage) (hbefore : (s.after events n).stage id = some before) :
    ∃ now, (s.after events m).stage id = some now ∧ before.rank ≤ now.rank := by
  have hruns : (s.after events n).RunsForward := by
    refine foldl_invariant RunsForward (fun _ _ h hok => runsForward_step h hok) _ s ?_
      (stepsMeet_take hforward n)
    unfold RunsForward
    rw [hidle]
    exact trivial
  obtain ⟨e, he, hstage⟩ := Option.map_eq_some_iff.mp hbefore
  obtain ⟨-, hkept⟩ := foldl_take_invariant
    (fun t => t.RunsForward ∧ NotBefore (some e) (t.world.ledger.journalEntry id))
    (fun t event h hok => ⟨runsForward_step h.1 hok, h.2.trans (notBefore_step h.1 event id)⟩)
    hforward hnm ⟨hruns, fun e' he' => ⟨e', he' ▸ he, le_refl _⟩⟩
  obtain ⟨e', he', hle⟩ := hkept e rfl
  exact ⟨e'.stage, by rw [stage, after, he', Option.map_some], hstage ▸ hle⟩

end Finalizer

end Runs

section Sample
open Finalizer

/-- The host cannot say which boot it is in when it is asked before this write. -/
def unsteadyBeforeIntent : PreviousBootHost := { clearHost with beforeIntent := ⟨none, none⟩ }

def unsteadyBeforeUnlink : PreviousBootHost := { clearHost with beforeUnlink := ⟨none, none⟩ }

def syncedAnswers (n : Nat) : List FinalizerEvent :=
  List.replicate n (.answer { write := ⟨some "boot-1", .synced⟩ })

def executeLeft (host : PreviousBootHost) : FinalizerEvent :=
  .execute host leftRecord "boot-1" clearFacts .resolveHistoricalRecord

def leftFinalizer : Finalizer := { world := leftWorld }

def interrupted : List FinalizerEvent :=
  executeLeft clearHost :: (syncedAnswers 6 ++ [.crash (some "boot-1"), .resume])

theorem interrupted_forward : StepsMeet Finalizer.step Forward leftFinalizer interrupted := by
  refine ⟨fun _ _ => nofun, (stepsMeet_append _ _ _).mpr ⟨?_, trivial, trivial, trivial⟩⟩
  refine stepsMeet_of_getElem fun n event hevent => ?_
  rw [List.eq_of_mem_replicate (List.mem_of_getElem? hevent)]
  exact trivial

theorem interrupted_rises : ∃ now, (leftFinalizer.after interrupted 9).stage "worker-1" = some now ∧
    HistoricalFinalizationStage.resolutionIntent.rank ≤ now.rank :=
  stages_rise leftFinalizer rfl interrupted interrupted_forward "worker-1" (n := 7) (by decide)
    .resolutionIntent (by decide +kernel)

/-- The first execution stops before the record's intent, and the second writes the first entry once
more. -/
def retriedResolution : List FinalizerEvent :=
  executeLeft unsteadyBeforeIntent :: (syncedAnswers 6 ++ executeLeft clearHost :: syncedAnswers 9)

def awaitingRemoval : PersistentRecoveryRecord :=
  { leftRecord with
    sequence := 7
    lastUpdatedBootId := "boot-1"
    state := "record_resolved"
    operationLedger := { runtimeRelease := .confirmed 2, recordResolution := .confirmed 1 } }

def retriedRemoval : List FinalizerEvent :=
  executeLeft unsteadyBeforeUnlink :: (syncedAnswers 30 ++
    .execute clearHost awaitingRemoval "boot-1" clearFacts .finalizeAlreadyResolvedRecord ::
      syncedAnswers 9)

theorem stages_taken_back :
    ((leftFinalizer.after retriedResolution 7).stage "worker-1" = some .resolutionIntent ∧
      (leftFinalizer.after retriedResolution 17).stage "worker-1" = some .notReplayed) ∧
    (leftFinalizer.after retriedRemoval 31).stage "worker-1" = some .removalIntent ∧
      (leftFinalizer.after retriedRemoval 41).stage "worker-1" = some .runtimeReleaseConfirmed := by
  decide +kernel

end Sample

end Niralis
