import Niralis.QuarantineLifts

namespace Niralis
open PersistentRecoveryLedger

namespace PersistentRecoveryLedger

/-- The record set keeps the seat closed, or startup does as a whole. -/
def closedWhole (l : PersistentRecoveryLedger) (seat : String) : Bool :=
  l.startupQuarantined || l.recordSet.globalQuarantine || l.recordSet.seatBlocked seat

/-- The journal says for the first time that a record's seat is free. -/
def Publishes (l : PersistentRecoveryLedger) (journal : HistoricalFinalizationJournal) : Prop :=
  ∃ durable, l.journal = .stored durable ∧ ∃ e ∈ durable.entries, e.stage ≠ .freePublished ∧
    ∃ e' ∈ journal.entries, e'.recordId = e.recordId ∧ e'.stage = .freePublished

/-- Every record that the journal announces as removed has a name that can be looked up. -/
def RemovalsNamed (l : PersistentRecoveryLedger) : Prop :=
  ∀ durable, l.journal = .stored durable → ∀ e ∈ durable.entries, e.stage = .removalIntent →
    validateLifecycleId e.recordId = true

end PersistentRecoveryLedger

/-- What startup can finalize on a seat is all that the seat can be marked for, or the seat is closed
as a whole. -/
def OneCause (l : PersistentRecoveryLedger) (host : StartupHost) : Prop :=
  ∀ id seat, Lifts l host id seat → l.closedWhole seat = true ∨
    ∀ cause, MarkedFor l host seat cause → cause = .record id

/-- The journal that publishes a freed seat can be stored. -/
def PublicationStored (w : StartupWorld) (request : StartupRequest) (answer : StartupAnswer) :
    Prop :=
  match request with
  | .persistJournal journal => w.ledger.Publishes journal → (w.perform request answer).1 = true
  | _ => True

/-- Every seat that is marked for something still outstanding is closed. -/
def CausesClosed (w : StartupWorld) : Prop :=
  ∀ seat cause, (seat, cause) ∈ w.causes → w.ledger.seatClosed seat = true

section Causes
variable {w : StartupWorld} {request : StartupRequest} {answer : StartupAnswer}

theorem seatClosed_of_closedWhole {l : PersistentRecoveryLedger} {seat : String}
    (h : l.closedWhole seat = true) : l.seatClosed seat = true := by
  simp only [closedWhole, Bool.or_eq_true] at h
  simp only [PersistentRecoveryLedger.seatClosed, Bool.or_eq_true]
  tauto

theorem causes_perform (h : request.setsMarks = false) :
    (w.perform request answer).2.causes = w.causes := by
  cases request with
  | markStartupQuarantine => cases h
  | markSeatStartupQuarantine seat cause => cases h
  | clearSeatStartupQuarantine seat cause => cases h
  | _ => rfl

theorem closedWhole_of_sameMarks {l l' : PersistentRecoveryLedger} {seat : String}
    (h : SameMarks l l') (hclosed : l.closedWhole seat = true) : l'.closedWhole seat = true := by
  unfold closedWhole at hclosed ⊢
  rwa [h.recordSet, h.startupQuarantined]

theorem closedWhole_perform {seat : String} (h : w.ledger.closedWhole seat = true) :
    (w.perform request answer).2.ledger.closedWhole seat = true := by
  cases request with
  | markStartupQuarantine => rfl
  | markSeatStartupQuarantine marked cause => exact h
  | clearSeatStartupQuarantine cleared cause => exact h
  | _ => exact closedWhole_of_sameMarks (sameMarks_perform answer rfl) h

structure CausesFound (l : PersistentRecoveryLedger) (host : StartupHost) (w : StartupWorld) :
    Prop where
  marked : ∀ seat cause, (seat, cause) ∈ w.causes → MarkedFor l host seat cause
  whole : ∀ seat, l.closedWhole seat = true → w.ledger.closedWhole seat = true
  closed : CausesClosed w

theorem markedFor_perform {l : PersistentRecoveryLedger} {host : StartupHost}
    (h : CausesFound l host w) (hr : MarksFound l host request) :
    ∀ seat cause, (seat, cause) ∈ (w.perform request answer).2.causes →
      MarkedFor l host seat cause := by
  intro seat cause hmem
  cases request with
  | markStartupQuarantine => exact h.marked seat cause hmem
  | markSeatStartupQuarantine marked for_ =>
    rcases List.mem_cons.mp hmem with heq | hmem
    · cases heq
      exact hr
    · exact h.marked seat cause hmem
  | clearSeatStartupQuarantine cleared own => exact h.marked seat cause (List.mem_filter.mp hmem).1
  | _ =>
    rw [causes_perform rfl] at hmem
    exact h.marked seat cause hmem

theorem causesClosed_perform {l : PersistentRecoveryLedger} {host : StartupHost}
    (hone : OneCause l host) (h : CausesFound l host w) (hr : MarksFound l host request) :
    CausesClosed (w.perform request answer).2 := by
  intro seat cause hmem
  cases request with
  | markStartupQuarantine => rfl
  | markSeatStartupQuarantine marked for_ =>
    rcases List.mem_cons.mp hmem with heq | hmem
    · cases heq
      simp [PersistentRecoveryLedger.seatClosed, seatStartupQuarantined, StartupWorld.perform,
        PersistentRecoveryLedger.markSeatStartupQuarantine]
    · exact seatClosed_perform answer (by simp) (h.closed seat cause hmem)
  | clearSeatStartupQuarantine cleared own =>
    obtain ⟨hkept, hne⟩ := List.mem_filter.mp hmem
    by_cases hseat : cleared = seat
    · -- what is left of this seat's causes is not the one that was lifted
      subst hseat
      obtain ⟨id, rfl, hlifts⟩ := hr
      rcases hone id cleared hlifts with hwhole | honly
      · exact seatClosed_of_closedWhole (h.whole cleared hwhole)
      · have hcause := honly cause (h.marked cleared cause hkept)
        simp [hcause] at hne
    · refine seatClosed_perform answer (fun c heq => hseat ?_) (h.closed seat cause hkept)
      cases heq
      rfl
  | _ =>
    rw [causes_perform rfl] at hmem
    exact seatClosed_perform answer (by simp) (h.closed seat cause hmem)

theorem CausesFound.perform {l : PersistentRecoveryLedger} {host : StartupHost}
    (hone : OneCause l host) (h : CausesFound l host w) (hr : MarksFound l host request) :
    CausesFound l host (w.perform request answer).2 :=
  ⟨markedFor_perform h hr, fun seat hwhole => closedWhole_perform (h.whole seat hwhole),
    causesClosed_perform hone h hr⟩

end Causes

def StartupWorld.opened (directory : PersistentRecoveryLedger) (bootId : Option String) :
    StartupWorld where
  ledger := directory.openDirectory bootId
  causes := (directory.openDirectory bootId).journalCauses

theorem causesClosed_opened (directory : PersistentRecoveryLedger) (bootId : Option String) :
    CausesClosed (.opened directory bootId) := by
  have happly : ∀ (l : PersistentRecoveryLedger) seat cause,
      (seat, cause) ∈ l.applyHistoricalJournalQuarantine.journalCauses →
        l.applyHistoricalJournalQuarantine.seatClosed seat = true := by
    intro l seat cause hmem
    have hload : l.applyHistoricalJournalQuarantine.loadJournal = l.loadJournal := by
      unfold applyHistoricalJournalQuarantine
      split
      · rfl
      · rfl
      · split <;> rfl
    rw [journalCauses, hload] at hmem
    cases hl : l.loadJournal with
    | none => simp [hl] at hmem
    | some loaded =>
      simp only [hl, List.mem_map, Prod.mk.injEq] at hmem
      obtain ⟨e, he, rfl, -⟩ := hmem
      have hseats : e.seat ∈ l.applyHistoricalJournalQuarantine.startupQuarantinedSeats := by
        cases hjournal : l.journal with
        | absent =>
          rw [PersistentRecoveryLedger.loadJournal, hjournal] at hl
          cases hl
          simp at he
        | leftover =>
          rw [PersistentRecoveryLedger.loadJournal, hjournal] at hl
          cases hl
        | unusable =>
          rw [PersistentRecoveryLedger.loadJournal, hjournal] at hl
          cases hl
        | stored journal =>
          simp only [applyHistoricalJournalQuarantine, hjournal, hl]
          exact List.mem_append_right _ (List.mem_map_of_mem he)
      simp only [PersistentRecoveryLedger.seatClosed, seatStartupQuarantined, Bool.or_eq_true,
        List.contains_iff_mem]
      exact Or.inl (Or.inr hseats)
  exact fun seat cause hmem => happly _ seat cause hmem

section Errors
variable {seat : String} {w : StartupWorld} {β γ : Type}

/-- The seat is in the set of startup-quarantined seats. -/
def Marked (seat : String) (w : StartupWorld) : Prop :=
  w.ledger.seatStartupQuarantined seat = true

def KeepsMarks (request : StartupRequest) : Prop :=
  ∀ seat cause, request ≠ .clearSeatStartupQuarantine seat cause

theorem marked_perform {request : StartupRequest} (answer : StartupAnswer)
    (hkeeps : KeepsMarks request) (h : Marked seat w) :
    Marked seat (w.perform request answer).2 := by
  unfold Marked seatStartupQuarantined at h ⊢
  cases request with
  | markStartupQuarantine => exact h
  | markSeatStartupQuarantine marked cause =>
    simp only [StartupWorld.perform, PersistentRecoveryLedger.markSeatStartupQuarantine,
      List.contains_iff_mem, List.mem_insert_iff] at h ⊢
    exact Or.inr h
  | clearSeatStartupQuarantine cleared cause => exact absurd rfl (hkeeps cleared cause)
  | _ => rwa [(sameMarks_perform answer rfl).seats]

abbrev ErrorKeeps (seat : String) (p : PreviousBootM β) (w : StartupWorld) : Prop :=
  Program.Sat StartupWorld.perform PublicationStored (fun _ _ => True) p w
    fun result w' => (∃ e, result = .error e) → Marked seat w'

theorem ErrorKeeps.bind {p : PreviousBootM β} {f : β → PreviousBootM γ}
    (hp : p.Asks KeepsMarks) (hw : Marked seat w)
    (hf : ∀ a w', Marked seat w' → ErrorKeeps seat (f a) w') : ErrorKeeps seat (p >>= f) w := by
  have hsat : Program.Sat StartupWorld.perform PublicationStored (fun _ _ => True) p w
      fun _ w' => Marked seat w' :=
    Program.Asks.sat hp (Marked seat) (fun _ _ _ _ => trivial)
      (fun _ _ x hs hr => marked_perform x hr hs) hw
  refine Program.Sat.bind hsat fun result w' hw' => ?_
  cases result with
  | ok a => exact hf a w' hw'
  | error e => exact fun _ => hw'

theorem ErrorKeeps.okOr_bind {o : Option β} {e : PreviousBootFinalizationError}
    {f : β → PreviousBootM γ} (hw : Marked seat w)
    (hf : ∀ a, o = some a → ErrorKeeps seat (f a) w) :
    ErrorKeeps seat (Attempt.okOr o e >>= f) w := by
  cases o with
  | none => exact fun _ => hw
  | some a => exact hf a rfl

theorem ErrorKeeps.check_bind {r : Except PreviousBootFinalizationError β} {f : β → PreviousBootM γ}
    (hw : Marked seat w) (hf : ∀ a, ErrorKeeps seat (f a) w) :
    ErrorKeeps seat (Attempt.check r >>= f) w := by
  cases r with
  | error e => exact fun _ => hw
  | ok a => exact hf a

theorem ErrorKeeps.readLedger_bind {f : PersistentRecoveryLedger → PreviousBootM γ}
    (hf : ErrorKeeps seat (f w.ledger) w) : ErrorKeeps seat (readLedger >>= f) w :=
  ⟨trivial, fun _ _ => hf⟩

theorem keepsMarks_updates : AllowsUpdates KeepsMarks := ⟨nofun, fun _ _ => nofun⟩

theorem asks_persistEntry (journal : HistoricalFinalizationJournal)
    (entry : HistoricalFinalizationEntry) : (persistEntry journal entry).Asks KeepsMarks :=
  (Attempt.asks_perform nofun _).bind fun _ => Attempt.asks_pure _

theorem asks_runtimeReleaseIntent (a : PreviousBootFinalizationAuthority)
    (journal : HistoricalFinalizationJournal) (entry : HistoricalFinalizationEntry)
    (current : PersistentRecoveryRecord) :
    (runtimeReleaseIntent a journal entry current).Asks KeepsMarks := by
  unfold runtimeReleaseIntent
  split
  · refine (Attempt.asks_okOr _ _).bind fun _ => ?_
    refine (asks_advanceRuntimeRelease keepsMarks_updates _ _).bind fun _ => ?_
    refine (asks_persistEntry _ _).bind fun _ => ?_
    refine (asks_readRecord keepsMarks_updates _ _).bind fun record => ?_
    split
    · exact Attempt.asks_pure _
    · exact Attempt.asks_fail _
  · exact Attempt.asks_pure _
  · exact Attempt.asks_pure _
  · exact Attempt.asks_fail _
  · exact Attempt.asks_fail _

theorem asks_openEntry (journal : HistoricalFinalizationJournal)
    (entry : HistoricalFinalizationEntry) (existing : Option HistoricalFinalizationStage) :
    (openEntry journal entry existing).Asks KeepsMarks := by
  cases existing with
  | none => exact (asks_persistEntry _ _).bind fun _ => (asks_persistEntry _ _).bind fun _ =>
      Attempt.asks_pure _
  | some stage => exact Attempt.asks_pure _

theorem mem_upsert_self (journal : HistoricalFinalizationJournal)
    (e : HistoricalFinalizationEntry) : e ∈ (journal.upsert e).entries :=
  List.mem_of_find?_eq_some (journal.entry_upsert_self e)

theorem persistEntry_stored (journal : HistoricalFinalizationJournal)
    (entry : HistoricalFinalizationEntry) (hw : Marked seat w) :
    Program.Sat StartupWorld.perform PublicationStored (fun _ _ => True) (persistEntry journal entry) w
      fun result w' => Marked seat w' ∧ ∀ stored, result = .ok stored →
        stored = journal.upsert entry ∧ w'.ledger.journal = .stored stored := by
  have hkeeps : KeepsMarks (.persistJournal (journal.upsert entry)) := by simp [KeepsMarks]
  have hstore : Program.Sat StartupWorld.perform PublicationStored (fun _ _ => True)
      (Attempt.perform (.persistJournal (journal.upsert entry)) .io : PreviousBootM Unit) w
      fun result w' => Marked seat w' ∧
        (result = .ok () → w'.ledger.journal = .stored (journal.upsert entry)) := by
    refine Attempt.sat_perform_result trivial (fun x _ hok => ⟨marked_perform x hkeeps hw, ?_⟩)
      fun x _ _ => ⟨marked_perform x hkeeps hw, by simp⟩
    simp only [StartupWorld.perform, StartupWorld.onLedger] at hok ⊢
    rcases w.ledger.persistJournal_cases (journal.upsert entry) x.journal with hp | ⟨-, -, -, hp⟩
    · rw [hp] at hok
      cases hok
    · rw [hp]
      exact fun _ => rfl
  refine Program.Sat.bind hstore fun result w' hafter => ?_
  obtain ⟨hmarked, hstored⟩ := hafter
  cases result with
  | error e => exact ⟨hmarked, by simp⟩
  | ok _ =>
    refine ⟨hmarked, fun stored heq => ?_⟩
    cases heq
    exact ⟨rfl, hstored rfl⟩

theorem publication_stored {journal : HistoricalFinalizationJournal}
    (h : w.ledger.Publishes journal) :
    Program.Sat StartupWorld.perform PublicationStored (fun _ _ => True)
      (Attempt.perform (.persistJournal journal) .io : PreviousBootM Unit) w
      fun result _ => result = .ok () := by
  refine Attempt.sat_perform_result trivial (fun _ _ _ => rfl) fun x hx hrefused => ?_
  have hok := hx h
  rw [hrefused] at hok
  cases hok

theorem persistEntry_published {journal : HistoricalFinalizationJournal}
    {entry : HistoricalFinalizationEntry} (h : w.ledger.Publishes (journal.upsert entry)) :
    Program.Sat StartupWorld.perform PublicationStored (fun _ _ => True) (persistEntry journal entry) w
      fun result _ => ∃ stored, result = .ok stored := by
  refine Program.Sat.bind (publication_stored h) fun result w' hresult => ?_
  subst hresult
  exact ⟨_, rfl⟩

theorem errors_publish {journal : HistoricalFinalizationJournal} (entry : HistoricalFinalizationEntry)
    (hdisk : w.ledger.journal = .stored (journal.upsert { entry with stage := .removed })) :
    ErrorKeeps seat (persistEntry (journal.upsert { entry with stage := .removed })
      { entry with stage := .freePublished } >>= fun _ =>
        pure PreviousBootFinalizationOutcome.seatFreed) w := by
  -- the entry on disk still says `Removed`, so this write is the one that publishes
  have hpublishes : w.ledger.Publishes ((journal.upsert { entry with stage := .removed }).upsert
      { entry with stage := .freePublished }) :=
    ⟨_, hdisk, _, mem_upsert_self _ _, nofun, _, mem_upsert_self _ _, rfl, rfl⟩
  refine Program.Sat.bind (persistEntry_published hpublishes) fun result w' ⟨stored, hresult⟩ => ?_
  subst hresult
  exact nofun

/-- The mark is lifted only before the last write, which succeeds. -/
theorem errors_removeAndPublish (host : PreviousBootHost) (a : PreviousBootFinalizationAuthority)
    (journal : HistoricalFinalizationJournal) (entry : HistoricalFinalizationEntry)
    (hw : Marked seat w) : ErrorKeeps seat (removeAndPublish host a journal entry) w := by
  refine .bind (asks_persistEntry _ _) hw fun journal₁ w₁ h₁ => ?_
  refine .bind (asks_persistEntry _ _) h₁ fun journal₂ w₂ h₂ => ?_
  refine .bind (asks_guardCurrentBoot keepsMarks_updates _ _) h₂ fun _ w₃ h₃ => ?_
  refine .bind (Attempt.asks_perform nofun _) h₃ fun _ w₄ h₄ => ?_
  refine Program.Sat.bind (persistEntry_stored _ _ h₄) fun result w₅ ⟨h₅, hstored⟩ => ?_
  cases result with
  | error e => exact fun _ => h₅
  | ok journal₃ =>
    obtain ⟨rfl, hdisk⟩ := hstored journal₃ rfl
    refine ⟨trivial, fun x _ => ?_⟩
    exact errors_publish (entry.follow a .runtimeReleaseConfirmed) hdisk

theorem errors_authorityForRuntime (host : PreviousBootHost)
    (a : PreviousBootFinalizationAuthority) (journal : HistoricalFinalizationJournal)
    (entry : HistoricalFinalizationEntry) (hw : Marked seat w) :
    ErrorKeeps seat (authorityForRuntime host a journal entry) w := by
  refine .bind (asks_readRecord keepsMarks_updates _ _) hw fun current w₁ h₁ => ?_
  refine .bind (asks_runtimeReleaseIntent _ _ _ _) h₁ fun (intent, attempt, journal') w₂ h₂ => ?_
  refine .bind (asks_guardCurrentBoot keepsMarks_updates _ _) h₂ fun _ w₃ h₃ => ?_
  refine .bind (asks_runtimeReleaseConfirmed keepsMarks_updates _ _) h₃ fun confirmed w₄ h₄ => ?_
  exact errors_removeAndPublish host confirmed journal' entry h₄

theorem errors_executePreviousBootPlan (host : PreviousBootHost) (record : PersistentRecoveryRecord)
    (boot : String) (facts : PreviousBootCurrentFacts) (plan : PreviousBootRecoveryPlan)
    (hw : Marked seat w) :
    ErrorKeeps seat (executePreviousBootPlan host record boot facts plan) w := by
  unfold executePreviousBootPlan
  split
  · exact nofun
  · refine .bind (asks_readLedger keepsMarks_updates) hw fun _ w₁ h₁ => ?_
    refine .bind (Attempt.asks_okOr _ _) h₁ fun _ w₂ h₂ => ?_
    refine .bind (asks_revalidate keepsMarks_updates _ _ _ _ _ _) h₂ fun a w₃ h₃ => ?_
    refine .bind (asks_readLedger keepsMarks_updates) h₃ fun _ w₄ h₄ => ?_
    refine .bind (Attempt.asks_okOr _ _) h₄ fun _ w₅ h₅ => ?_
    refine .bind (Attempt.asks_check _) h₅ fun _ w₆ h₆ => ?_
    refine .bind (asks_readRecord keepsMarks_updates _ _) h₆ fun current w₇ h₇ => ?_
    dsimp only
    split
    · refine .bind (asks_openEntry _ _ _) h₇ fun (journal, entry) w₈ h₈ => ?_
      refine .bind (asks_reachResolutionIntent keepsMarks_updates _ _ _) h₈ fun a₁ w₉ h₉ => ?_
      refine .bind (asks_persistEntry _ _) h₉ fun journal₁ w₁₀ h₁₀ => ?_
      refine .bind (asks_reachRecordResolved keepsMarks_updates _ _) h₁₀ fun a₂ w₁₁ h₁₁ => ?_
      refine .bind (asks_persistEntry _ _) h₁₁ fun journal₂ w₁₂ h₁₂ => ?_
      exact errors_authorityForRuntime host _ _ _ h₁₂
    · refine .bind (asks_readRecord keepsMarks_updates _ _) h₇ fun current' w₈ h₈ => ?_
      dsimp only
      split
      · refine .bind (asks_advanceRecordResolved keepsMarks_updates _) h₈ fun a₁ w₉ h₉ => ?_
        exact errors_authorityForRuntime host _ _ _ h₉
      · exact errors_authorityForRuntime host _ _ _ h₈

/-- Of the entries that are still to visit, every one is on disk; either no mark has been lifted
yet, or the journal to be written publishes a seat and no later entry can fail. -/
structure Resuming (seat : String) (rest : List HistoricalFinalizationEntry)
    (journal : HistoricalFinalizationJournal) (completed : Nat) (w : StartupWorld) : Prop where
  onDisk : rest = [] ∨ ∃ durable, w.ledger.journal = .stored durable ∧ rest ⊆ durable.entries
  named : w.ledger.RemovalsNamed
  lifted : (completed = 0 ∧ Marked seat w) ∨
    (completed ≠ 0 ∧ w.ledger.Publishes journal)

def Resumed (seat : String) (result : Except PreviousBootFinalizationError
    (HistoricalFinalizationJournal × Nat)) (w : StartupWorld) : Prop :=
  match result with
  | .ok (journal, completed) => (completed = 0 ∧ Marked seat w) ∨
    (completed ≠ 0 ∧ w.ledger.Publishes journal)
  | .error _ => Marked seat w

section Resume
variable {entry : HistoricalFinalizationEntry} {rest : List HistoricalFinalizationEntry}
  {journal : HistoricalFinalizationJournal} {completed : Nat}

theorem resuming_start (hnamed : w.ledger.RemovalsNamed)
    (hload : w.ledger.loadJournal = some journal) (hw : Marked seat w) :
    Resuming seat journal.entries journal 0 w := by
  refine ⟨?_, hnamed, Or.inl ⟨rfl, hw⟩⟩
  cases hfile : w.ledger.journal with
  | absent =>
    rw [PersistentRecoveryLedger.loadJournal, hfile] at hload
    cases hload
    exact Or.inl rfl
  | leftover =>
    rw [PersistentRecoveryLedger.loadJournal, hfile] at hload
    cases hload
  | unusable =>
    rw [PersistentRecoveryLedger.loadJournal, hfile] at hload
    cases hload
  | stored durable =>
    simp only [PersistentRecoveryLedger.loadJournal, hfile, Option.ite_none_left_eq_some] at hload
    cases hload.2
    exact Or.inr ⟨journal, rfl, fun _ he => he⟩

theorem Resuming.skip (h : Resuming seat (entry :: rest) journal completed w) :
    Resuming seat rest journal completed w := by
  refine ⟨?_, h.named, h.lifted⟩
  rcases h.onDisk with hnil | ⟨durable, hstored, hsub⟩
  · cases hnil
  · exact Or.inr ⟨durable, hstored, fun e he => hsub (List.mem_cons_of_mem _ he)⟩

/-- The entry that lifts a mark is the one that the journal will publish. -/
theorem Resuming.lift (h : Resuming seat (entry :: rest) journal completed w)
    (hstage : entry.stage ≠ .freePublished) (x : StartupAnswer) :
    Resuming seat rest (journal.upsert { entry with stage := .freePublished }) (completed + 1)
      (w.perform (.clearSeatStartupQuarantine entry.seat (.record entry.recordId)) x).2 := by
  rcases h.onDisk with hnil | ⟨durable, hstored, hsub⟩
  · cases hnil
  · have hmem := hsub (List.mem_cons_self ..)
    refine ⟨Or.inr ⟨durable, hstored, fun e he => hsub (List.mem_cons_of_mem _ he)⟩, h.named,
      Or.inr ⟨nofun, ?_⟩⟩
    exact ⟨durable, hstored, entry, hmem, hstage, _, mem_upsert_self _ _, rfl, rfl⟩

theorem Resuming.name (h : Resuming seat (entry :: rest) journal completed w)
    (hintent : entry.stage = .removalIntent) (ledger : PersistentRecoveryLedger) :
    ledger.recordFileExists entry.recordId ≠ none := by
  rcases h.onDisk with hnil | ⟨durable, hstored, hsub⟩
  · cases hnil
  · have hvalid := h.named durable hstored entry (hsub (List.mem_cons_self ..)) hintent
    simp [recordFileExists, hvalid]

theorem resumeEntries_resumed (ledger : PersistentRecoveryLedger)
    (h : Resuming seat rest journal completed w) :
    Program.Sat StartupWorld.perform PublicationStored (fun _ _ => True)
      (resumeEntries ledger rest journal completed) w (Resumed seat) := by
  induction rest generalizing journal completed w with
  | nil => exact h.lifted
  | cons entry rest ih =>
    have hlift : entry.stage ≠ .freePublished →
        Program.Sat StartupWorld.perform PublicationStored (fun _ _ => True)
          (.ask (.clearSeatStartupQuarantine entry.seat (.record entry.recordId)) fun ok _ =>
            if ok then resumeEntries ledger rest
              (journal.upsert { entry with stage := .freePublished }) (completed + 1)
            else .done (.error .io)) w (Resumed seat) :=
      fun hstage => ⟨trivial, fun x _ => ih (h.lift hstage x)⟩
    unfold resumeEntries
    split
    · exact ih h.skip
    · rename_i hgone
      split
      · rename_i hintent
        split
        · rename_i hname
          exact absurd hname (h.name hintent ledger)
        · exact ih h.skip
        · refine hlift ?_
          rw [hintent]
          nofun
      · refine hlift fun hfree => hgone (Or.inl ?_)
        rw [hfree]
        exact ⟨nofun, nofun⟩

theorem errors_resumeRemovedPreviousBootFinalization (hnamed : w.ledger.RemovalsNamed)
    (hw : Marked seat w) :
    ErrorKeeps seat resumeRemovedPreviousBootFinalization w := by
  refine .readLedger_bind (.okOr_bind hw fun journal hload => .check_bind hw fun _ => ?_)
  have hstart := resuming_start hnamed hload hw
  dsimp only
  split
  · exact fun _ => hw
  · refine Program.Sat.bind (resumeEntries_resumed w.ledger hstart) fun result w' hresumed => ?_
    cases result with
    | error e => exact fun _ => hresumed
    | ok result =>
      obtain ⟨journal', completed⟩ := result
      rcases hresumed with ⟨rfl, hmarked⟩ | ⟨hne, hpublishes⟩
      · exact fun _ => hmarked
      · dsimp only
        rw [if_neg hne]
        refine Program.Sat.bind (publication_stored hpublishes) fun result w'' hresult => ?_
        subst hresult
        exact nofun

end Resume

end Errors

def StartupWorld.reconciling (directory : PersistentRecoveryLedger) (bootId : Option String)
    (host : StartupHost) (answers : List StartupAnswer) : StartupWorld :=
  (answers.foldl (Program.step StartupWorld.perform)
    (.opened directory bootId, reconcile host)).1

/-- Where everything that startup can finalize on a seat is all that the seat can be marked for, a
seat stays closed, and refused to every later login, for everything it was marked for and that is
still outstanding. A finalization that fails leaves every seat's mark if the write that publishes a
freed seat succeeds, and so does a resumption of entries whose names can be looked up. -/
theorem quarantine_lifted_by_own_cause (directory : PersistentRecoveryLedger)
    (bootId : Option String) (host : StartupHost)
    (hone : OneCause (directory.openDirectory bootId) host) (answers : List StartupAnswer) :
    let w := StartupWorld.reconciling directory bootId host answers
    CausesClosed w ∧
    (∀ cause, ("seat0", cause) ∈ w.causes →
      ∀ processId store actions, StepsMeet SupervisorWorld.step SupervisorWorld.Admits
          (.new processId (some w.ledger) store) actions →
        ∀ id vt created, ∃ e, ((actions.foldl SupervisorWorld.step
          (.new processId (some w.ledger) store)).loop.reserveSeat id vt created).1 = .error e) ∧
    (∀ seat (w : StartupWorld) (answers : Nat → StartupAnswer) n, Marked seat w →
      (∀ host record boot facts plan,
        let execute := executePreviousBootPlan host record boot facts plan
        Program.RunMeets StartupWorld.perform PublicationStored answers execute w n →
        ∀ e, (Program.run StartupWorld.perform answers execute w n).1 = .error e →
          Marked seat (Program.run StartupWorld.perform answers execute w n).2) ∧
      (w.ledger.RemovalsNamed →
        Program.RunMeets StartupWorld.perform PublicationStored answers
          resumeRemovedPreviousBootFinalization w n →
        ∀ e, (Program.run StartupWorld.perform answers resumeRemovedPreviousBootFinalization
            w n).1 = .error e →
          Marked seat (Program.run StartupWorld.perform answers
            resumeRemovedPreviousBootFinalization w n).2)) := by
  intro w
  have hfound : CausesFound (directory.openDirectory bootId) host w := by
    refine Program.Sat.steps_invariant (found_reconcile rfl)
      (CausesFound (directory.openDirectory bootId) host)
      (fun _ _ _ hs hr _ => hs.perform hone hr) ?_
      (stepsMeet_of_forall (fun _ _ _ _ => trivial) _ _)
    exact ⟨fun _ _ hmem => .journal hmem, fun _ hwhole => hwhole,
      causesClosed_opened directory bootId⟩
  refine ⟨hfound.closed, fun cause hmem processId store actions hrun id vt created => ?_,
    fun seat w answers n hw => ⟨fun host record boot facts plan hm e he => ?_,
      fun hnamed hm e he => ?_⟩⟩
  · exact reserveSeat_of_closed (hfound.closed _ _ hmem) processId store actions hrun id vt created
  · exact Program.Sat.run (errors_executePreviousBootPlan host record boot facts plan hw) hm
      ⟨e, he⟩
  · exact Program.Sat.run (errors_resumeRemovedPreviousBootFinalization hnamed hw) hm ⟨e, he⟩

section Sample

/-- An earlier process unlinked the record of a login on the seat, and went no further. -/
def removedEntry (seat : String) : HistoricalFinalizationEntry :=
  ⟨"worker-0", "worker-0", seat, "boot-1", 5, .removed, [], some 1⟩

def removedDirectory (seat : String) : PersistentRecoveryLedger :=
  { journal := .stored ⟨[removedEntry seat]⟩ }

def sixSynced : List StartupAnswer := List.replicate 6 { write := ⟨some "boot-1", .synced⟩ }

theorem removedDirectory_oneCause : OneCause ((removedDirectory "seat1").openDirectory
    (some "boot-1")) (quietHost (.knownSeats ["seat0"])) := by
  have hopened : (removedDirectory "seat1").openDirectory (some "boot-1") =
      { removedDirectory "seat1" with startupQuarantinedSeats := ["seat1"] } := rfl
  have hmarked : ∀ seat cause, MarkedFor ((removedDirectory "seat1").openDirectory (some "boot-1"))
      (quietHost (.knownSeats ["seat0"])) seat cause → seat = "seat1" → cause = .record "worker-0" := by
    intro seat cause hmarked hseat
    rw [hopened] at hmarked
    cases hmarked with
    | journal h =>
      cases List.mem_singleton.mp h
      rfl
    | scope h hmem =>
      cases h
      cases List.mem_singleton.mp hmem
      exact absurd hseat (by decide)
    | record hr hboot => cases hr
  intro id seat hlifts
  rw [hopened] at hlifts
  cases hlifts with
  | unlinked hload he hstage =>
    cases hload
    cases List.mem_singleton.mp he
    exact Or.inr fun cause hcause => hmarked _ cause hcause rfl
  | planned hr hboot hplan ht hid => cases hr

/-- The unfinished login on `seat1` lifts its own mark; the unknown scope on `seat0` keeps that seat
closed. -/
theorem removedEntry_lifts_own_mark : ∃ e, ((SupervisorWorld.new 1 (some (StartupWorld.reconciling
    (removedDirectory "seat1") (some "boot-1") (quietHost (.knownSeats ["seat0"]))
    sixSynced).ledger) none).loop.reserveSeat "worker-2" (some ⟨1⟩) none).1 = .error e :=
  (quarantine_lifted_by_own_cause _ _ _ removedDirectory_oneCause sixSynced).2.1 .unknownScope
    (by decide +kernel) 1 none [] trivial "worker-2" (some ⟨1⟩) none

/-- The resumed login clears the mark that the unknown scope made on the same seat. -/
theorem unknownScope_mark_lost :
    let w := StartupWorld.reconciling (removedDirectory "seat0") (some "boot-1")
      (quietHost (.knownSeats ["seat0"])) sixSynced
    ("seat0", .unknownScope) ∈ w.causes ∧
      ∃ lease, ((SupervisorWorld.new 1 (some w.ledger) none).loop.reserveSeat "worker-2" (some ⟨1⟩)
        none).1 = .ok lease := by
  intro w
  constructor
  · decide +kernel
  · exact ⟨_, rfl⟩

end Sample

end Niralis
