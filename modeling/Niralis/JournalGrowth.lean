import Mathlib.Data.List.Nodup
import Niralis.PreviousBootProgress

namespace Niralis
open PersistentRecoveryLedger

def addId (ids : List String) (id : String) : List String :=
  if id ∈ ids then ids else ids ++ [id]

namespace HistoricalFinalizationJournal

def ids (journal : HistoricalFinalizationJournal) : List String := journal.entries.map (·.recordId)

theorem map_upsertEntry (e : HistoricalFinalizationEntry) (l : List HistoricalFinalizationEntry) :
    (upsertEntry e l).map (·.recordId) = addId (l.map (·.recordId)) e.recordId := by
  induction l with
  | nil => simp [upsertEntry, addId]
  | cons current rest ih =>
    unfold upsertEntry
    split
    next h => simp [addId, h]
    next h =>
      rw [List.map_cons, ih, List.map_cons]
      unfold addId
      by_cases hmem : e.recordId ∈ rest.map (·.recordId)
      · rw [if_pos hmem, if_pos (List.mem_cons_of_mem _ hmem)]
      · have hnot : e.recordId ∉ current.recordId :: rest.map (·.recordId) := fun hin =>
          (List.mem_cons.mp hin).elim (fun heq => h heq.symm) hmem
        rw [if_neg hmem, if_neg hnot, List.cons_append]

theorem upsertEntry_of_new {e : HistoricalFinalizationEntry}
    {l : List HistoricalFinalizationEntry} (h : ∀ e' ∈ l, e'.recordId ≠ e.recordId) :
    upsertEntry e l = l ++ [e] := by
  induction l with
  | nil => rfl
  | cons current rest ih =>
    unfold upsertEntry
    rw [if_neg (h current List.mem_cons_self), ih fun e' he' => h e' (List.mem_cons_of_mem _ he')]
    rfl

theorem ids_upsert (journal : HistoricalFinalizationJournal) (e : HistoricalFinalizationEntry) :
    (journal.upsert e).ids = addId journal.ids e.recordId := map_upsertEntry e journal.entries

theorem ids_upsert_of_mem {journal : HistoricalFinalizationJournal}
    {e : HistoricalFinalizationEntry} (h : e.recordId ∈ journal.ids) :
    (journal.upsert e).ids = journal.ids := by
  rw [ids_upsert, addId, if_pos h]

end HistoricalFinalizationJournal

namespace PersistentRecoveryLedger

/-- The journal can be read and takes the entry: neither limit is in the way. -/
def accepts (l : PersistentRecoveryLedger) (entry : HistoricalFinalizationEntry) : Prop :=
  ∃ journal, l.loadJournal = some journal ∧
    (l.persistJournal (journal.upsert entry) .synced).1 = true

theorem accepts_iff {l : PersistentRecoveryLedger} {journal : HistoricalFinalizationJournal}
    {entry : HistoricalFinalizationEntry} (h : l.loadJournal = some journal) :
    l.accepts entry ↔ (addId journal.ids entry.recordId).length ≤ maxJournalEntries ∧
      (journal.upsert entry).jsonBytes l.device ≤ maxRecoveryRecordBytes := by
  have hlength : (journal.upsert entry).entries.length =
      (addId journal.ids entry.recordId).length := by
    rw [← HistoricalFinalizationJournal.ids_upsert, HistoricalFinalizationJournal.ids,
      List.length_map]
  have hstored : (l.persistJournal (journal.upsert entry) .synced).1 = true ↔
      (journal.upsert entry).entries.length ≤ maxJournalEntries ∧
        (journal.upsert entry).jsonBytes l.device ≤ maxRecoveryRecordBytes := by
    unfold persistJournal
    split
    next hfull => exact iff_of_false nofun fun hle => absurd hle.1 (Nat.not_le.mpr hfull)
    next hentries =>
      split
      next hlarge => exact iff_of_false nofun fun hle => absurd hle.2 (Nat.not_le.mpr hlarge)
      next hbytes => exact iff_of_true rfl ⟨Nat.not_lt.mp hentries, Nat.not_lt.mp hbytes⟩
  rw [← hlength, ← hstored]
  constructor
  · rintro ⟨journal', hload, haccepted⟩
    obtain rfl := Option.some.inj (h.symm.trans hload)
    exact haccepted
  · exact fun haccepted => ⟨journal, h, haccepted⟩

theorem loadJournal_perform {w : StartupWorld} (h : w.ledger.loadJournal ≠ none)
    (request : StartupRequest) (answer : StartupAnswer) :
    (w.perform request answer).2.ledger.loadJournal ≠ none := by
  have hcongr : ∀ l : PersistentRecoveryLedger, l.journal = w.ledger.journal →
      l.loadJournal ≠ none := fun l hl => by
    unfold loadJournal at h ⊢
    rwa [hl]
  cases request with
  | write id write => exact hcongr _ (w.ledger.journal_write id write answer.write)
  | removeRecordExact id file =>
    exact hcongr _ (w.ledger.journal_removeRecordExact id file answer.remove)
  | removeResolved id => exact hcongr _ (w.ledger.journal_removeResolved id answer.remove)
  | persistJournal journal =>
    simp only [StartupWorld.perform, StartupWorld.onLedger]
    rcases w.ledger.persistJournal_cases journal answer.journal with hp | ⟨hlength, -, -, hp⟩
    · rwa [hp]
    · rw [hp]
      simp [loadJournal, Nat.not_lt.mpr hlength]
  | inspect => exact h
  | effect effect id => exact h
  | markStartupQuarantine => exact h
  | markSeatStartupQuarantine seat cause => exact h
  | clearSeatStartupQuarantine seat cause => exact h
  | countFree id => exact h
  | countQuarantined id => exact h
  | addToSummary free quarantined => exact h

/-- The journal on disk can be read and has entries for these records. -/
def JournalHas (l : PersistentRecoveryLedger) (ids : List String) : Prop :=
  ∃ journal, l.loadJournal = some journal ∧ journal.ids = ids

theorem JournalHas.congr {l l' : PersistentRecoveryLedger} {ids : List String}
    (h : l.JournalHas ids) (hjournal : l'.journal = l.journal) : l'.JournalHas ids := by
  unfold JournalHas loadJournal at h ⊢
  rwa [hjournal]

end PersistentRecoveryLedger

section Resume
variable {ids : List String} {w : StartupWorld}

/-- What the resumption asks for: it moves no entry of another record into the journal. -/
def ResumeRequest (ids : List String) : StartupRequest → Prop
  | .inspect => True
  | .clearSeatStartupQuarantine _ _ => True
  | .persistJournal journal => journal.ids = ids
  | _ => False

theorem journalHas_perform {request : StartupRequest} (h : w.ledger.JournalHas ids)
    (hr : ResumeRequest ids request) (answer : StartupAnswer) :
    (w.perform request answer).2.ledger.JournalHas ids := by
  cases request with
  | inspect => exact h
  | clearSeatStartupQuarantine seat cause => exact h
  | persistJournal journal =>
    simp only [StartupWorld.perform, StartupWorld.onLedger]
    rcases w.ledger.persistJournal_cases journal answer.journal with hp | ⟨hlength, -, -, hp⟩
    · rwa [hp]
    · rw [hp]
      exact ⟨journal, by simp [loadJournal, Nat.not_lt.mpr hlength], hr⟩
  | write id write => exact hr.elim
  | effect effect id => exact hr.elim
  | removeResolved id => exact hr.elim
  | removeRecordExact id file => exact hr.elim
  | markStartupQuarantine => exact hr.elim
  | markSeatStartupQuarantine seat cause => exact hr.elim
  | countFree id => exact hr.elim
  | countQuarantined id => exact hr.elim
  | addToSummary free quarantined => exact hr.elim

abbrev ResumeSat {β : Type} (ids : List String) (p : PreviousBootM β) (w : StartupWorld)
    (post : β → StartupWorld → Prop) : Prop :=
  p.Sat StartupWorld.perform (fun _ _ _ => True) (fun _ => ResumeRequest ids) w post

/-- The entries are those of the journal, whatever stage they are given. -/
theorem resume_entries (ledger : PersistentRecoveryLedger)
    (entries : List HistoricalFinalizationEntry) (journal : HistoricalFinalizationJournal)
    (completed : Nat) (hj : journal.ids = ids) (hmem : ∀ e ∈ entries, e.recordId ∈ ids) :
    ResumeSat ids (resumeEntries ledger entries journal completed) w
      fun result _ => result.1.ids = ids := by
  induction entries generalizing journal completed w with
  | nil => exact hj
  | cons entry rest ih =>
    have hrest : ∀ e ∈ rest, e.recordId ∈ ids := fun e he => hmem e (List.mem_cons_of_mem _ he)
    have hin : ∀ stage, ({ entry with stage } : HistoricalFinalizationEntry).recordId ∈
        journal.ids := fun _ => hj ▸ hmem entry List.mem_cons_self
    have hfree : ResumeSat ids (do
        .perform (.clearSeatStartupQuarantine entry.seat (.record entry.recordId)) .io
        resumeEntries ledger rest (journal.upsert { entry with stage := .freePublished })
          (completed + 1)) w fun result _ => result.1.ids = ids := by
      have hclear : ResumeSat ids (.perform (.clearSeatStartupQuarantine entry.seat
          (.record entry.recordId)) .io) w fun _ _ => True := Attempt.sat_perform trivial fun _ _ _ => trivial
      refine hclear.bind fun _ _ _ => ih _ _ ?_ hrest
      rw [HistoricalFinalizationJournal.ids_upsert_of_mem (hin _), hj]
    unfold resumeEntries
    split
    · exact ih _ _ hj hrest
    · split
      · split
        · exact Attempt.sat_fail _ _ _
        · exact ih _ _ hj hrest
        · exact hfree
      · exact hfree

theorem resume_keeps_ids (h : w.ledger.JournalHas ids) :
    ResumeSat ids resumeRemovedPreviousBootFinalization w fun _ _ => True := by
  obtain ⟨journal, hload, rfl⟩ := h
  refine ⟨trivial, fun _ _ => ?_⟩
  refine Attempt.Sat.okOr_bind fun journal' hload' => ?_
  obtain rfl := Option.some.inj (hload.symm.trans hload')
  refine Attempt.Sat.check_bind fun _ _ => ?_
  split
  · trivial
  · refine (resume_entries _ journal.entries journal 0 rfl
      fun e he => List.mem_map_of_mem he).bind fun (journal', completed) w' hids => ?_
    dsimp only
    split
    · trivial
    · have hpersist : ResumeSat _ (.perform (.persistJournal journal') .io) w' fun _ _ => True :=
        Attempt.sat_perform hids fun _ _ _ => trivial
      exact hpersist.bind fun _ _ _ => trivial

end Resume

/-- Records of earlier boots are finalized one after another. Between two of them the process may
start again in another boot, with other records: all that stays is the journal on disk. -/
inductive FinalizedInTurn (first : PersistentRecoveryLedger) :
    List String → PersistentRecoveryLedger → Prop
  | start : FinalizedInTurn first [] first
  | finalize {ids : List String} {l : PersistentRecoveryLedger} (h : FinalizedInTurn first ids l)
    (w : StartupWorld) (hjournal : w.ledger.journal = l.journal)
    {record r : PersistentRecoveryRecord} {file : Nat}
    (hheld : w.ledger.Held record.lifecycleId r file) (host : PreviousBootHost) (boot : String)
    (facts : PreviousBootCurrentFacts) (plan : PreviousBootRecoveryPlan)
    (answers : Nat → StartupAnswer)
    (hfreed : ((executePreviousBootPlan host record boot facts plan).run StartupWorld.perform
      answers w 0).1 = .ok .seatFreed) :
    FinalizedInTurn first (ids ++ [record.lifecycleId])
      ((executePreviousBootPlan host record boot facts plan).run StartupWorld.perform answers w
        0).2.ledger
  | resume {ids : List String} {l : PersistentRecoveryLedger} (h : FinalizedInTurn first ids l)
    (w : StartupWorld) (hjournal : w.ledger.journal = l.journal) (answers : Nat → StartupAnswer) :
    FinalizedInTurn first ids
      (resumeRemovedPreviousBootFinalization.run StartupWorld.perform answers w 0).2.ledger

theorem anyAnswers {α : Type} (p : StartupM α) (w : StartupWorld) (answers : Nat → StartupAnswer) :
    p.RunMeets StartupWorld.perform (fun _ _ _ => True) answers w 0 :=
  Program.runMeets_of_forall (fun _ _ _ => trivial) p w answers 0

theorem journalHas_finalize {w : StartupWorld} {ids : List String}
    {record r : PersistentRecoveryRecord} {file : Nat} {host : PreviousBootHost} {boot : String}
    {facts : PreviousBootCurrentFacts} {plan : PreviousBootRecoveryPlan}
    {answers : Nat → StartupAnswer} (h : w.ledger.JournalHas ids)
    (hheld : w.ledger.Held record.lifecycleId r file)
    (hfreed : ((executePreviousBootPlan host record boot facts plan).run StartupWorld.perform
      answers w 0).1 = .ok .seatFreed) :
    ((executePreviousBootPlan host record boot facts plan).run StartupWorld.perform answers w
      0).2.ledger.JournalHas (addId ids record.lifecycleId) := by
  obtain ⟨journal, hload, rfl⟩ := h
  have hmeets := anyAnswers (executePreviousBootPlan host record boot facts plan) w answers
  have hpost := Program.Sat.run (safe_executePreviousBootPlan hheld) hmeets
  rw [hfreed] at hpost
  obtain ⟨-, journal', hload', hpublished⟩ := hpost rfl
  obtain rfl := Option.some.inj (hload.symm.trans hload')
  obtain ⟨e, he, -, hstored⟩ := hpublished.journal
  have hloads := Program.Sat.run_invariant (safe_executePreviousBootPlan hheld)
    (·.ledger.loadJournal ≠ none) (fun _ request x hs _ _ => loadJournal_perform hs request x)
    (by rw [hload]; nofun) hmeets
  refine ⟨journal.upsert e, ?_, ?_⟩
  · simp only [loadJournal, hstored] at hloads ⊢
    split at hloads
    · exact absurd rfl hloads
    next hlength => rw [if_neg hlength]
  · rw [HistoricalFinalizationJournal.ids_upsert, he]

theorem journalHas_finalizedInTurn {first l : PersistentRecoveryLedger} {start ids : List String}
    (hfirst : first.JournalHas start) (h : FinalizedInTurn first ids l) :
    l.JournalHas (ids.foldl addId start) := by
  induction h with
  | start => exact hfirst
  | finalize h w hjournal hheld host boot facts plan answers hfreed ih =>
    rw [List.foldl_append]
    exact journalHas_finalize (ih.congr hjournal) hheld hfreed
  | resume h w hjournal answers ih =>
    have hhas := ih.congr hjournal
    exact Program.Sat.run_invariant (resume_keeps_ids hhas) (·.ledger.JournalHas _)
      (fun _ _ x hs hr _ => journalHas_perform hs hr x) hhas
      (anyAnswers _ _ _)

/-- After any number of successful finalizations the journal takes the next entry exactly when all
records ever entered, with the new one, are at most `MAX_JOURNAL_ENTRIES`, and the text fits. -/
theorem journal_accepts_iff (first l : PersistentRecoveryLedger)
    (journal : HistoricalFinalizationJournal) (hfirst : first.loadJournal = some journal)
    (finished : List String) (h : FinalizedInTurn first finished l)
    (entry : HistoricalFinalizationEntry) :
    ∃ current, l.loadJournal = some current ∧ (l.accepts entry ↔
      ((finished ++ [entry.recordId]).foldl addId journal.ids).length ≤ maxJournalEntries ∧
        (current.upsert entry).jsonBytes l.device ≤ maxRecoveryRecordBytes) := by
  obtain ⟨current, hload, hids⟩ := journalHas_finalizedInTurn ⟨journal, hfirst, rfl⟩ h
  refine ⟨current, hload, ?_⟩
  rw [accepts_iff hload, List.foldl_append, hids]
  rfl

section ManyBoots

def workerName (n : Nat) : String := String.ofList (List.replicate (n + 1) 'w')

/-- A login of the last boot that was resolved and released, but not removed. -/
def releasedLogin (n : Nat) : PersistentRecoveryRecord where
  lifecycleId := workerName n
  sequence := 6
  createdBootId := "boot-0"
  lastUpdatedBootId := "boot-0"
  state := "record_resolved"
  uid := 1000
  seat := "seat0"
  workerPid := 41
  launcherPid := 40
  operationLedger := { recordResolution := .confirmed 1, runtimeRelease := .confirmed 2 }

def finishedEntry (n : Nat) : HistoricalFinalizationEntry :=
  entryFor (releasedLogin n) "boot-1" 1 .freePublished

def finishedJournal (n : Nat) : HistoricalFinalizationJournal :=
  ⟨(List.range n).map finishedEntry⟩

def nextBoot (n : Nat) (journal : JournalFile) : StartupWorld where
  ledger := { records := [releasedLogin n], files := [⟨1, releasedLogin n⟩], journal }

theorem workerName_injective : Function.Injective workerName := by
  intro m n h
  have hlists := String.ofList_injective h
  have hlength := congrArg List.length hlists
  simpa using hlength

theorem utf8ByteSize_workerName (n : Nat) : (workerName n).utf8ByteSize = n + 1 := by
  induction n with
  | zero => decide
  | succ n ih =>
    have hcons : workerName (n + 1) = "w" ++ workerName n := by
      rw [workerName, List.replicate_succ, ← List.singleton_append, String.ofList_append]
      rfl
    rw [hcons, String.utf8ByteSize_append, ih, Nat.add_comm]
    rfl

theorem workerName_valid {n : Nat} (h : n < 64) : validateLifecycleId (workerName n) = true := by
  have hlist : (workerName n).toList = 'w' :: List.replicate n 'w' := by
    simp [workerName, List.replicate_succ]
  have hne : ∀ s : String, s.toList.head? ≠ some 'w' → workerName n ≠ s := fun s hs heq =>
    hs (by rw [← heq, hlist]; rfl)
  have hempty := hne "" (by decide)
  have hdot := hne "." (by decide)
  have hdots := hne ".." (by decide)
  simp [validateLifecycleId, utf8ByteSize_workerName, hempty, hdot, hdots, hlist]
  omega

theorem text_workerName (n : Nat) : JsonText.text (workerName n) = n + 3 := by
  have hchar : JsonText.charBytes 'w' = 1 := by decide
  simp [JsonText.text, workerName, hchar]
  omega

theorem finishedEntry_bytes (n : Nat) (stage : HistoricalFinalizationStage) :
    (entryFor (releasedLogin n) "boot-1" 1 stage).jsonBytes 0 ≤ 2 * n + 300 := by
  have hrest : (entryFor (releasedLogin n) "boot-1" 1 stage).jsonBytes 0 =
      (entryFor (releasedLogin 0) "boot-1" 1 stage).jsonBytes 0 + 2 * n := by
    have hnone : ∀ n, historicalNotReplayed (releasedLogin n) = [] := fun _ => rfl
    simp only [HistoricalFinalizationEntry.jsonBytes, entryFor, hnone]
    simp only [releasedLogin, JsonText.object, JsonText.separated, List.map_cons, List.map_nil,
      List.sum_cons, List.length_cons, text_workerName]
    omega
  have hfirst : (entryFor (releasedLogin 0) "boot-1" 1 stage).jsonBytes 0 ≤ 300 := by
    cases stage <;> decide
  omega

theorem upsert_finishedJournal (n : Nat) (stage : HistoricalFinalizationStage) :
    (finishedJournal n).upsert (entryFor (releasedLogin n) "boot-1" 1 stage) =
      ⟨(List.range n).map finishedEntry ++ [entryFor (releasedLogin n) "boot-1" 1 stage]⟩ := by
  refine congrArg HistoricalFinalizationJournal.mk
    (HistoricalFinalizationJournal.upsertEntry_of_new fun e he => ?_)
  obtain ⟨i, hi, rfl⟩ := List.mem_map.mp he
  exact fun heq => Nat.ne_of_lt (List.mem_range.mp hi) (workerName_injective heq)

theorem finishedJournal_succ (n : Nat) :
    (finishedJournal n).upsert (finishedEntry n) = finishedJournal (n + 1) := by
  rw [finishedEntry, upsert_finishedJournal, finishedJournal, List.range_succ, List.map_append]
  rfl

/-- Up to its last entry the journal stays far below the byte limit. -/
theorem finishedJournal_fits {n : Nat} (h : n < 64) (stage : HistoricalFinalizationStage) :
    ((finishedJournal n).upsert (entryFor (releasedLogin n) "boot-1" 1 stage)).Fits 0 := by
  rw [upsert_finishedJournal]
  refine ⟨?_, ?_⟩
  · simp [maxJournalEntries]
    omega
  · have hsum : (((List.range n).map finishedEntry).map (·.jsonBytes 0)).sum ≤ n * 500 := by
      refine (List.sum_le_card_nsmul _ 500 fun b hb => ?_).trans (by simp)
      obtain ⟨e, he, rfl⟩ := List.mem_map.mp hb
      obtain ⟨i, hi, rfl⟩ := List.mem_map.mp he
      have := finishedEntry_bytes i .freePublished
      have := List.mem_range.mp hi
      unfold finishedEntry
      omega
    have hlast := finishedEntry_bytes n stage
    have hversion : JsonText.text "version" = 9 := by decide
    have hentries : JsonText.text "entries" = 9 := by decide
    have hnumber : JsonText.number 1 = 1 := by decide
    simp only [HistoricalFinalizationJournal.jsonBytes, JsonText.object, JsonText.array,
      JsonText.separated, List.map_append, List.map_cons, List.map_nil, List.sum_append,
      List.sum_cons, List.sum_nil, List.length_append, List.length_cons, List.length_nil,
      List.length_map, List.length_range, hversion, hentries, hnumber, maxRecoveryRecordBytes]
    omega

theorem validateEntries_of_new {l : PersistentRecoveryLedger}
    {entries : List HistoricalFinalizationEntry} (seen : List String)
    (hnew : ∀ e ∈ entries, e.recordId ∉ seen) (hnodup : (entries.map (·.recordId)).Nodup)
    (hvalid : ∀ e ∈ entries, validateEntry l e = none) :
    HistoricalFinalizationJournal.validateEntries l seen entries = none := by
  induction entries generalizing seen with
  | nil => rfl
  | cons entry rest ih =>
    obtain ⟨hfirst, hrest⟩ := List.nodup_cons.mp hnodup
    have hseen : seen.contains entry.recordId = false := by
      simpa using hnew entry List.mem_cons_self
    unfold HistoricalFinalizationJournal.validateEntries
    rw [hseen, hvalid entry List.mem_cons_self]
    refine ih (entry.recordId :: seen) (fun e he hin => ?_) hrest
      fun e he => hvalid e (List.mem_cons_of_mem _ he)
    rcases List.mem_cons.mp hin with heq | hin
    · exact hfirst (List.mem_map.mpr ⟨e, he, heq⟩)
    · exact hnew e (List.mem_cons_of_mem _ he) hin

theorem finishedJournal_valid (n : Nat) (file : JournalFile) :
    (finishedJournal n).validateAgainstLedger (nextBoot n file).ledger = none := by
  refine validateEntries_of_new [] (fun _ _ => List.not_mem_nil) ?_ fun e he => ?_
  · rw [finishedJournal, List.map_map]
    exact List.Nodup.map (fun _ _ h => workerName_injective h) List.nodup_range
  · obtain ⟨i, hi, rfl⟩ := List.mem_map.mp he
    have hne : workerName i ≠ workerName n := fun heq =>
      Nat.ne_of_lt (List.mem_range.mp hi) (workerName_injective heq)
    have hget : (nextBoot n file).ledger.get (workerName i) = none := by
      simp [nextBoot, PersistentRecoveryLedger.get, KeyedList.lookup, releasedLogin, hne.symm]
    show validateEntry (nextBoot n file).ledger (finishedEntry i) = none
    unfold validateEntry
    rw [show (finishedEntry i).recordId = workerName i from rfl, hget]
    rfl

theorem clearHost_constant : clearHost.Constant "boot-1" clearFacts := by
  have hsteady : (⟨some "boot-1", some clearFacts⟩ : PreviousBootView).Steady "boot-1" :=
    ⟨rfl, clearFacts, rfl, rfl, rfl⟩
  exact ⟨rfl, hsteady, hsteady, hsteady, hsteady, rfl⟩

theorem nextBoot_held (n : Nat) (file : JournalFile) :
    (nextBoot n file).ledger.Held (releasedLogin n).lifecycleId (releasedLogin n) 1 := by
  constructor <;> simp [nextBoot, PersistentRecoveryLedger.get, PersistentRecoveryLedger.file,
    KeyedList.lookup, RecordFile.lifecycleId]

/-- The finalization of the login that boot `n` left behind, when the journal has `n` entries. -/
theorem nextBoot_freed {n : Nat} (h : n < 64) {file : JournalFile}
    (hload : (nextBoot n file).ledger.loadJournal = some (finishedJournal n)) :
    Attains "boot-1" (executePreviousBootPlan clearHost (releasedLogin n) "boot-1" clearFacts
      (planPreviousBootReconciliation (releasedLogin n) clearFacts)) (nextBoot n file)
      fun outcome w' => outcome = .seatFreed ∧
        w'.ledger.journal = .stored (finishedJournal (n + 1)) := by
  have hboot : bootIdentityValid "boot-0" = true := by decide
  have hprevious : "boot-0" ≠ "boot-1" := by decide
  have hearlier : (releasedLogin n).OfEarlierBoot "boot-1" := ⟨hboot, hprevious,
    workerName_valid h⟩
  rw [← finishedJournal_succ]
  exact attains_executePreviousBootPlan_of_released (nextBoot_held n file) hearlier
    clearHost_constant rfl nofun rfl hload (finishedJournal_valid n file) (finishedJournal_fits h)

theorem manyBoots_finalized (n : Nat) (h : n ≤ 64) : ∃ l : PersistentRecoveryLedger,
    FinalizedInTurn {} ((List.range n).map workerName) l ∧
      l.loadJournal = some (finishedJournal n) := by
  induction n with
  | zero => exact ⟨{}, .start, rfl⟩
  | succ n ih =>
    obtain ⟨l, hfinalized, hload⟩ := ih (Nat.le_of_succ_le h)
    have hsame : (nextBoot n l.journal).ledger.loadJournal = some (finishedJournal n) := hload
    obtain ⟨outcome, w', hrun, rfl, hjournal⟩ := nextBoot_freed h hsame
    have hnext := hfinalized.finalize (nextBoot n l.journal) rfl (nextBoot_held n l.journal)
      clearHost "boot-1" clearFacts _ (fun _ => takesAll "boot-1") (congrArg Prod.fst hrun)
    rw [hrun] at hnext
    refine ⟨w'.ledger, ?_, ?_⟩
    · rw [List.range_succ, List.map_append]
      exact hnext
    · simp [PersistentRecoveryLedger.loadJournal, hjournal, finishedJournal, maxJournalEntries,
        Nat.not_lt.mpr h]

/-- Although every entry in it is finished, the journal refuses the next record. -/
theorem finishedEntries_fill_journal :
    ∃ l : PersistentRecoveryLedger, FinalizedInTurn {} ((List.range 64).map workerName) l ∧
      (∃ journal, l.loadJournal = some journal ∧
        ∀ e ∈ journal.entries, e.stage = .freePublished) ∧
      ¬l.accepts (entryFor (releasedLogin 64) "boot-1" 1 .notReplayed) := by
  obtain ⟨l, hfinalized, hload⟩ := manyBoots_finalized 64 le_rfl
  refine ⟨l, hfinalized, ⟨finishedJournal 64, hload, fun e he => ?_⟩, ?_⟩
  · obtain ⟨i, -, rfl⟩ := List.mem_map.mp he
    rfl
  · rw [accepts_iff hload]
    rintro ⟨hlength, -⟩
    rw [← HistoricalFinalizationJournal.ids_upsert, upsert_finishedJournal] at hlength
    simp [HistoricalFinalizationJournal.ids, maxJournalEntries] at hlength

/-- The last entry that the journal has room for. -/
theorem lastLogin_accepted : (nextBoot 63 (.stored (finishedJournal 63))).ledger.accepts
    (entryFor (releasedLogin 63) "boot-1" 1 .notReplayed) := by
  have hload : (nextBoot 63 (.stored (finishedJournal 63))).ledger.loadJournal =
      some (finishedJournal 63) := by
    simp [PersistentRecoveryLedger.loadJournal, nextBoot, finishedJournal, maxJournalEntries]
  obtain ⟨current, hcurrent, haccepts⟩ := journal_accepts_iff _ _ _ hload [] .start
    (entryFor (releasedLogin 63) "boot-1" 1 .notReplayed)
  obtain rfl := Option.some.inj (hload.symm.trans hcurrent)
  have hfits := finishedJournal_fits (by decide : 63 < 64) .notReplayed
  refine haccepts.mpr ⟨?_, hfits.2⟩
  rw [List.nil_append, List.foldl_cons, List.foldl_nil,
    ← HistoricalFinalizationJournal.ids_upsert, HistoricalFinalizationJournal.ids, List.length_map]
  exact hfits.1

end ManyBoots

end Niralis
