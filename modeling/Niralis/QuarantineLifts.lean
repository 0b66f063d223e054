import Niralis.JournalStages
import Niralis.StartupRequests
import Niralis.StartupSeats

namespace Niralis
open PersistentRecoveryLedger

/-- The finalizations that an earlier process left unfinished. -/
def PersistentRecoveryLedger.journalCauses (l : PersistentRecoveryLedger) :
    List (String × QuarantineCause) :=
  match l.loadJournal with
  | some journal => (journal.entries.filter (·.stage ≠ .freePublished)).map fun e =>
    (e.seat, .record e.recordId)
  | none => []

/-- What startup can mark the seat for, by what it finds in the directory and on the host. -/
inductive MarkedFor (l : PersistentRecoveryLedger) (host : StartupHost) :
    String → QuarantineCause → Prop
  | journal {seat : String} {cause : QuarantineCause} (h : (seat, cause) ∈ l.journalCauses) :
    MarkedFor l host seat cause
  | scope {seats : List String} {seat : String} (h : host.inventory = some (.knownSeats seats))
    (hseat : seat ∈ seats) : MarkedFor l host seat .unknownScope
  | record {r : PersistentRecoveryRecord} (hr : r ∈ l.records)
    (hboot : r.createdBootId ≠ host.currentBoot) : MarkedFor l host r.seat (.record r.lifecycleId)

/-- What the inspection of the host finds lets the record of an earlier boot be finalized. -/
def PlansFinalization (host : StartupHost) (r : PersistentRecoveryRecord) : Prop :=
  let plan := planPreviousBootReconciliation r
    (previousBootCurrentFacts (host.previousBoot r.lifecycleId) false)
  plan = .resolveHistoricalRecord ∨ plan = .finalizeAlreadyResolvedRecord

/-- The records whose finalization startup can finish or resume, each with the seat it lifts the
mark of. -/
inductive Lifts (l : PersistentRecoveryLedger) (host : StartupHost) : String → String → Prop
  | unlinked {journal : HistoricalFinalizationJournal} {e : HistoricalFinalizationEntry}
    (h : l.loadJournal = some journal) (he : e ∈ journal.entries)
    (hstage : e.stage = .removed ∨ e.stage = .removalIntent) : Lifts l host e.recordId e.seat
  | planned {r t : PersistentRecoveryRecord} (hr : r ∈ l.records)
    (hboot : r.createdBootId ≠ host.currentBoot) (hplan : PlansFinalization host r)
    (ht : t ∈ l.records) (hid : t.lifecycleId = r.lifecycleId) : Lifts l host r.lifecycleId t.seat

/-- The record may be gone for each entry that startup could resume. -/
def RemovalsOwn (l : PersistentRecoveryLedger) (host : StartupHost)
    (journal : HistoricalFinalizationJournal) : Prop :=
  ∀ e ∈ journal.entries, e.stage = .removed ∨ e.stage = .removalIntent →
    Lifts l host e.recordId e.seat

/-- A seat is marked, and its mark lifted, for nothing but what was found. -/
def MarksFound (l : PersistentRecoveryLedger) (host : StartupHost) : StartupRequest → Prop
  | .markSeatStartupQuarantine seat cause => MarkedFor l host seat cause
  | .clearSeatStartupQuarantine seat cause => ∃ id, cause = .record id ∧ Lifts l host id seat
  | .persistJournal journal => RemovalsOwn l host journal
  | _ => True

/-- Every record is one that was found, and so is every entry to be resumed. -/
structure Found (l : PersistentRecoveryLedger) (host : StartupHost) (w : StartupWorld) : Prop where
  records : ∀ r ∈ w.ledger.records, ∃ t ∈ l.records, SameRecord r t
  removals : ∀ journal, w.ledger.loadJournal = some journal → RemovalsOwn l host journal

section Programs
variable {l : PersistentRecoveryLedger} {host : StartupHost} {w : StartupWorld} {α ε : Type}
  {record : PersistentRecoveryRecord}

theorem found_start (h : w.ledger = l) : Found l host w := by
  subst h
  exact ⟨fun r hr => ⟨r, hr, ⟨rfl, rfl, rfl⟩⟩, fun _ hload _ he hstage => .unlinked hload he hstage⟩

theorem found_perform {request : StartupRequest} (h : Found l host w)
    (hr : MarksFound l host request) (x : StartupAnswer) :
    Found l host (w.perform request x).2 := by
  constructor
  · intro r' hr'
    obtain ⟨r, hr, hsame⟩ := records_perform w request x r' hr'
    obtain ⟨t, ht, hrt⟩ := h.records r hr
    exact ⟨t, ht, hsame.lifecycleId.trans hrt.lifecycleId, hsame.seat.trans hrt.seat,
      hsame.boot.trans hrt.boot⟩
  · intro journal hload
    have hcases : LeavesJournal request ∨ ∃ journal, request = .persistJournal journal := by
      cases request with
      | persistJournal journal => exact Or.inr ⟨journal, rfl⟩
      | _ => exact Or.inl trivial
    rcases hcases with hleaves | ⟨journal', rfl⟩
    · refine h.removals journal ?_
      rwa [loadJournal, ← journal_perform_of_leaves hleaves w x]
    · simp only [StartupWorld.perform, StartupWorld.onLedger] at hload
      rcases w.ledger.persistJournal_cases journal' x.journal with hp | ⟨-, -, -, hp⟩
      · rw [hp] at hload
        exact h.removals journal hload
      · rw [hp] at hload
        simp only [loadJournal, Option.ite_none_left_eq_some] at hload
        cases hload.2
        exact hr

/-- Every request is for what was found, and the program ends as `post` says. -/
abbrev FoundSat (l : PersistentRecoveryLedger) (host : StartupHost)
    (p : Program StartupWorld StartupRequest α) (w : StartupWorld) (post : α → StartupWorld → Prop) :
    Prop :=
  p.Sat StartupWorld.perform (fun _ _ _ => True) (fun _ request => MarksFound l host request) w post

abbrev FoundAttempt (l : PersistentRecoveryLedger) (host : StartupHost)
    (p : Attempt StartupWorld StartupRequest ε α) (w : StartupWorld)
    (post : α → StartupWorld → Prop) : Prop :=
  p.Sat StartupWorld.perform (fun _ _ _ => True) (fun _ request => MarksFound l host request) w post

/-- A program whose requests are for what was found adds nothing to it. -/
theorem FoundSat.found {p : Program StartupWorld StartupRequest α}
    {post : α → StartupWorld → Prop} (h : FoundSat l host p w post) (hw : Found l host w) :
    FoundSat l host p w fun _ w' => Found l host w' :=
  (Program.Sat.strengthen h (Found l host) hw (fun _ _ _ _ => trivial) (fun _ _ _ hr => hr)
    fun _ _ x hs hr _ => found_perform hs hr x).mono fun _ _ h => h.2

theorem found_of_asks {p : Program StartupWorld StartupRequest α}
    (h : p.Asks (MarksFound l host)) (hw : Found l host w) :
    FoundSat l host p w fun _ w' => Found l host w' :=
  h.sat (Found l host) (fun _ _ _ hr => hr) (fun _ _ x hs hr => found_perform hs hr x) hw

section SameBoot

theorem asks_quarantineStartupRecord (id : String) (reason : StartupRecoveryFailure) :
    (quarantineStartupRecord id reason).Asks (MarksFound l host) := by
  refine ⟨trivial, fun _ w => ?_⟩
  beta_reduce
  split
  · exact ⟨trivial, fun _ _ => trivial⟩
  · refine ⟨trivial, fun ok _ => ?_⟩
    beta_reduce
    split
    · exact ⟨trivial, fun _ _ => trivial⟩
    · exact ⟨trivial, fun _ _ => ⟨trivial, fun _ _ => trivial⟩⟩

theorem asks_finalizeOrQuarantine (id : String) :
    (finalizeOrQuarantine id).Asks (MarksFound l host) := by
  have hallows : AllowsFinalization (MarksFound l host) :=
    ⟨trivial, fun _ _ _ _ => trivial, fun _ => trivial, fun _ => trivial⟩
  refine Program.Asks.bind (asks_finalizeStartupRecord hallows id) fun result => ?_
  cases result with
  | ok a => exact ⟨trivial, fun _ _ => trivial⟩
  | error e => exact asks_quarantineStartupRecord id _

theorem marksFound_of_updates {id : String} {request : StartupRequest}
    (h : UpdatesRecord id request) : MarksFound l host request := by
  cases request with
  | inspect => trivial
  | write id' write => trivial
  | effect effect id' => trivial
  | _ => exact h.elim

theorem found_reconcileThroughProvider (sameBoot : SameBootHost) (currentBoot : String)
    (hw : Found l host w) :
    FoundSat l host (reconcileThroughProvider sameBoot currentBoot record) w
      fun _ w' => Found l host w' := by
  have hrecover : UpdateSat record.lifecycleId
      (reconcileSameBootRecord sameBoot ⟨record, currentBoot⟩) w fun _ _ => True :=
    update_reconcileSameBootRecord rfl
  refine Program.Sat.bind (Program.Sat.strengthen hrecover (Found l host) hw
    (fun _ _ _ _ => trivial) (fun _ _ _ hr => marksFound_of_updates hr)
    fun _ _ x hs hr _ => found_perform hs (marksFound_of_updates hr) x) fun result w' hw' => ?_
  cases result with
  | ok a => exact found_of_asks (asks_finalizeOrQuarantine _) hw'.2
  | error e => exact found_of_asks (asks_quarantineStartupRecord _ e) hw'.2

/-- The recovery of a session of the current boot touches no seat's mark. -/
theorem found_reconcileSameBootEntry (sameBoot : SameBootHost) (currentBoot : String)
    (blocked conflicted : Bool) (hw : Found l host w) :
    FoundSat l host (reconcileSameBootEntry sameBoot currentBoot blocked conflicted record) w
      fun _ w' => Found l host w' := by
  have hcount : ∀ id, (Program.ask (.countQuarantined id) fun _ _ => .done () : StartupM Unit).Asks
      (MarksFound l host) := fun _ => ⟨trivial, fun _ _ => trivial⟩
  unfold reconcileSameBootEntry
  split
  · exact found_of_asks ⟨trivial, fun _ _ => hcount _⟩ hw
  · split
    · exact found_of_asks (asks_quarantineStartupRecord _ _) hw
    · split
      · exact found_of_asks (asks_finalizeOrQuarantine _) hw
      · split
        · exact found_of_asks (asks_quarantineStartupRecord _ _) hw
        · split
          · exact found_of_asks (hcount _) hw
          · exact found_reconcileThroughProvider sameBoot currentBoot hw

end SameBoot

section PreviousBoot

theorem marksFound_of_finalizes {id : String} {request : StartupRequest}
    (h : FinalizesRecord id (Lifts l host id) (fun e =>
      e.stage = .removed ∨ e.stage = .removalIntent → Lifts l host e.recordId e.seat) request) :
    MarksFound l host request := by
  cases request with
  | persistJournal journal =>
    intro e he hstage
    rcases h e he with hkept | hown
    · exact hkept hstage
    · exact hown.recordId ▸ hown.seat
  | clearSeatStartupQuarantine seat cause => exact ⟨id, h.2, h.1⟩
  | markSeatStartupQuarantine seat cause => exact h.elim
  | _ => trivial

theorem ambiguous_of_plan {r : PersistentRecoveryRecord} {f : PreviousBootCurrentFacts}
    {plan : PreviousBootRecoveryPlan} (h : planPreviousBootReconciliation r f = plan)
    (hplan : plan = .resolveHistoricalRecord ∨ plan = .finalizeAlreadyResolvedRecord) :
    f.ambiguousNeighbor = false := by
  subst h
  unfold planPreviousBootReconciliation at hplan
  by_contra hambiguous
  rw [Bool.not_eq_false] at hambiguous
  rw [if_pos hambiguous] at hplan
  split at hplan
  · rcases hplan with h | h <;> cases h
  · rcases hplan with h | h <;> cases h

theorem found_executePreviousBootPlan {boot : String} {ambiguous : Bool}
    (hr : record ∈ l.records) (hboot : record.createdBootId ≠ host.currentBoot)
    (hw : Found l host w) :
    let facts := previousBootCurrentFacts (host.previousBoot record.lifecycleId) ambiguous
    FoundSat l host (executePreviousBootPlan (host.previousBoot record.lifecycleId) record boot facts
      (planPreviousBootReconciliation record facts)) w fun _ w' => Found l host w' := by
  intro facts
  by_cases hplan : planPreviousBootReconciliation record facts = .resolveHistoricalRecord ∨
      planPreviousBootReconciliation record facts = .finalizeAlreadyResolvedRecord
  · have hplanned : PlansFinalization host record := by
      have hambiguous : ambiguous = false := ambiguous_of_plan rfl hplan
      subst hambiguous
      exact hplan
    have hseat : ∀ r, w.ledger.get record.lifecycleId = some r →
        Lifts l host record.lifecycleId r.seat := by
      intro r hget
      obtain ⟨t, ht, hsame⟩ := hw.records r (KeyedList.mem_of_lookup hget)
      rw [hsame.seat]
      exact .planned hr hboot hplanned ht (hsame.lifecycleId.symm.trans (lifecycleId_of_get hget))
    have hexecute : FinalizeSat record.lifecycleId (Lifts l host record.lifecycleId) (fun e =>
        e.stage = .removed ∨ e.stage = .removalIntent → Lifts l host e.recordId e.seat)
        (executePreviousBootPlan (host.previousBoot record.lifecycleId) record boot facts
          (planPreviousBootReconciliation record facts)) w fun _ _ => True :=
      finalize_executePreviousBootPlan hseat hw.removals
    exact (Program.Sat.strengthen hexecute (Found l host) hw (fun _ _ _ _ => trivial)
      (fun _ _ _ hr => marksFound_of_finalizes hr)
      fun _ _ x hs hr _ => found_perform hs (marksFound_of_finalizes hr) x).mono fun _ _ h => h.2
  · unfold executePreviousBootPlan
    rw [if_pos (not_or.mp hplan)]
    exact hw

theorem found_reconcilePreviousBootEntry (recordSet : RecoveryRecordSetClassification)
    {boot : String} (hr : record ∈ l.records) (hboot : record.createdBootId ≠ host.currentBoot)
    (hw : Found l host w) :
    FoundSat l host (reconcilePreviousBootEntry (host.previousBoot record.lifecycleId) boot
      recordSet record) w fun _ w' => Found l host w' := by
  have hmark : MarksFound l host
      (.markSeatStartupQuarantine record.seat (.record record.lifecycleId)) := .record hr hboot
  have hcount : ∀ w', Found l host w' → FoundSat l host
      (.ask (.countQuarantined record.lifecycleId) fun _ _ => .done ()) w'
      fun _ w' => Found l host w' :=
    fun w' hw' => found_of_asks ⟨trivial, fun _ _ => trivial⟩ hw'
  unfold reconcilePreviousBootEntry
  split
  · exact ⟨hmark, fun x _ => hcount _ (found_perform hw hmark x)⟩
  · refine ⟨trivial, fun _ _ => ⟨hmark, fun x _ => ?_⟩⟩
    refine Program.Sat.bind (found_executePreviousBootPlan hr hboot (found_perform hw hmark x))
      fun result w' hw' => ?_
    split
    · exact found_of_asks ⟨trivial, fun _ _ => trivial⟩ hw'
    · exact hcount w' hw'
    · exact hcount w' hw'

end PreviousBoot

section Resume

theorem RemovalsOwn.publish {journal : HistoricalFinalizationJournal}
    (h : RemovalsOwn l host journal) (entry : HistoricalFinalizationEntry) :
    RemovalsOwn l host (journal.upsert { entry with stage := .freePublished }) := by
  intro e he hstage
  rcases mem_upsertEntry he with rfl | he
  · rcases hstage with hstage | hstage <;> cases hstage
  · exact h e he hstage

theorem found_resumeEntries (ledger : PersistentRecoveryLedger)
    (entries : List HistoricalFinalizationEntry) {journal : HistoricalFinalizationJournal}
    (completed : Nat) (hentries : RemovalsOwn l host ⟨entries⟩)
    (hjournal : RemovalsOwn l host journal) :
    FoundAttempt l host (resumeEntries ledger entries journal completed) w
      fun result _ => RemovalsOwn l host result.1 := by
  induction entries generalizing journal completed w with
  | nil => exact hjournal
  | cons entry rest ih =>
    have hrest : RemovalsOwn l host ⟨rest⟩ :=
      fun e he hstage => hentries e (List.mem_cons_of_mem _ he) hstage
    have hlift : entry.stage = .removed ∨ entry.stage = .removalIntent →
        FoundAttempt l host
          (.perform (.clearSeatStartupQuarantine entry.seat (.record entry.recordId)) .io >>=
            fun _ => resumeEntries ledger rest
              (journal.upsert { entry with stage := .freePublished }) (completed + 1)) w
          fun result _ => RemovalsOwn l host result.1 := by
      intro hstage
      have hclear : FoundAttempt l host
          (.perform (.clearSeatStartupQuarantine entry.seat (.record entry.recordId)) .io :
            PreviousBootM Unit) w fun _ _ => True :=
        Attempt.sat_perform ⟨_, rfl, hentries entry (List.mem_cons_self ..) hstage⟩
          fun _ _ _ => trivial
      exact hclear.bind fun _ w' _ => ih _ hrest (hjournal.publish entry)
    unfold resumeEntries
    split
    · exact ih _ hrest hjournal
    next hgone =>
      rw [not_or, not_and_or, not_not, not_not] at hgone
      split
      · split
        · exact Attempt.sat_fail _ _ _
        · exact ih _ hrest hjournal
        · exact hlift hgone.1
      · exact hlift hgone.1

theorem found_resumeAndCount (hw : Found l host w) :
    FoundSat l host resumeAndCount w fun _ w' => Found l host w' := by
  have hresume : FoundAttempt l host resumeRemovedPreviousBootFinalization w fun _ _ => True := by
    refine sat_readLedger_gives trivial (Attempt.Sat.okOr_bind fun journal hload => ?_)
    have hjournal := hw.removals journal hload
    refine Attempt.Sat.check_bind fun _ _ => ?_
    split
    · trivial
    · refine (found_resumeEntries _ _ 0 hjournal hjournal).bind
        fun (journal', completed) w' hjournal' => ?_
      dsimp only
      split
      · trivial
      · have hstore : FoundAttempt l host
            (.perform (.persistJournal journal') .io : PreviousBootM Unit) w' fun _ _ => True :=
          Attempt.sat_perform hjournal' fun _ _ _ => trivial
        exact hstore.bind fun _ _ _ => trivial
  refine Program.Sat.bind (FoundSat.found hresume hw) fun result w' hw' => ?_
  cases result with
  | ok completed => exact found_of_asks ⟨trivial, fun _ _ => trivial⟩ hw'
  | error e => exact hw'

end Resume

section Reconcile

theorem found_reconcileEntries (ctx : StartupContext) (hboot : ctx.currentBoot = host.currentBoot)
    (records : List PersistentRecoveryRecord) (hsub : records ⊆ l.records) (hw : Found l host w) :
    FoundSat l host (reconcileEntries host ctx records) w fun _ w' => Found l host w' := by
  induction records generalizing w with
  | nil => exact hw
  | cons record rest ih =>
    have hr : record ∈ l.records := hsub (List.mem_cons_self ..)
    have hentry : FoundSat l host (reconcileEntry host ctx record) w
        fun _ w' => Found l host w' := by
      unfold reconcileEntry
      split
      · exact found_reconcileSameBootEntry _ _ _ _ hw
      next hother => exact found_reconcilePreviousBootEntry _ hr (hboot ▸ hother) hw
    exact hentry.bind fun _ _ hw' => ih (fun r hr => hsub (List.mem_cons_of_mem _ hr)) hw'

theorem asks_markSeats {seats : List String} (h : ∀ seat ∈ seats, MarkedFor l host seat .unknownScope) :
    (markSeats seats).Asks (MarksFound l host) := by
  induction seats with
  | nil => trivial
  | cons seat seats ih =>
    exact ⟨h seat (List.mem_cons_self ..), fun _ _ =>
      ih fun seat hseat => h seat (List.mem_cons_of_mem _ hseat)⟩

theorem asks_quarantineStartup (records : List PersistentRecoveryRecord) :
    (quarantineStartup records).Asks (MarksFound l host) :=
  ⟨trivial, fun _ _ => ⟨trivial, fun _ _ => trivial⟩⟩

theorem found_reconcileRecordSet {boot : String} (hboot : boot = host.currentBoot)
    (blockedSeats : List String) (recordSet : RecoveryRecordSetClassification)
    (records : List PersistentRecoveryRecord) (hsub : records ⊆ l.records) (hw : Found l host w) :
    FoundSat l host (reconcileRecordSet host boot blockedSeats recordSet records) w
      fun _ w' => Found l host w' := by
  unfold reconcileRecordSet
  split
  · exact found_of_asks (asks_quarantineStartup records) hw
  · exact (found_reconcileEntries ⟨boot, blockedSeats,
      conflicts (records.filter (·.createdBootId = boot)), recordSet⟩ hboot records hsub hw).bind
      fun _ _ hw' => found_resumeAndCount hw'

/-- Startup marks seats, and lifts their marks, for nothing but what it found. -/
theorem found_reconcile (hw : w.ledger = l) :
    FoundSat l host (reconcile host) w fun _ w' => Found l host w' := by
  have hfound : Found l host w := found_start hw
  refine ⟨trivial, fun _ _ => ?_⟩
  show FoundSat l host (reconcileRecords host w.ledger.recordSet w.ledger.records) w _
  have hsub : w.ledger.records ⊆ l.records := hw ▸ fun _ hr => hr
  unfold reconcileRecords
  split
  · exact found_of_asks (asks_quarantineStartup _) hfound
  next current hcurrent =>
    have hboot : current = host.currentBoot := by
      rw [StartupHost.currentBoot, (Option.filter_eq_some_iff.mp hcurrent).1, Option.getD_some]
    split
    · exact found_of_asks (asks_quarantineStartup _) hfound
    · split
      · exact found_reconcileRecordSet hboot _ _ _ hsub hfound
      next seats hseats =>
        have hknown : host.inventory = some (.knownSeats seats) := by
          cases hinventory : host.inventory with
          | none => simp [hinventory] at hseats
          | some inventory =>
            rw [hinventory, Option.getD_some] at hseats
            rw [hseats]
        exact (found_of_asks (asks_markSeats fun _ hseat => .scope hknown hseat) hfound).bind
          fun _ _ hw' => found_reconcileRecordSet hboot _ _ _ hsub hw'
      · exact found_of_asks (asks_quarantineStartup _) hfound

end Reconcile

end Programs

end Niralis
