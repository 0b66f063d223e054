import Niralis.LedgerFrames
import Niralis.LedgerRuns
import Niralis.StartupRequests
import Niralis.StartupSeats

namespace Niralis
open PersistentRecoveryLedger

/-- How many records have been counted, one after the other. -/
def StartupWorld.visited (w : StartupWorld) : Nat := w.summary.free + w.summary.quarantined

def Visits (boot : String) (r : PersistentRecoveryRecord) : StartupRequest → Prop
  | .inspect => True
  | .write id _ => id = r.lifecycleId
  | .effect _ id => id = r.lifecycleId
  | .removeResolved id => id = r.lifecycleId
  | .countFree id => id = r.lifecycleId
  | .countQuarantined id => id = r.lifecycleId
  | .removeRecordExact id _ => id = r.lifecycleId ∧ r.createdBootId ≠ boot
  | .persistJournal _ => r.createdBootId ≠ boot
  | .markSeatStartupQuarantine seat _ => seat = r.seat ∧ r.createdBootId ≠ boot
  | .clearSeatStartupQuarantine _ _ => r.createdBootId ≠ boot
  | .markStartupQuarantine => False
  | .addToSummary _ _ => False

/-- The seats of unknown scopes are marked before the first visit. -/
def StartupRequest.isInventoryMark : StartupRequest → Bool
  | .markSeatStartupQuarantine _ .unknownScope => true
  | _ => false

/-- Startup as a whole is not quarantined, and while there is a record to visit, the request belongs
to its visit. -/
structure StaysLocal (boot : String) (records : List PersistentRecoveryRecord) (w : StartupWorld)
    (request : StartupRequest) : Prop where
  unmarked : request ≠ .markStartupQuarantine
  visits : ∀ r, records[w.visited]? = some r → request.isInventoryMark = false →
    Visits boot r request

def QuarantineTaken (w : StartupWorld) (request : StartupRequest) (x : StartupAnswer) : Prop :=
  match request with
  | .write id (.quarantine _) => (w.ledger.get id).isSome = true → (w.perform request x).1 = true
  | _ => True

/-- A record is removed at the end of its finalization only when no other names its seat, and
nothing has marked the seat. -/
def RemovesSoleRecord (w : StartupWorld) (request : StartupRequest) : Prop :=
  match request with
  | .removeResolved id => ∀ r, w.ledger.get id = some r →
      w.ledger.seatStartupQuarantined r.seat = false ∧
        ∀ other ∈ w.ledger.records, other.seat = r.seat → other.lifecycleId = id
  | _ => True

abbrev Spared (w : StartupWorld) (request : StartupRequest) (x : StartupAnswer) : Prop :=
  QuarantineTaken w request x ∧ RemovesSoleRecord w request

section Requests
variable {w : StartupWorld} {request : StartupRequest} {x : StartupAnswer} {boot id seat : String}
  {r : PersistentRecoveryRecord}

/-- The visit of a record of the current boot is an operation on that record. -/
theorem onRecord_perform_of_visits (h : Visits boot r request) (hboot : r.createdBootId = boot) :
    OnRecord r.lifecycleId w.ledger (w.perform request x).2.ledger := by
  cases request with
  | inspect => exact .refl _ _
  | write id' write =>
    cases h
    exact w.ledger.onRecord_write _ write x.write
  | effect effect id' => exact ⟨⟨rfl, rfl, rfl⟩, fun _ _ => rfl, fun _ _ => rfl⟩
  | removeResolved id' =>
    cases h
    exact w.ledger.onRecord_removeResolved _ x.remove
  | countFree id' => exact .refl _ _
  | countQuarantined id' => exact .refl _ _
  | removeRecordExact id' file => exact absurd hboot h.2
  | persistJournal journal => exact absurd hboot h
  | markSeatStartupQuarantine marked cause => exact absurd hboot h.2
  | clearSeatStartupQuarantine cleared cause => exact absurd hboot h
  | markStartupQuarantine => exact h.elim
  | addToSummary free quarantined => exact h.elim

theorem startupQuarantined_perform (h : request ≠ .markStartupQuarantine) :
    (w.perform request x).2.ledger.startupQuarantined = w.ledger.startupQuarantined := by
  cases request with
  | markStartupQuarantine => exact absurd rfl h
  | markSeatStartupQuarantine marked cause => rfl
  | clearSeatStartupQuarantine cleared cause => rfl
  | _ => exact (sameMarks_perform x rfl).startupQuarantined

theorem visited_le_perform (w : StartupWorld) (request : StartupRequest) (x : StartupAnswer) :
    w.visited ≤ (w.perform request x).2.visited := by
  have hsum : ∀ free quarantined, w.visited ≤ w.summary.free + free + (w.summary.quarantined +
      quarantined) := by
    intro free quarantined
    unfold StartupWorld.visited
    omega
  cases request with
  | countFree id => exact hsum 1 0
  | countQuarantined id => exact hsum 0 1
  | addToSummary free quarantined => exact hsum free quarantined
  | _ => exact le_refl _

end Requests

/-- The first records have been counted, startup as a whole is not quarantined, and these records
are still in memory. -/
structure Holding (done left : List PersistentRecoveryRecord) (w : StartupWorld) : Prop where
  visited : w.visited = done.length
  unmarked : w.ledger.startupQuarantined = false
  present : ∀ u ∈ left, (w.ledger.get u.lifecycleId).isSome = true

section Visit
variable {boot : String} {done rest records : List PersistentRecoveryRecord}
  {t : PersistentRecoveryRecord} {w : StartupWorld} {ε β : Type}

theorem staysLocal_of_visits {request : StartupRequest} (hrecords : records = done ++ t :: rest)
    (hw : w.visited = done.length) (h : Visits boot t request) :
    StaysLocal boot records w request := by
  refine ⟨?_, fun r hr _ => ?_⟩
  · rintro rfl
    exact h
  · rw [hw, hrecords, List.getElem?_append_right (le_refl _), Nat.sub_self] at hr
    cases hr
    exact h

theorem holding_perform {left : List PersistentRecoveryRecord} {request : StartupRequest}
    {x : StartupAnswer} (h : Holding done left w)
    (hvisited : (w.perform request x).2.visited = w.visited)
    (hmark : request ≠ .markStartupQuarantine)
    (hkept : ∀ u ∈ left, request ≠ .removeResolved u.lifecycleId ∧
      ∀ file, request ≠ .removeRecordExact u.lifecycleId file) :
    Holding done left (w.perform request x).2 := by
  refine ⟨hvisited.trans h.visited, (startupQuarantined_perform hmark).trans h.unmarked, ?_⟩
  exact fun u hu => memory_perform (h.present u hu) (hkept u hu).1 (hkept u hu).2

theorem visits_of_updates {request : StartupRequest} (h : UpdatesRecord t.lifecycleId request) :
    Visits boot t request := by
  cases request with
  | inspect => trivial
  | write id write => exact h
  | effect effect id => exact h
  | _ => exact h.elim

theorem holding_of_updates {left : List PersistentRecoveryRecord} {request : StartupRequest}
    {x : StartupAnswer} {id : String} (h : Holding done left w) (hupdates : UpdatesRecord id request) :
    Holding done left (w.perform request x).2 := by
  cases request with
  | inspect => exact h
  | write id' write => exact holding_perform h rfl nofun fun _ _ => ⟨nofun, nofun⟩
  | effect effect id' => exact holding_perform h rfl nofun fun _ _ => ⟨nofun, nofun⟩
  | _ => exact hupdates.elim

/-- Success ends as `post` says, and failure leaves the visited record in memory. -/
abbrev VisitEnds (boot : String) (done : List PersistentRecoveryRecord)
    (t : PersistentRecoveryRecord) (rest : List PersistentRecoveryRecord)
    (p : Attempt StartupWorld StartupRequest ε β) (w : StartupWorld)
    (post : β → StartupWorld → Prop) : Prop :=
  p.Ends StartupWorld.perform Spared (StaysLocal boot (done ++ t :: rest)) w post
    (Holding done (t :: rest))

theorem UpdateSat.visitEnds {p : Attempt StartupWorld StartupRequest ε β}
    {post : β → StartupWorld → Prop} (h : UpdateSat t.lifecycleId p w post)
    (hw : Holding done (t :: rest) w) :
    VisitEnds boot done t rest p w fun a w' => post a w' ∧ Holding done (t :: rest) w' :=
  h.ends hw (fun _ _ _ _ => trivial)
    (fun _ _ hs hr => staysLocal_of_visits rfl hs.visited (visits_of_updates hr))
    (fun _ _ _ hs hr _ => holding_of_updates hs hr)

end Visit

section Finalization
variable {boot id : String} {done rest : List PersistentRecoveryRecord}
  {t : PersistentRecoveryRecord} {w : StartupWorld} {snapshot : RecoveryStateSnapshot}

def Current (id : String) (snapshot : RecoveryStateSnapshot) (w : StartupWorld) : Prop :=
  w.ledger.get id = some snapshot.record

theorem update_currentSnapshot (currentBoot : String) :
    UpdateSat id (do
        let record ← readRecord id ()
        Attempt.okOr (RecoveryStateSnapshot.fromRecord currentBoot record) ()) w (Current id) := by
  refine sat_readRecord_gives trivial fun record hget => ?_
  refine (Attempt.sat_okOr _ _ _).mono fun next _ ⟨hw, hnext⟩ => ?_
  rw [Current, hw, fromRecord_record hnext, hget]

theorem update_finalizationCapabilities :
    UpdateSat id (finalizationCapabilities snapshot) w fun _ w' => w' = w :=
  sat_readLedger_gives trivial ((Attempt.sat_okOr _ _ _).mono fun _ _ h => h.1)

theorem update_resolveForFinalization (h : Current id snapshot w) :
    UpdateSat id (resolveForFinalization snapshot) w (Current id) := by
  have hid : snapshot.record.lifecycleId = id := lifecycleId_of_get h
  unfold resolveForFinalization
  split
  · refine update_finalizationCapabilities.bind fun _ w' hw => ?_
    subst hw
    exact h
  · refine Attempt.Sat.require_bind fun _ => sat_readRecord_gives trivial fun current _ => ?_
    refine Attempt.Sat.require_bind fun _ => ?_
    have hconfirm : ∀ attempt, UpdateSat id (confirmRecordResolution snapshot.record.lifecycleId
        attempt current.operationLedger.recordResolution) w fun _ _ => True := by
      intro attempt
      unfold confirmRecordResolution
      split
      · exact (update_persist hid _ _).bind fun _ w' _ => update_persist hid _ _
      · trivial
      · exact Attempt.sat_fail _ _ _
      · exact Attempt.sat_fail _ _ _
      · exact Attempt.sat_fail _ _ _
    refine (hconfirm _).bind fun _ w₁ _ => (update_persist hid _ _).bind fun _ w₂ _ => ?_
    subst hid
    exact update_currentSnapshot _

theorem update_releaseForFinalization (h : Current id snapshot w) :
    UpdateSat id (releaseForFinalization snapshot) w (Current id) := by
  have hid : snapshot.record.lifecycleId = id := lifecycleId_of_get h
  unfold releaseForFinalization
  split
  · exact h
  · refine (update_persistIntent hid _ _).bind fun next w₁ hnext => ?_
    refine (update_persist hid _ _).bind fun _ w₂ _ => Attempt.Sat.require_bind fun _ => ?_
    subst hnext
    exact update_currentSnapshot _

structure Freed (done rest : List PersistentRecoveryRecord) (receipt : PersistentRecoveryRecord)
    (w : StartupWorld) : Prop where
  holding : Holding done rest w
  unnamed : ∀ other ∈ w.ledger.records, other.seat ≠ receipt.seat
  unmarked : w.ledger.seatStartupQuarantined receipt.seat = false

theorem get_removeResolved_refused {l : PersistentRecoveryLedger} {id : String}
    {answer : RemoveAnswer} (h : (l.removeResolved id answer).1 = false) (id' : String) :
    (l.removeResolved id answer).2.get id' = l.get id' := by
  unfold removeResolved at h ⊢
  split
  · rfl
  next r hget =>
    rw [hget] at h
    dsimp only at h
    split
    · rfl
    next hstate =>
      rw [if_neg hstate] at h
      cases answer with
      | notRemoved => rfl
      | notSynced => rfl
      | synced => cases h

/-- A removal that fails leaves the record in memory, and one that succeeds leaves no other on its
seat. -/
theorem ends_removeRecordTyped (file : Nat) (h : Current t.lifecycleId snapshot w)
    (hw : Holding done (t :: rest) w) (hids : t.lifecycleId ∉ rest.map (·.lifecycleId)) :
    VisitEnds boot done t rest (removeRecordTyped snapshot file) w (Freed done rest) := by
  have hid : snapshot.record.lifecycleId = t.lifecycleId := lifecycleId_of_get h
  have hinspect : StaysLocal boot (done ++ t :: rest) w .inspect :=
    staysLocal_of_visits rfl hw.visited trivial
  refine ⟨hinspect, fun _ _ => ?_⟩
  show VisitEnds boot done t rest (_ >>= _) w _
  refine .okOr_bind hw fun record hget => ?_
  cases (hid ▸ hget).symm.trans h
  refine .require_bind hw fun _ => ?_
  have hother : ∀ u ∈ rest, u.lifecycleId ≠ snapshot.record.lifecycleId := by
    intro u hu heq
    exact hids (List.mem_map.mpr ⟨u, hu, heq.trans hid⟩)
  have hremove : VisitEnds boot done t rest
      (.perform (.removeResolved snapshot.record.lifecycleId) ()) w
      fun _ w' => Freed done rest snapshot.record w' := by
    refine Attempt.sat_perform_result (staysLocal_of_visits rfl hw.visited hid)
      (fun x hx hdone => ?_) fun x _ hrefused => ?_
    · obtain ⟨hunmarked, hsole⟩ := hx.2 snapshot.record hget
      have honly := w.ledger.onRecord_removeResolved snapshot.record.lifecycleId x.remove
      refine ⟨⟨hw.visited, honly.marks.startupQuarantined.trans hw.unmarked, fun u hu => ?_⟩, ?_, ?_⟩
      · show ((w.ledger.removeResolved _ _).2.get _).isSome = true
        rw [honly.get _ (hother u hu)]
        exact hw.present u (List.mem_cons_of_mem _ hu)
      · intro other hmem hseat
        have hold := records_removeResolved w.ledger _ x.remove other hmem
        exact gone_removeResolved hdone other hmem (hsole other hold hseat)
      · show (w.ledger.removeResolved _ _).2.seatStartupQuarantined _ = false
        rw [seatStartupQuarantined, honly.marks.seats]
        exact hunmarked
    · have honly := w.ledger.onRecord_removeResolved snapshot.record.lifecycleId x.remove
      refine ⟨hw.visited, honly.marks.startupQuarantined.trans hw.unmarked, fun u hu => ?_⟩
      show ((w.ledger.removeResolved _ _).2.get _).isSome = true
      rw [get_removeResolved_refused hrefused]
      exact hw.present u hu
  exact hremove.bind fun _ _ hfreed => hfreed

/-- The permit of a seat that nothing else names or marks is issued. -/
theorem ends_issueSeatFreePermit {receipt : PersistentRecoveryRecord}
    (h : Freed done rest receipt w) :
    VisitEnds boot done t rest (issueSeatFreePermit receipt) w fun _ w' => Holding done rest w' := by
  refine ⟨staysLocal_of_visits rfl h.holding.visited trivial, fun _ _ => ?_⟩
  have hnamed : (w.ledger.records.any fun r => decide (r.seat = receipt.seat)) = false := by
    simpa using h.unnamed
  have hpermit : VisitEnds boot done t rest (.require (!((w.ledger.records.any fun r =>
      decide (r.seat = receipt.seat)) || w.ledger.seatStartupQuarantined receipt.seat ||
        w.ledger.startupQuarantined)) ()) w fun _ w' => Holding done rest w' := by
    rw [hnamed, h.unmarked, h.holding.unmarked]
    exact h.holding
  exact hpermit

theorem ends_finalizeStartupRecord (hw : Holding done (t :: rest) w)
    (hids : t.lifecycleId ∉ rest.map (·.lifecycleId)) :
    VisitEnds boot done t rest (finalizeStartupRecord t.lifecycleId) w
      fun _ w' => Holding done rest w' := by
  have hread : UpdateSat t.lifecycleId (readRecord t.lifecycleId ()) w fun record w' =>
      w'.ledger.get t.lifecycleId = some record :=
    ⟨trivial, fun _ _ => (Attempt.sat_okOr _ _ _).mono fun _ _ h => h.1 ▸ h.2⟩
  refine (hread.visitEnds hw).bind fun record w₁ ⟨hget, h₁⟩ => ?_
  refine .require_bind h₁ fun _ => .okOr_bind h₁ fun snapshot hsnapshot => ?_
  have hcurrent : Current t.lifecycleId snapshot w₁ := by
    rw [Current, fromRecord_record hsnapshot, hget]
  refine ((update_resolveForFinalization hcurrent).visitEnds h₁).bind
    fun resolved w₂ ⟨hresolved, h₂⟩ => ?_
  refine ((update_releaseForFinalization hresolved).visitEnds h₂).bind
    fun released w₃ ⟨hreleased, h₃⟩ => ?_
  refine (update_finalizationCapabilities.visitEnds h₃).bind fun file w₄ ⟨hsame, h₄⟩ => ?_
  subst hsame
  refine (ends_removeRecordTyped file hreleased h₄ hids).bind fun receipt w₅ hfreed => ?_
  exact ends_issueSeatFreePermit hfreed

end Finalization

section Entries
variable {boot : String} {done rest records : List PersistentRecoveryRecord}
  {t : PersistentRecoveryRecord} {w : StartupWorld} {α : Type}

/-- Every request stays local, as long as no quarantine fails and no seat loses one of several records. -/
abbrev LocalSat (boot : String) (records : List PersistentRecoveryRecord) (p : StartupM α)
    (w : StartupWorld) (post : α → StartupWorld → Prop) : Prop :=
  p.Sat StartupWorld.perform Spared (StaysLocal boot records) w post

theorem Holding.tail (h : Holding done (t :: rest) w) : Holding done rest w :=
  ⟨h.visited, h.unmarked, fun u hu => h.present u (List.mem_cons_of_mem _ hu)⟩

theorem local_countFree (h : Holding done rest w) :
    LocalSat boot (done ++ t :: rest) (.ask (.countFree t.lifecycleId) fun _ _ => .done ()) w
      fun _ w' => Holding (done ++ [t]) rest w' := by
  refine ⟨staysLocal_of_visits rfl h.visited rfl, fun x _ => ⟨?_, h.unmarked, h.present⟩⟩
  rw [List.length_append, ← h.visited]
  show w.summary.free + 1 + w.summary.quarantined = w.summary.free + w.summary.quarantined + 1
  omega

theorem local_countQuarantined (h : Holding done rest w) :
    LocalSat boot (done ++ t :: rest) (.ask (.countQuarantined t.lifecycleId) fun _ _ => .done ()) w
      fun _ w' => Holding (done ++ [t]) rest w' := by
  refine ⟨staysLocal_of_visits rfl h.visited rfl, fun x _ => ⟨?_, h.unmarked, h.present⟩⟩
  rw [List.length_append, ← h.visited]
  rfl

/-- The quarantine of a record that is still in memory can be written. -/
theorem local_quarantineStartupRecord (reason : StartupRecoveryFailure)
    (h : Holding done (t :: rest) w) :
    LocalSat boot (done ++ t :: rest) (quarantineStartupRecord t.lifecycleId reason) w
      fun _ w' => Holding (done ++ [t]) rest w' := by
  refine ⟨staysLocal_of_visits rfl h.visited trivial, fun _ _ => ?_⟩
  beta_reduce
  split
  · exact local_countQuarantined h.tail
  · refine ⟨staysLocal_of_visits rfl h.visited rfl, fun x hx => ?_⟩
    have hwritten := hx.1 (h.present t List.mem_cons_self)
    have hupdates : UpdatesRecord t.lifecycleId (.write t.lifecycleId (.quarantine reason)) := rfl
    beta_reduce
    rw [if_pos hwritten]
    exact local_countQuarantined (holding_of_updates h hupdates).tail

theorem local_finalizeOrQuarantine (h : Holding done (t :: rest) w)
    (hids : t.lifecycleId ∉ rest.map (·.lifecycleId)) :
    LocalSat boot (done ++ t :: rest) (finalizeOrQuarantine t.lifecycleId) w
      fun _ w' => Holding (done ++ [t]) rest w' := by
  refine Program.Sat.bind (ends_finalizeStartupRecord h hids) fun result w' hw => ?_
  cases result with
  | ok a => exact local_countFree hw
  | error e => exact local_quarantineStartupRecord _ hw

theorem local_reconcileSameBootEntry (host : SameBootHost) (blocked conflicted : Bool)
    (h : Holding done (t :: rest) w) (hids : t.lifecycleId ∉ rest.map (·.lifecycleId)) :
    LocalSat boot (done ++ t :: rest) (reconcileSameBootEntry host boot blocked conflicted t) w
      fun _ w' => Holding (done ++ [t]) rest w' := by
  unfold reconcileSameBootEntry
  split
  next attempt _ =>
    refine ⟨staysLocal_of_visits rfl h.visited rfl, fun x _ => ?_⟩
    have hupdates : UpdatesRecord t.lifecycleId (.write t.lifecycleId
        (.finishVtRecoveryAttempt attempt.attemptId .indeterminate none)) := rfl
    exact local_countQuarantined (holding_of_updates h hupdates).tail
  next =>
    split
    · exact local_quarantineStartupRecord _ h
    · split
      · exact local_finalizeOrQuarantine h hids
      · split
        · exact local_quarantineStartupRecord _ h
        · split
          · exact local_countQuarantined h.tail
          · have hrecover : UpdateSat t.lifecycleId (reconcileSameBootRecord host ⟨t, boot⟩) w
                fun _ _ => True := update_reconcileSameBootRecord rfl
            refine Program.Sat.bind (hrecover.visitEnds h) fun result w' hw => ?_
            cases result with
            | ok a => exact local_finalizeOrQuarantine hw.2 hids
            | error e => exact local_quarantineStartupRecord e hw

theorem visits_of_finalizes {own : String → Prop} {kept : HistoricalFinalizationEntry → Prop}
    {request : StartupRequest} (hboot : t.createdBootId ≠ boot)
    (h : FinalizesRecord t.lifecycleId own kept request) : Visits boot t request := by
  cases request with
  | inspect => trivial
  | write id write => exact h
  | removeRecordExact id file => exact ⟨h, hboot⟩
  | persistJournal journal => exact hboot
  | clearSeatStartupQuarantine seat cause => exact hboot
  | _ => exact h.elim

theorem holding_of_finalizes {own : String → Prop} {kept : HistoricalFinalizationEntry → Prop}
    {request : StartupRequest} {x : StartupAnswer} (h : Holding done rest w)
    (hids : t.lifecycleId ∉ rest.map (·.lifecycleId))
    (hfinalizes : FinalizesRecord t.lifecycleId own kept request) :
    Holding done rest (w.perform request x).2 := by
  cases request with
  | inspect => exact h
  | write id write => exact holding_perform h rfl nofun fun _ _ => ⟨nofun, nofun⟩
  | removeRecordExact id file =>
    refine holding_perform h rfl nofun fun u hu => ⟨nofun, fun file' heq => ?_⟩
    cases heq
    exact hids (List.mem_map.mpr ⟨u, hu, hfinalizes⟩)
  | persistJournal journal => exact holding_perform h rfl nofun fun _ _ => ⟨nofun, nofun⟩
  | clearSeatStartupQuarantine seat cause => exact ⟨h.visited, h.unmarked, h.present⟩
  | _ => exact hfinalizes.elim

/-- The finalization of a record of an earlier boot, and how it is counted. -/
theorem local_executeAndCount (host : PreviousBootHost) (facts : PreviousBootCurrentFacts)
    (hboot : t.createdBootId ≠ boot) (h : Holding done rest w)
    (hids : t.lifecycleId ∉ rest.map (·.lifecycleId)) :
    LocalSat boot (done ++ t :: rest) (executeAndCount host boot t facts) w
      fun _ w' => Holding (done ++ [t]) rest w' := by
  have hplan : FinalizeSat t.lifecycleId (fun _ => True) (fun _ => True)
      (executePreviousBootPlan host t boot facts (planPreviousBootReconciliation t facts)) w
      fun _ _ => True := finalize_executePreviousBootPlan (fun _ _ => trivial)
        fun _ _ _ _ => trivial
  have hexecute : Program.Sat StartupWorld.perform Spared (StaysLocal boot (done ++ t :: rest))
      (executePreviousBootPlan host t boot facts (planPreviousBootReconciliation t facts)) w
      fun _ w' => True ∧ Holding done rest w' := by
    refine (Program.Sat.strengthen hplan (Holding done rest) h (fun _ _ _ _ => trivial)
      (fun _ _ hs hr => ?_) fun _ _ _ hs hr _ => ?_).mono fun _ _ hw => ⟨trivial, hw.2⟩
    · exact staysLocal_of_visits rfl hs.visited (visits_of_finalizes hboot hr)
    · exact holding_of_finalizes hs hids hr
  refine Program.Sat.bind hexecute fun result w' hw => ?_
  split
  · exact local_countFree hw.2
  · exact local_countQuarantined hw.2
  · exact local_countQuarantined hw.2

theorem local_reconcilePreviousBootEntry (host : PreviousBootHost)
    (recordSet : RecoveryRecordSetClassification) (hboot : t.createdBootId ≠ boot)
    (h : Holding done (t :: rest) w) (hids : t.lifecycleId ∉ rest.map (·.lifecycleId)) :
    LocalSat boot (done ++ t :: rest) (reconcilePreviousBootEntry host boot recordSet t) w
      fun _ w' => Holding (done ++ [t]) rest w' := by
  have hmark : StaysLocal boot (done ++ t :: rest) w
      (.markSeatStartupQuarantine t.seat (.record t.lifecycleId)) :=
    staysLocal_of_visits rfl h.visited ⟨rfl, hboot⟩
  have hmarked : ∀ x, Holding done rest (w.perform
      (.markSeatStartupQuarantine t.seat (.record t.lifecycleId)) x).2 := fun x =>
    ⟨h.visited, h.unmarked, h.tail.present⟩
  unfold reconcilePreviousBootEntry
  split
  · exact ⟨hmark, fun x _ => local_countQuarantined (hmarked x)⟩
  · refine ⟨staysLocal_of_visits rfl h.visited trivial, fun _ _ => ⟨hmark, fun x _ => ?_⟩⟩
    exact local_executeAndCount host _ hboot (hmarked x) hids

theorem local_reconcileEntries (host : StartupHost) (ctx : StartupContext)
    (h : Holding done rest w) (hids : (rest.map (·.lifecycleId)).Nodup) :
    LocalSat ctx.currentBoot (done ++ rest) (reconcileEntries host ctx rest) w
      fun _ w' => Holding (done ++ rest) [] w' := by
  induction rest generalizing done w with
  | nil =>
    rw [List.append_nil]
    exact h
  | cons t rest ih =>
    rw [List.map_cons, List.nodup_cons] at hids
    have hentry : LocalSat ctx.currentBoot (done ++ t :: rest) (reconcileEntry host ctx t) w
        fun _ w' => Holding (done ++ [t]) rest w' := by
      unfold reconcileEntry
      split
      · exact local_reconcileSameBootEntry _ _ _ h hids.1
      next hboot => exact local_reconcilePreviousBootEntry _ _ hboot h hids.1
    refine hentry.bind fun _ w' hw => ?_
    have hrest := ih hw hids.2
    rw [List.append_assoc] at hrest
    exact hrest

end Entries

section Reconcile
variable {boot : String} {records : List PersistentRecoveryRecord} {w : StartupWorld} {α : Type}

structure AllVisited (records : List PersistentRecoveryRecord) (w : StartupWorld) : Prop where
  visited : records.length ≤ w.visited
  unmarked : w.ledger.startupQuarantined = false

/-- What follows the loop may do anything but quarantine startup as a whole. -/
theorem local_of_asks {p : StartupM α} (hp : p.Asks (· ≠ .markStartupQuarantine))
    (h : AllVisited records w) :
    LocalSat boot records p w fun _ w' => AllVisited records w' := by
  refine hp.sat (AllVisited records) (fun s request hs hr => ?_) (fun s request x hs hr => ?_) h
  · refine ⟨hr, fun r hget _ => ?_⟩
    rw [List.getElem?_eq_none hs.visited] at hget
    cases hget
  · exact ⟨hs.visited.trans (visited_le_perform s request x),
      (startupQuarantined_perform hr).trans hs.unmarked⟩

theorem asks_resumeEntries (ledger : PersistentRecoveryLedger)
    (entries : List HistoricalFinalizationEntry) (journal : HistoricalFinalizationJournal)
    (completed : Nat) :
    (resumeEntries ledger entries journal completed).Asks (· ≠ .markStartupQuarantine) := by
  induction entries generalizing journal completed with
  | nil => trivial
  | cons entry rest ih =>
    unfold resumeEntries
    split
    · exact ih _ _
    · split
      · split
        · trivial
        · exact ih _ _
        · exact (Attempt.asks_perform nofun _).bind fun _ => ih _ _
      · exact (Attempt.asks_perform nofun _).bind fun _ => ih _ _

theorem asks_resumeAndCount : resumeAndCount.Asks (· ≠ .markStartupQuarantine) := by
  have hresume : resumeRemovedPreviousBootFinalization.Asks (· ≠ .markStartupQuarantine) := by
    refine Attempt.Asks.bind ⟨nofun, fun _ _ => trivial⟩ fun ledger => ?_
    refine (Attempt.asks_okOr _ _).bind fun journal => (Attempt.asks_check _).bind fun _ => ?_
    split
    · trivial
    · refine (asks_resumeEntries _ _ _ _).bind fun (journal₁, completed) => ?_
      dsimp only
      split
      · trivial
      · exact (Attempt.asks_perform nofun _).bind fun _ => trivial
  refine Program.Asks.bind hresume fun result => ?_
  cases result with
  | ok completed => exact ⟨nofun, fun _ _ => trivial⟩
  | error e => trivial

theorem local_markSeats (seats : List String) (h : Holding [] records w) :
    LocalSat boot records (markSeats seats) w fun _ w' => Holding [] records w' := by
  induction seats generalizing w with
  | nil => exact h
  | cons seat seats ih =>
    refine ⟨⟨nofun, fun _ _ hm => ?_⟩, fun x _ => ih ⟨h.visited, h.unmarked, h.present⟩⟩
    cases hm

theorem local_reconcileRecordSet (host : StartupHost) (blockedSeats : List String)
    {recordSet : RecoveryRecordSetClassification} (hset : recordSet.globalQuarantine = false)
    (h : Holding [] records w) (hids : (records.map (·.lifecycleId)).Nodup) :
    LocalSat boot records (reconcileRecordSet host boot blockedSeats recordSet records) w
      fun _ w' => AllVisited records w' := by
  unfold reconcileRecordSet
  rw [if_neg (by rw [hset]; exact Bool.false_ne_true)]
  have hloop : LocalSat boot records (reconcileEntries host ⟨boot, blockedSeats,
      conflicts (records.filter (·.createdBootId = boot)), recordSet⟩ records) w
      fun _ w' => Holding records [] w' :=
    local_reconcileEntries host ⟨boot, blockedSeats, _, recordSet⟩ h hids
  refine hloop.bind fun _ w' hw => ?_
  exact local_of_asks asks_resumeAndCount ⟨hw.visited.ge, hw.unmarked⟩

/-- Neither loading the directory nor the inventory of scopes quarantines startup as a whole. -/
structure StartsUnquarantined (host : StartupHost) (l : PersistentRecoveryLedger) : Prop where
  unmarked : l.startupQuarantined = false
  recordSet : l.recordSet.globalQuarantine = false
  boot : ∃ boot, host.bootId = some boot ∧ bootIdentityValid boot = true
  inventory : host.inventory.getD .globalQuarantine ≠ .globalQuarantine

theorem local_reconcile {host : StartupHost} (h : StartsUnquarantined host w.ledger)
    (hw : w.visited = 0) (hvalid : ∀ r ∈ w.ledger.records, bootIdentityValid r.createdBootId = true)
    (hids : (w.ledger.records.map (·.lifecycleId)).Nodup) :
    LocalSat host.currentBoot w.ledger.records (reconcile host) w
      fun _ w' => AllVisited w.ledger.records w' := by
  refine ⟨⟨nofun, fun _ _ _ => trivial⟩, fun _ _ => ?_⟩
  show LocalSat _ _ (reconcileRecords host w.ledger.recordSet w.ledger.records) w _
  obtain ⟨boot, hboot, hbootValid⟩ := h.boot
  have hcurrent : host.currentBoot = boot := by rw [StartupHost.currentBoot, hboot, Option.getD_some]
  have hholding : Holding [] w.ledger.records w := by
    refine ⟨hw, h.unmarked, fun u hu => ?_⟩
    exact List.find?_isSome.mpr ⟨u, hu, decide_eq_true rfl⟩
  have hall : w.ledger.records.all (bootIdentityValid ·.createdBootId) = true :=
    List.all_eq_true.mpr hvalid
  have hfilter : host.bootId.filter bootIdentityValid = some boot := by
    rw [hboot, Option.filter_some, if_pos hbootValid]
  rw [hcurrent]
  unfold reconcileRecords
  simp only [hfilter, hall, Bool.not_true, Bool.false_eq_true, if_false]
  split
  · exact local_reconcileRecordSet host _ h.recordSet hholding hids
  · exact (local_markSeats _ hholding).bind fun _ _ hmarked =>
      local_reconcileRecordSet host _ h.recordSet hmarked hids
  next hinventory => exact absurd hinventory h.inventory

end Reconcile

section Directory
variable (l : PersistentRecoveryLedger) (bootId : Option String)

theorem records_openDirectory : (l.openDirectory bootId).records =
    l.loadRecords (bootId.filter bootIdentityValid) :=
  (applyHistoricalJournalQuarantine_keeps _).1

theorem nodup_openDirectory (h : (l.files.map RecordFile.lifecycleId).Nodup) :
    ((l.openDirectory bootId).records.map (·.lifecycleId)).Nodup := by
  rw [records_openDirectory]
  cases bootId.filter bootIdentityValid with
  | none => exact List.nodup_nil
  | some boot =>
    have hids : ((l.files.filter readsBack).map (·.record)).map (·.lifecycleId) =
        (l.files.filter readsBack).map RecordFile.lifecycleId := List.map_map
    show (((l.files.filter readsBack).map (·.record)).map (·.lifecycleId)).Nodup
    rw [hids]
    exact h.sublist (List.filter_sublist.map _)

theorem createdBootId_openDirectory :
    ∀ r ∈ (l.openDirectory bootId).records, bootIdentityValid r.createdBootId = true := by
  rw [records_openDirectory]
  cases bootId.filter bootIdentityValid with
  | none => exact fun _ hr => absurd hr List.not_mem_nil
  | some boot =>
    intro r hr
    obtain ⟨f, hf, rfl⟩ := List.mem_map.mp hr
    have hreads := (List.mem_filter.mp hf).2
    exact createdBoot_of_valid (Bool.and_eq_true_iff.mp hreads).1

end Directory

section Startup

def startedUp (host : StartupHost) (l : PersistentRecoveryLedger) (answers : List StartupAnswer)
    (n : Nat) : StartupWorld × StartupM Unit :=
  (answers.take n).foldl (Program.step StartupWorld.perform) ({ ledger := l }, reconcile host)

/-- The count passes a record's position when the record is counted. -/
theorem counted_of_passed {boot : String} {records : List PersistentRecoveryRecord}
    {s : StartupWorld × StartupM Unit} {post : Unit → StartupWorld → Prop} {k : Nat}
    {r : PersistentRecoveryRecord} {x : StartupAnswer}
    (h : LocalSat boot records s.2 s.1 post) (hr : records[k]? = some r)
    (hbefore : ¬k < s.1.visited) (hafter : k < (Program.step StartupWorld.perform s x).1.visited) :
    s.2.pending = some (.countFree r.lifecycleId) ∨
      s.2.pending = some (.countQuarantined r.lifecycleId) := by
  rcases Program.step_cases StartupWorld.perform s x with hsame | ⟨request, hpending, hstep⟩
  · rw [hsame] at hafter
    exact absurd hafter hbefore
  · rw [hstep] at hafter
    have hlength : k < records.length := (List.getElem?_eq_some_iff.mp hr).1
    have hgood := (h.pending hpending).visits
    -- a count raises the number of visits by one, and is about the record it has reached
    have hcounted : ∀ id, (s.1.perform request x).2.visited = s.1.visited + 1 →
        (∀ t, records[s.1.visited]? = some t → id = t.lifecycleId) → id = r.lifecycleId := by
      intro id hone hid
      have hk : s.1.visited = k := by omega
      exact hid r (hk ▸ hr)
    cases request with
    | countFree id =>
      have hone : (s.1.perform (.countFree id) x).2.visited = s.1.visited + 1 := by
        show s.1.summary.free + 1 + s.1.summary.quarantined = s.1.summary.free + _ + 1
        omega
      rw [hcounted id hone fun t ht => hgood t ht rfl] at hpending
      exact Or.inl hpending
    | countQuarantined id =>
      rw [hcounted id rfl fun t ht => hgood t ht rfl] at hpending
      exact Or.inr hpending
    | addToSummary free quarantined =>
      have hreached : s.1.visited < records.length := by omega
      exact absurd (hgood _ (List.getElem?_eq_getElem hreached) rfl) id
    | _ => exact absurd hafter hbefore

/-- In every startup that is not quarantined from the start, in which no quarantine of a record
fails and no seat loses one of several records, nothing quarantines startup as a whole, the visit of
a record of the current boot is about that record only, and every record is visited. -/
theorem startup_failures_local (directory : PersistentRecoveryLedger) (bootId : Option String)
    (host : StartupHost) (answers : List StartupAnswer)
    (hfiles : (directory.files.map RecordFile.lifecycleId).Nodup)
    (hstart : StartsUnquarantined host (directory.openDirectory bootId))
    (hrun : StepsMeet (Program.step StartupWorld.perform) (Program.Admits Spared)
      ({ ledger := directory.openDirectory bootId }, reconcile host) answers) :
    let l := directory.openDirectory bootId
    (∀ n, (startedUp host l answers n).1.ledger.startupQuarantined = false) ∧
    (∀ n < answers.length, ∀ request r,
      (startedUp host l answers n).2.pending = some request → request.isInventoryMark = false →
      l.records[(startedUp host l answers n).1.visited]? = some r →
      r.createdBootId = host.currentBoot →
      OnRecord r.lifecycleId (startedUp host l answers n).1.ledger
        (startedUp host l answers (n + 1)).1.ledger) ∧
    ((startedUp host l answers answers.length).2.pending = none → ∀ r ∈ l.records, ∃ n,
      (startedUp host l answers n).2.pending = some (.countFree r.lifecycleId) ∨
        (startedUp host l answers n).2.pending = some (.countQuarantined r.lifecycleId)) := by
  intro l
  have hlocal : LocalSat host.currentBoot l.records (reconcile host) { ledger := l }
      fun _ w' => AllVisited l.records w' :=
    local_reconcile (w := { ledger := l }) hstart rfl
      (createdBootId_openDirectory directory bootId) (nodup_openDirectory directory bootId hfiles)
  have hrest : ∀ n, LocalSat host.currentBoot l.records (startedUp host l answers n).2
      (startedUp host l answers n).1 fun _ w' => AllVisited l.records w' := fun n =>
    hlocal.steps (stepsMeet_take hrun n)
  have hsucc : ∀ n (x : StartupAnswer), answers[n]? = some x → ∀ request,
      (startedUp host l answers n).2.pending = some request →
      (startedUp host l answers (n + 1)).1 =
        ((startedUp host l answers n).1.perform request x).2 := by
    intro n x hx request hpending
    rw [startedUp, foldl_take_succ hx]
    exact Program.step_of_pending hpending x
  refine ⟨fun n => ?_, fun n hn request r hpending hmark hr hboot => ?_, fun hdone r hr => ?_⟩
  · refine hlocal.steps_invariant (fun w => w.ledger.startupQuarantined = false)
      (fun w request x hw hgood _ => ?_) hstart.unmarked (stepsMeet_take hrun n)
    exact (startupQuarantined_perform hgood.unmarked).trans hw
  · rw [hsucc n _ (List.getElem?_eq_getElem hn) request hpending]
    exact onRecord_perform_of_visits (((hrest n).pending hpending).visits r hr hmark) hboot
  · -- the step that counts beyond the record's position is the one that counts the record
    obtain ⟨k, hk⟩ := List.mem_iff_getElem?.mp hr
    have hlength : k < l.records.length := (List.getElem?_eq_some_iff.mp hk).1
    obtain ⟨_, hend⟩ := (hrest answers.length).result hdone
    have hlast : k < (answers.foldl (Program.step StartupWorld.perform)
        ({ ledger := l }, reconcile host)).1.visited := by
      rw [startedUp, List.take_length] at hend
      exact hlength.trans_le hend.visited
    have hfirst : ¬k < StartupWorld.visited { ledger := l } := Nat.not_lt_zero k
    obtain ⟨n, x, hx, hbefore, hafter⟩ := exists_step_of_change
      (P := fun s : StartupWorld × StartupM Unit => k < s.1.visited) hfirst hlast
    refine ⟨n, ?_⟩
    exact counted_of_passed (hrest n) hk hbefore hafter

/-- A record of the current boot whose resolution was interrupted before its removal. -/
def finishedRecord : PersistentRecoveryRecord :=
  { emptyScopeRecord .notStarted 3 with state := "record_resolved" }

def finishedDirectory : PersistentRecoveryLedger := { files := [⟨1, finishedRecord⟩] }

def sharedDirectory : PersistentRecoveryLedger :=
  { files := [⟨1, finishedRecord⟩, ⟨2, { quarantinedRecord with lifecycleId := "worker-2" }⟩] }

theorem sharedDirectory_readsBack : ∀ f ∈ sharedDirectory.files, readsBack f = true := by
  intro f hf
  have hread : ReadableRecord f.record ∧ validateRecord f.record = true := by
    rcases List.mem_pair.mp hf with rfl | rfl
    · exact ⟨readable_of_untouched rfl rfl (by decide) (by decide) (by decide), by decide⟩
    · exact ⟨readable_of_untouched rfl rfl (by decide) (by decide) (by decide), by decide⟩
  simp [readsBack, hread.2, (validateHistoricalRecord_eq_nil _).mpr hread.1]

theorem sharedDirectory_opened : sharedDirectory.openDirectory (some "boot-1") =
    { sharedDirectory with
      records := sharedDirectory.files.map (·.record)
      recordSet := classifyRecoveryRecordSet (sharedDirectory.files.map (·.record)) false "boot-1" } :=
  openDirectory_of_allReadBack sharedDirectory_readsBack rfl (by decide) rfl (by decide)

theorem finishedDirectory_opened : finishedDirectory.openDirectory (some "boot-1") =
    { finishedDirectory with
      records := [finishedRecord]
      recordSet := classifyRecoveryRecordSet [finishedRecord] false "boot-1" } :=
  openDirectory_of_readsBack rfl (sharedDirectory_readsBack _ List.mem_cons_self) rfl rfl (by decide)

def StartupRequest.isSpared : StartupRequest → Bool
  | .write _ (.quarantine _) => true
  | .removeResolved _ => true
  | _ => false

theorem spared_of_quiet {w : StartupWorld} {request : StartupRequest} {x : StartupAnswer}
    (h : request.isSpared = false) : Spared w request x := by
  unfold StartupRequest.isSpared at h
  split at h
  · cases h
  · cases h
  next hwrite hremove =>
    unfold Spared QuarantineTaken RemovesSoleRecord
    split
    · exact absurd rfl (hwrite _ _)
    · split
      · exact absurd rfl (hremove _)
      · exact ⟨trivial, trivial⟩

theorem removesSoleRecord_of_one {w : StartupWorld} {id : String}
    (hone : w.ledger.records.length = 1) (hmarks : w.ledger.startupQuarantinedSeats = []) :
    RemovesSoleRecord w (.removeResolved id) := by
  intro r hget
  obtain ⟨only, honly⟩ := List.length_eq_one_iff.mp hone
  have hr : r = only := by simpa [honly] using KeyedList.mem_of_lookup hget
  refine ⟨by simp [seatStartupQuarantined, hmarks], fun other hother _ => ?_⟩
  have hsame : other = only := by simpa [honly] using hother
  rw [hsame, ← hr, lifecycleId_of_get hget]

theorem quietHost_unquarantined {l : PersistentRecoveryLedger} (h : l.startupQuarantined = false)
    (hset : l.recordSet.globalQuarantine = false) : StartsUnquarantined (quietHost .none) l :=
  ⟨h, hset, ⟨"boot-1", rfl, by decide⟩, by decide⟩

theorem finishedDirectory_spared :
    StepsMeet (Program.step StartupWorld.perform) (Program.Admits Spared)
      ({ ledger := finishedDirectory.openDirectory (some "boot-1") }, reconcile (quietHost .none))
      (List.replicate 14 (synced 0)) := by
  rw [finishedDirectory_opened]
  iterate 9 refine ⟨Program.admits_of_pending rfl (spared_of_quiet rfl), ?_⟩
  refine ⟨Program.admits_of_pending rfl ⟨trivial, removesSoleRecord_of_one rfl rfl⟩, ?_⟩
  iterate 4 refine ⟨Program.admits_of_pending rfl (spared_of_quiet rfl), ?_⟩
  trivial

theorem finishedDirectory_local :
    (startedUp (quietHost .none) (finishedDirectory.openDirectory (some "boot-1"))
        (List.replicate 14 (synced 0)) 14).1.ledger.startupQuarantined = false ∧
      ∃ n, (startedUp (quietHost .none) (finishedDirectory.openDirectory (some "boot-1"))
          (List.replicate 14 (synced 0)) n).2.pending = some (.countFree "worker-1") ∨
        (startedUp (quietHost .none) (finishedDirectory.openDirectory (some "boot-1"))
          (List.replicate 14 (synced 0)) n).2.pending = some (.countQuarantined "worker-1") := by
  have hstart : StartsUnquarantined (quietHost .none)
      (finishedDirectory.openDirectory (some "boot-1")) := by
    rw [finishedDirectory_opened]
    exact quietHost_unquarantined rfl rfl
  obtain ⟨hunmarked, -, hvisited⟩ := startup_failures_local finishedDirectory (some "boot-1")
    (quietHost .none) (List.replicate 14 (synced 0)) (by decide) hstart finishedDirectory_spared
  refine ⟨hunmarked 14, hvisited ?_ finishedRecord ?_⟩
  · rw [finishedDirectory_opened]
    rfl
  · rw [finishedDirectory_opened]
    exact List.mem_singleton.mpr rfl

/-- No write fails but that of a record already removed, and yet startup as a whole is
quarantined. -/
theorem shared_seat_quarantines_startup :
    (sharedDirectory.files.map RecordFile.lifecycleId).Nodup ∧
    StartsUnquarantined (quietHost .none) (sharedDirectory.openDirectory (some "boot-1")) ∧
    (startup sharedDirectory (some "boot-1") (quietHost .none) synced).ledger.startupQuarantined =
      true := by
  refine ⟨by decide, ?_, ?_⟩
  · rw [sharedDirectory_opened]
    exact quietHost_unquarantined rfl rfl
  · simp only [startup, sharedDirectory_opened]
    rfl

end Startup

end Niralis
