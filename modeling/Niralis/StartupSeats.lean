import Niralis.LedgerFrames
import Niralis.RestartEffects
import Niralis.SeatHolders
import Niralis.StartupReconciliation

namespace Niralis
open PersistentRecoveryLedger

def StartupHost.currentBoot (host : StartupHost) : String := host.bootId.getD ""

/-- The marks that make `SupervisorLoopState::new` quarantine the seat. -/
def PersistentRecoveryLedger.seatClosed (l : PersistentRecoveryLedger) (seat : String) : Bool :=
  l.startupQuarantined || l.recordSet.globalQuarantine || l.seatStartupQuarantined seat ||
    l.recordSet.seatBlocked seat

/-- No record of the current boot is given up while nothing closes its seat, and the seat's mark is
not taken away from under a record. -/
def KeepsSeatClosed (seat boot : String) (w : StartupWorld) (request : StartupRequest)
    (_ : StartupAnswer) : Prop :=
  match request with
  | .countQuarantined id => ∀ r ∈ w.ledger.records, r.lifecycleId = id → r.seat = seat →
      r.createdBootId = boot → w.ledger.seatClosed seat = true
  | .clearSeatStartupQuarantine cleared _ => cleared = seat →
      (∃ r ∈ w.ledger.records, r.seat = seat) →
      (w.ledger.startupQuarantined || w.ledger.recordSet.globalQuarantine ||
        w.ledger.recordSet.seatBlocked seat) = true
  | _ => True

structure SameRecord (r t : PersistentRecoveryRecord) : Prop where
  lifecycleId : r.lifecycleId = t.lifecycleId
  seat : r.seat = t.seat
  boot : r.createdBootId = t.createdBootId

/-- Every record of the seat is still to be visited, or the seat is closed. -/
def Guarded (seat : String) (todo : List PersistentRecoveryRecord) (w : StartupWorld) : Prop :=
  ∀ r ∈ w.ledger.records, r.seat = seat →
    w.ledger.seatClosed seat = true ∨ ∃ t ∈ todo, SameRecord r t

section Requests
variable {seat boot : String} {todo : List PersistentRecoveryRecord} {w : StartupWorld}

theorem seatClosed_of_sameMarks {l l' : PersistentRecoveryLedger} (h : SameMarks l l')
    (hclosed : l.seatClosed seat = true) : l'.seatClosed seat = true := by
  unfold PersistentRecoveryLedger.seatClosed seatStartupQuarantined at hclosed ⊢
  rwa [h.recordSet, h.startupQuarantined, h.seats]

theorem records_write (l : PersistentRecoveryLedger) (id : String) (write : RecordWrite)
    (answer : WriteAnswer) : ∀ r' ∈ (l.write id write answer).2.records, ∃ r ∈ l.records,
      SameRecord r' r := by
  intro r' hr'
  rcases write_cases l id write answer with hw | ⟨r, next, hget, happly, -, -, hw⟩
  · rw [hw] at hr'
    exact ⟨r', hr', ⟨rfl, rfl, rfl⟩⟩
  · rw [hw] at hr'
    split at hr'
    · rcases KeyedList.mem_put hr' with rfl | hold
      · have hresult := writeResult_of_apply happly
        exact ⟨r, KeyedList.mem_of_lookup hget, hresult.lifecycleId, hresult.seat,
          hresult.createdBoot⟩
      · exact ⟨r', hold, ⟨rfl, rfl, rfl⟩⟩
    · exact ⟨r', hr', ⟨rfl, rfl, rfl⟩⟩

theorem records_removeResolved (l : PersistentRecoveryLedger) (id : String)
    (answer : RemoveAnswer) : ∀ r' ∈ (l.removeResolved id answer).2.records, r' ∈ l.records := by
  intro r' hr'
  unfold removeResolved at hr'
  split at hr'
  · exact hr'
  · split at hr'
    · exact hr'
    · cases answer with
      | notRemoved => exact hr'
      | notSynced => exact hr'
      | synced => exact (KeyedList.mem_erase.mp hr').1

theorem records_perform (w : StartupWorld) (request : StartupRequest) (answer : StartupAnswer) :
    ∀ r' ∈ (w.perform request answer).2.ledger.records, ∃ r ∈ w.ledger.records,
      SameRecord r' r := by
  intro r' hr'
  cases request with
  | write id write => exact records_write w.ledger id write answer.write r' hr'
  | removeResolved id =>
    exact ⟨r', records_removeResolved w.ledger id answer.remove r' hr', ⟨rfl, rfl, rfl⟩⟩
  | removeRecordExact id expected =>
    simp only [StartupWorld.perform, StartupWorld.onLedger] at hr'
    rcases removeRecordExact_cases w.ledger id expected answer.remove with heq | heq
    · rw [heq] at hr'
      exact ⟨r', hr', ⟨rfl, rfl, rfl⟩⟩
    · rw [heq] at hr'
      exact ⟨r', records_removeResolved w.ledger id answer.remove r' hr', ⟨rfl, rfl, rfl⟩⟩
  | persistJournal journal =>
    refine ⟨r', ?_, ⟨rfl, rfl, rfl⟩⟩
    simp only [StartupWorld.perform, StartupWorld.onLedger] at hr'
    rcases w.ledger.persistJournal_cases journal answer.journal with hp | ⟨-, -, -, hp⟩
    · rwa [hp] at hr'
    · rwa [hp] at hr'
  | markStartupQuarantine => exact ⟨r', hr', ⟨rfl, rfl, rfl⟩⟩
  | markSeatStartupQuarantine marked cause => exact ⟨r', hr', ⟨rfl, rfl, rfl⟩⟩
  | clearSeatStartupQuarantine cleared cause => exact ⟨r', hr', ⟨rfl, rfl, rfl⟩⟩
  | inspect => exact ⟨r', hr', ⟨rfl, rfl, rfl⟩⟩
  | effect effect id => exact ⟨r', hr', ⟨rfl, rfl, rfl⟩⟩
  | countFree id => exact ⟨r', hr', ⟨rfl, rfl, rfl⟩⟩
  | countQuarantined id => exact ⟨r', hr', ⟨rfl, rfl, rfl⟩⟩
  | addToSummary free quarantined => exact ⟨r', hr', ⟨rfl, rfl, rfl⟩⟩

def StartupRequest.setsMarks : StartupRequest → Bool
  | .markStartupQuarantine => true
  | .markSeatStartupQuarantine _ _ => true
  | .clearSeatStartupQuarantine _ _ => true
  | _ => false

theorem sameMarks_perform {request : StartupRequest} (answer : StartupAnswer)
    (h : request.setsMarks = false) :
    SameMarks w.ledger (w.perform request answer).2.ledger := by
  cases request with
  | write id write => exact (w.ledger.onRecord_write id write answer.write).marks
  | removeResolved id => exact (w.ledger.onRecord_removeResolved id answer.remove).marks
  | removeRecordExact id expected =>
    simp only [StartupWorld.perform, StartupWorld.onLedger]
    rcases removeRecordExact_cases w.ledger id expected answer.remove with heq | heq
    · rw [heq]
      exact .refl _
    · rw [heq]
      exact (w.ledger.onRecord_removeResolved id answer.remove).marks
  | persistJournal journal =>
    simp only [StartupWorld.perform, StartupWorld.onLedger]
    rcases w.ledger.persistJournal_cases journal answer.journal with hp | ⟨-, -, -, hp⟩
    · rw [hp]
      exact .refl _
    · rw [hp]
      exact ⟨rfl, rfl, rfl⟩
  | markStartupQuarantine => cases h
  | markSeatStartupQuarantine marked cause => cases h
  | clearSeatStartupQuarantine cleared cause => cases h
  | inspect => exact .refl _
  | effect effect id => exact ⟨rfl, rfl, rfl⟩
  | countFree id => exact .refl _
  | countQuarantined id => exact .refl _
  | addToSummary free quarantined => exact .refl _

theorem seatClosed_perform {request : StartupRequest} (answer : StartupAnswer)
    (hne : ∀ cause, request ≠ .clearSeatStartupQuarantine seat cause)
    (h : w.ledger.seatClosed seat = true) :
    (w.perform request answer).2.ledger.seatClosed seat = true := by
  cases request with
  | markStartupQuarantine => rfl
  | markSeatStartupQuarantine marked cause =>
    simp only [PersistentRecoveryLedger.seatClosed, seatStartupQuarantined,
      Bool.or_eq_true, StartupWorld.perform,
      PersistentRecoveryLedger.markSeatStartupQuarantine, List.contains_iff_mem,
      List.mem_insert_iff] at h ⊢
    tauto
  | clearSeatStartupQuarantine cleared cause =>
    have hother : seat ≠ cleared := fun heq => hne cause (heq ▸ rfl)
    simp only [PersistentRecoveryLedger.seatClosed, seatStartupQuarantined,
      Bool.or_eq_true, StartupWorld.perform,
      PersistentRecoveryLedger.clearSeatStartupQuarantine, List.contains_iff_mem,
      List.mem_filter, decide_eq_true_eq] at h ⊢
    tauto
  | _ => exact seatClosed_of_sameMarks (sameMarks_perform answer rfl) h

theorem guarded_perform {request : StartupRequest} {answer : StartupAnswer}
    (h : Guarded seat todo w) (hok : KeepsSeatClosed seat boot w request answer) :
    Guarded seat todo (w.perform request answer).2 := by
  intro r' hr' hseat
  obtain ⟨r, hr, hsame⟩ := records_perform w request answer r' hr'
  have hold : r.seat = seat := hsame.seat ▸ hseat
  by_cases hclear : ∃ cause, request = .clearSeatStartupQuarantine seat cause
  · -- a record of the seat is left, so the other marks close it
    obtain ⟨cause, rfl⟩ := hclear
    have hother := hok rfl ⟨r, hr, hold⟩
    simp only [Bool.or_eq_true] at hother
    left
    simp only [PersistentRecoveryLedger.seatClosed, Bool.or_eq_true, StartupWorld.perform,
      PersistentRecoveryLedger.clearSeatStartupQuarantine]
    tauto
  · rcases h r hr hold with hclosed | ⟨t, ht, hrt⟩
    · exact Or.inl (seatClosed_perform answer (not_exists.mp hclear) hclosed)
    · exact Or.inr ⟨t, ht, hsame.lifecycleId.trans hrt.lifecycleId, hsame.seat.trans hrt.seat,
        hsame.boot.trans hrt.boot⟩

end Requests

def Gone (id : String) (w : StartupWorld) : Prop := ∀ r ∈ w.ledger.records, r.lifecycleId ≠ id

theorem gone_perform {id : String} {w : StartupWorld} (h : Gone id w) (request : StartupRequest)
    (answer : StartupAnswer) : Gone id (w.perform request answer).2 := by
  intro r' hr' heq
  obtain ⟨r, hr, hsame⟩ := records_perform w request answer r' hr'
  exact h r hr (hsame.lifecycleId.symm.trans heq)

theorem gone_removeResolved {l : PersistentRecoveryLedger} {id : String} {answer : RemoveAnswer}
    (h : (l.removeResolved id answer).1 = true) :
    ∀ r ∈ (l.removeResolved id answer).2.records, r.lifecycleId ≠ id := by
  unfold removeResolved at h ⊢
  cases hget : l.get id with
  | none => simp [hget] at h
  | some r =>
    simp only [hget] at h ⊢
    split at h
    · cases h
    next hstate =>
      rw [if_neg hstate]
      cases answer with
      | notRemoved => cases h
      | notSynced => cases h
      | synced => exact fun r' hr' => (KeyedList.mem_erase.mp hr').2

section Programs
variable {seat boot : String} {todo : List PersistentRecoveryRecord} {w : StartupWorld}
  {t : PersistentRecoveryRecord} {ε α : Type}

/-- The program ends as `post` says, as long as no step opens the seat under a record. -/
abbrev SeatSat (seat boot : String) (p : StartupM α) (w : StartupWorld)
    (post : α → StartupWorld → Prop) : Prop :=
  p.Sat StartupWorld.perform (KeepsSeatClosed seat boot) (fun _ _ => True) w post

abbrev SeatAttempt (seat boot : String) (p : Attempt StartupWorld StartupRequest ε α)
    (w : StartupWorld) (post : α → StartupWorld → Prop) : Prop :=
  p.Sat StartupWorld.perform (KeepsSeatClosed seat boot) (fun _ _ => True) w post

theorem sat_guarded (p : StartupM α) (h : Guarded seat todo w) :
    SeatSat seat boot p w fun _ w' => Guarded seat todo w' :=
  Program.sat_invariant (Guarded seat todo) (fun _ _ _ hw hok => guarded_perform hw hok) p h

theorem sat_gone {id : String} (p : Attempt StartupWorld StartupRequest ε α) (h : Gone id w) :
    SeatAttempt seat boot p w fun _ w' => Gone id w' := by
  have hp : SeatSat seat boot p w fun _ w' => Gone id w' :=
    Program.sat_invariant (Gone id) (fun _ _ _ hw _ => gone_perform hw _ _) p h
  refine Program.Sat.mono hp fun result w' hw => ?_
  cases result with
  | ok a => exact hw
  | error e => trivial

theorem Guarded.drop (h : Guarded seat (t :: todo) w) (hgone : Gone t.lifecycleId w) :
    Guarded seat todo w := by
  intro r hr hseat
  rcases h r hr hseat with hclosed | ⟨t', ht', hsame⟩
  · exact Or.inl hclosed
  · rcases List.mem_cons.mp ht' with rfl | ht'
    · exact absurd hsame.lifecycleId (hgone r hr)
    · exact Or.inr ⟨t', ht', hsame⟩

/-- A record of the current boot that is counted as quarantined needs no more visit. -/
theorem sat_countQuarantined (hboot : t.createdBootId = boot) (h : Guarded seat (t :: todo) w) :
    SeatSat seat boot (.ask (.countQuarantined t.lifecycleId) fun _ _ => .done ()) w
      fun _ w' => Guarded seat todo w' := by
  refine ⟨trivial, fun x hx => ?_⟩
  intro r hr hseat
  rcases h r hr hseat with hclosed | ⟨t', ht', hsame⟩
  · exact Or.inl hclosed
  · rcases List.mem_cons.mp ht' with rfl | ht'
    · exact Or.inl (hx r hr hsame.lifecycleId hseat (hsame.boot.trans hboot))
    · exact Or.inr ⟨t', ht', hsame⟩

theorem sat_quarantineStartupRecord (reason : StartupRecoveryFailure)
    (hboot : t.createdBootId = boot) (h : Guarded seat (t :: todo) w) :
    SeatSat seat boot (quarantineStartupRecord t.lifecycleId reason) w
      fun _ w' => Guarded seat todo w' := by
  refine ⟨trivial, fun x hx => ?_⟩
  beta_reduce
  split
  · exact sat_countQuarantined hboot h
  · refine ⟨trivial, fun x hx => ?_⟩
    have hwrite := guarded_perform h hx
    beta_reduce
    split
    · exact sat_countQuarantined hboot hwrite
    · exact ⟨trivial, fun x hx => sat_countQuarantined hboot (guarded_perform hwrite hx)⟩

section Finalization

theorem sat_resolveForFinalization (snapshot : RecoveryStateSnapshot) :
    SeatAttempt seat boot (resolveForFinalization snapshot) w
      fun resolved _ => resolved.record.lifecycleId = snapshot.record.lifecycleId := by
  unfold resolveForFinalization
  split
  · exact (Attempt.sat_trivial _ _).bind fun _ _ _ => rfl
  · refine Attempt.Sat.require_bind fun _ => sat_readRecord_gives trivial fun current _ => ?_
    refine Attempt.Sat.require_bind fun _ => (Attempt.sat_trivial _ _).bind fun _ _ _ => ?_
    exact (Attempt.sat_trivial _ _).bind fun _ _ _ => sat_newSnapshot

theorem sat_releaseForFinalization (snapshot : RecoveryStateSnapshot) :
    SeatAttempt seat boot (releaseForFinalization snapshot) w
      fun released _ => released.record.lifecycleId = snapshot.record.lifecycleId := by
  unfold releaseForFinalization
  split
  · exact rfl
  · have hintent : SeatAttempt seat boot (persistRecoveryIntentFromSnapshot snapshot .runtimeRelease
        (saturatingAdd snapshot.record.sequence 1)) w
        fun next _ => next.record.lifecycleId = snapshot.record.lifecycleId :=
      Attempt.Sat.require_bind fun _ => (Attempt.sat_trivial _ _).bind fun _ _ _ => sat_newSnapshot
    refine hintent.bind fun next _ hid => (Attempt.sat_trivial _ _).bind fun _ _ _ => ?_
    rw [← hid]
    exact Attempt.Sat.require_bind fun _ => sat_newSnapshot

theorem sat_removeRecordTyped (snapshot : RecoveryStateSnapshot) (file : Nat) :
    SeatAttempt seat boot (removeRecordTyped snapshot file) w
      fun _ w' => Gone snapshot.record.lifecycleId w' := by
  refine sat_readLedger_gives trivial (Attempt.Sat.okOr_bind fun record hget => ?_)
  rw [← lifecycleId_of_get hget]
  refine Attempt.Sat.require_bind fun _ => ?_
  have hremove : SeatAttempt seat boot (.perform (.removeResolved record.lifecycleId) ()) w
      fun _ w' => Gone record.lifecycleId w' :=
    Attempt.sat_perform trivial fun x _ h => gone_removeResolved h
  exact hremove.bind fun _ _ h => h

theorem sat_finalizeStartupRecord_gone (id : String) :
    SeatAttempt seat boot (finalizeStartupRecord id) w fun _ w' => Gone id w' := by
  refine sat_readRecord_gives trivial fun record hget => Attempt.Sat.require_bind fun _ => ?_
  refine Attempt.Sat.okOr_bind fun snapshot hsnapshot => ?_
  have hrecord : snapshot.record.lifecycleId = id := by
    rw [fromRecord_record hsnapshot]
    exact lifecycleId_of_get hget
  refine (sat_resolveForFinalization snapshot).bind fun resolved _ hresolved => ?_
  refine (sat_releaseForFinalization resolved).bind fun released _ hreleased => ?_
  refine (Attempt.sat_trivial _ _).bind fun removal _ _ => ?_
  refine (sat_removeRecordTyped released removal).bind fun receipt _ hgone => ?_
  rw [hreleased, hresolved, hrecord] at hgone
  exact sat_gone _ hgone

theorem sat_finalizeOrQuarantine (hboot : t.createdBootId = boot)
    (h : Guarded seat (t :: todo) w) :
    SeatSat seat boot (finalizeOrQuarantine t.lifecycleId) w
      fun _ w' => Guarded seat todo w' := by
  refine Program.Sat.bind ((sat_guarded (finalizeStartupRecord t.lifecycleId) h).and
    (sat_finalizeStartupRecord_gone t.lifecycleId)) fun result w' hw => ?_
  cases result with
  | error e => exact sat_quarantineStartupRecord .unsupportedRehydration hboot hw.1
  | ok a => exact ⟨trivial, fun _ _ => hw.1.drop hw.2⟩

/-- The loop body for a record of the current boot: the record goes, or is counted. -/
theorem sat_reconcileSameBootEntry (host : SameBootHost) (blocked conflicted : Bool)
    (hboot : t.createdBootId = boot) (h : Guarded seat (t :: todo) w) :
    SeatSat seat boot (reconcileSameBootEntry host boot blocked conflicted t) w
      fun _ w' => Guarded seat todo w' := by
  unfold reconcileSameBootEntry
  split
  · exact ⟨trivial, fun x hx => sat_countQuarantined hboot (guarded_perform h hx)⟩
  · split
    · exact sat_quarantineStartupRecord _ hboot h
    · split
      · exact sat_finalizeOrQuarantine hboot h
      · split
        · exact sat_quarantineStartupRecord _ hboot h
        · split
          · exact sat_countQuarantined hboot h
          · refine Program.Sat.bind (sat_guarded (reconcileSameBootRecord host ⟨t, boot⟩) h)
              fun result w' hw => ?_
            cases result with
            | ok a => exact sat_finalizeOrQuarantine hboot hw
            | error e => exact sat_quarantineStartupRecord e hboot hw

end Finalization

section Reconcile
variable (host : StartupHost)

/-- The seat of a record of an earlier boot is closed as soon as it is visited. -/
theorem Guarded.mark (h : Guarded seat (t :: todo) w) (x : StartupAnswer) :
    Guarded seat todo (w.perform (.markSeatStartupQuarantine t.seat (.record t.lifecycleId)) x).2 :=
      by
  intro r hr hseat
  rcases h r hr hseat with hclosed | ⟨t', ht', hsame⟩
  · exact Or.inl (seatClosed_perform x nofun hclosed)
  · rcases List.mem_cons.mp ht' with rfl | ht'
    · left
      rw [← hseat, hsame.seat]
      simp [PersistentRecoveryLedger.seatClosed, seatStartupQuarantined, StartupWorld.perform,
        PersistentRecoveryLedger.markSeatStartupQuarantine]
    · exact Or.inr ⟨t', ht', hsame⟩

theorem sat_reconcilePreviousBootEntry (host : PreviousBootHost) (currentBoot : String)
    (recordSet : RecoveryRecordSetClassification) (h : Guarded seat (t :: todo) w) :
    SeatSat seat boot (reconcilePreviousBootEntry host currentBoot recordSet t) w
      fun _ w' => Guarded seat todo w' := by
  unfold reconcilePreviousBootEntry
  split
  · exact ⟨trivial, fun x _ => sat_guarded _ (h.mark x)⟩
  · exact ⟨trivial, fun _ _ => ⟨trivial, fun x _ => sat_guarded _ (h.mark x)⟩⟩

theorem sat_reconcileEntries (ctx : StartupContext) (hboot : ctx.currentBoot = boot)
    (records : List PersistentRecoveryRecord) (h : Guarded seat records w) :
    SeatSat seat boot (reconcileEntries host ctx records) w fun _ w' => Guarded seat [] w' := by
  induction records generalizing w with
  | nil => exact h
  | cons record rest ih =>
    have hentry : SeatSat seat boot (reconcileEntry host ctx record) w
        fun _ w' => Guarded seat rest w' := by
      unfold reconcileEntry
      split
      next hsame =>
        rw [hboot] at hsame ⊢
        exact sat_reconcileSameBootEntry _ _ _ hsame h
      next => exact sat_reconcilePreviousBootEntry _ _ _ h
    exact hentry.bind fun _ _ hw => ih hw

theorem sat_quarantineStartup (records : List PersistentRecoveryRecord) :
    SeatSat seat boot (quarantineStartup records) w fun _ w' => Guarded seat [] w' :=
  ⟨trivial, fun _ _ => ⟨trivial, fun _ _ _ _ _ => Or.inl rfl⟩⟩

theorem sat_reconcileRecordSet (blockedSeats : List String)
    (recordSet : RecoveryRecordSetClassification) (records : List PersistentRecoveryRecord)
    (h : Guarded seat records w) :
    SeatSat seat boot (reconcileRecordSet host boot blockedSeats recordSet records) w
      fun _ w' => Guarded seat [] w' := by
  unfold reconcileRecordSet
  split
  · exact sat_quarantineStartup records
  · exact (sat_reconcileEntries host ⟨boot, blockedSeats,
      conflicts (records.filter (·.createdBootId = boot)), recordSet⟩ rfl records h).bind
      fun _ _ hw => sat_guarded resumeAndCount hw

/-- After the reconciliation every record of the seat that is left closes the seat. -/
theorem sat_reconcile :
    SeatSat seat host.currentBoot (reconcile host) w fun _ w' => Guarded seat [] w' := by
  refine ⟨trivial, fun _ _ => ?_⟩
  have hall : Guarded seat w.ledger.records w := fun r hr _ => Or.inr ⟨r, hr, ⟨rfl, rfl, rfl⟩⟩
  show SeatSat seat host.currentBoot
    (reconcileRecords host w.ledger.recordSet w.ledger.records) w _
  unfold reconcileRecords
  split
  · exact sat_quarantineStartup _
  next current hcurrent =>
    have hsame : current = host.currentBoot := by
      rw [StartupHost.currentBoot, (Option.filter_eq_some_iff.mp hcurrent).1, Option.getD_some]
    subst hsame
    split
    · exact sat_quarantineStartup _
    · split
      · exact sat_reconcileRecordSet host _ _ _ hall
      · exact (sat_guarded (markSeats _) hall).bind
          fun _ _ hw => sat_reconcileRecordSet host _ _ _ hw
      · exact sat_quarantineStartup _

end Reconcile

end Programs

section Supervisor
open SupervisorWorld
variable {w w' : SupervisorWorld} {a : SupervisorAction}

theorem Stepped.keeps_ended (h : Stepped w a w') (hphase : w.loop.admission.phase = .free)
    (hended : w.loop.admission.lifecycle.ended = true) :
    w'.loop.admission = w.loop.admission := by
  have hreserved : ∀ lease, w.loop.admission.matchesReserved lease = true → False :=
    fun lease hm => Seated.phase_of_matchesReserved hm hphase
  have hpending : ∀ lease, w.loop.admission.matchesPending lease = true → False :=
    fun lease hm => Seated.phase_of_matchesPending hm hphase
  cases h with
  | quiet => rfl
  | reserved id vt created leases hreservable =>
    rw [hreservable.lifecycle] at hended
    cases hended
  | cancelled a lease removed leases hm => exact (hreserved lease hm).elim
  | launched lease worker removed leases transactions hm => exact (hreserved lease hm).elim
  | recorded workerId workerPid nonce a loop hrec =>
    cases hrec with
    | same => rfl
    | prepared => rfl
    | unrecorded => rfl
    | refused slot e stage reason =>
      rcases Seated.quarantinePending_cases w.loop.admission workerId stage reason with
        ⟨⟨attemptId, generation, hp⟩, -⟩ | hc
      · rw [hphase] at hp
        cases hp
      · exact hc
  | moved a loop hmoved => cases hmoved <;> rfl
  | aborted t lease expectedClean exitStatus a loop ht hlease hm => exact (hpending lease hm).elim
  | registered r lease a loop ht hlease hid hm => exact (hpending lease hm).elim
  | touched a loop htouched => cases htouched <;> rfl
  | exited exit slot loop hslot hp hlifecycle =>
    rw [hlifecycle] at hended
    cases hended

theorem reserveSeat_of_ended {s : SupervisorLoopState} (h : s.admission.lifecycle.ended = true)
    (id : String) (vt : Option PreviousVtIdentity) (created : Option PreCommitRuntimeBinding) :
    s.reserveSeat id vt created = (.error .sessionSeatUnavailable, s) := by
  have hbusy : s.admission.isFree = false := by
    cases hl : s.admission.lifecycle with
    | free =>
      rw [hl] at h
      cases h
    | active id => simp [SeatAdmissionController.isFree, hl]
    | recovering id phase reason => simp [SeatAdmissionController.isFree, hl]
    | quarantined id stage reason => simp [SeatAdmissionController.isFree, hl]
  simp [SupervisorLoopState.reserveSeat, hbusy]

theorem lifecycle_new_of_closed {l : PersistentRecoveryLedger} (h : l.seatClosed "seat0" = true)
    (processId : Nat) (store : Option PreCommitRuntimeMarks) :
    (SupervisorLoopState.new processId (some l) store).admission.lifecycle.ended = true := by
  unfold PersistentRecoveryLedger.seatClosed at h
  simp [SupervisorLoopState.new, SeatAdmissionController.new, h, SeatLifecycle.ended]

/-- A closed seat stays refused in every later run of the supervisor. -/
theorem reserveSeat_of_closed {l : PersistentRecoveryLedger} (hclosed : l.seatClosed "seat0" = true)
    (processId : Nat) (store : Option PreCommitRuntimeMarks) (actions : List SupervisorAction)
    (hrun : StepsMeet SupervisorWorld.step SupervisorWorld.Admits
      (.new processId (some l) store) actions)
    (id : String) (vt : Option PreviousVtIdentity) (created : Option PreCommitRuntimeBinding) :
    ∃ e, ((actions.foldl SupervisorWorld.step (.new processId (some l) store)).loop.reserveSeat id
      vt created).1 = .error e := by
  have hinv := foldl_invariant (fun w => Placed w ∧ w.loop.admission.phase = .free ∧
      w.loop.admission.lifecycle.ended = true) (fun w a hw ha => ?_) actions
    (.new processId (some l) store)
    ⟨.new _ _ _, rfl, lifecycle_new_of_closed hclosed processId store⟩ hrun
  · rw [reserveSeat_of_ended hinv.2.2]
    exact ⟨_, rfl⟩
  · obtain ⟨hplaced, hphase, hended⟩ := hw
    obtain ⟨⟨lost, hseated⟩, hunique⟩ := hplaced
    have hkept := (stepped_step hseated ha).keeps_ended hphase hended
    refine ⟨.step ⟨⟨lost, hseated⟩, hunique⟩ ha, ?_, ?_⟩
    · rw [hkept, hphase]
    · rw [hkept, hended]

end Supervisor

/-- In every startup whose steps give up no record of the seat without closing the seat, a record
of the seat that is left keeps every later run of the supervisor from reserving it. -/
theorem surviving_record_closes_seat (directory : PersistentRecoveryLedger)
    (bootId : Option String) (host : StartupHost) (answers : Nat → StartupAnswer)
    (h : (reconcile host).RunMeets StartupWorld.perform
      (KeepsSeatClosed "seat0" host.currentBoot) answers
      { ledger := directory.openDirectory bootId } 0)
    (r : PersistentRecoveryRecord)
    (hr : r ∈ (startup directory bootId host answers).ledger.records) (hseat : r.seat = "seat0")
    (processId : Nat) (store : Option PreCommitRuntimeMarks) (actions : List SupervisorAction)
    (hrun : StepsMeet SupervisorWorld.step SupervisorWorld.Admits
      (.new processId (some (startup directory bootId host answers).ledger) store) actions)
    (id : String) (vt : Option PreviousVtIdentity) (created : Option PreCommitRuntimeBinding) :
    ∃ e, ((actions.foldl SupervisorWorld.step (.new processId
      (some (startup directory bootId host answers).ledger) store)).loop.reserveSeat id vt
      created).1 = .error e := by
  have hclosed : (startup directory bootId host answers).ledger.seatClosed "seat0" = true := by
    have hguarded := (sat_reconcile host).run h
    rcases hguarded r hr hseat with hclosed | ⟨t, ht, -⟩
    · exact hclosed
    · cases ht
  exact reserveSeat_of_closed hclosed processId store actions hrun id vt created

section SurvivingRecord

/-- A record of the current boot that an earlier start quarantined. -/
def quarantinedRecord : PersistentRecoveryRecord :=
  { emptyScopeRecord .notStarted 3 with
    state := "quarantined", quarantineReason := some "unknown_payload_scope" }

def quarantinedDirectory : PersistentRecoveryLedger :=
  { files := [⟨1, quarantinedRecord⟩] }

def quietHost (inventory : UnknownScopeInventory) : StartupHost where
  bootId := some "boot-1"
  inventory := some inventory
  sameBoot := fun _ => emptyScopeHost
  previousBoot := fun _ =>
    ⟨none, ⟨none, none⟩, ⟨none, none⟩, ⟨none, none⟩, ⟨none, none⟩, ⟨none, none⟩⟩

def synced (_ : Nat) : StartupAnswer := { write := { bootId := some "boot-1" } }

theorem quarantinedRecord_readsBack : readsBack ⟨1, quarantinedRecord⟩ = true := by
  have hread : ReadableRecord quarantinedRecord :=
    readable_of_untouched rfl rfl (by decide) (by decide) (by decide)
  have hvalid : validateRecord quarantinedRecord = true := by decide
  simp [readsBack, hvalid, (validateHistoricalRecord_eq_nil _).mpr hread]

theorem quarantinedDirectory_opened : quarantinedDirectory.openDirectory (some "boot-1") =
    { quarantinedDirectory with
      records := [quarantinedRecord]
      recordSet := classifyRecoveryRecordSet [quarantinedRecord] false "boot-1" } :=
  openDirectory_of_readsBack rfl quarantinedRecord_readsBack rfl rfl (by decide)

/-- An unknown scope on the seat closes it before the record is visited. -/
theorem unknownScope_keeps_seat_closed :
    ∃ e, (([].foldl SupervisorWorld.step (.new 1 (some (startup quarantinedDirectory
      (some "boot-1") (quietHost (.knownSeats ["seat0"])) synced).ledger) none)).loop.reserveSeat
        "worker-2" (some ⟨1⟩) none).1 = .error e := by
  refine surviving_record_closes_seat quarantinedDirectory (some "boot-1")
    (quietHost (.knownSeats ["seat0"])) synced ?_ quarantinedRecord ?_ rfl 1 none [] trivial
    "worker-2" (some ⟨1⟩) none
  · rw [quarantinedDirectory_opened]
    exact ⟨trivial, trivial, trivial, fun _ _ _ _ _ => rfl, trivial, trivial, trivial⟩
  · simp only [startup, quarantinedDirectory_opened]
    exact List.mem_singleton.mpr rfl

/-- Startup leaves the quarantined record in the ledger, and the seat can be reserved. -/
theorem quarantinedRecord_seat_open :
    quarantinedRecord ∈ (startup quarantinedDirectory (some "boot-1") (quietHost .none)
      synced).ledger.records ∧
    ∃ lease, ((SupervisorWorld.new 1 (some (startup quarantinedDirectory (some "boot-1")
      (quietHost .none) synced).ledger) none).loop.reserveSeat "worker-2" (some ⟨1⟩) none).1 =
        .ok lease := by
  simp only [startup, quarantinedDirectory_opened]
  exact ⟨List.mem_singleton.mpr rfl, _, rfl⟩

end SurvivingRecord

end Niralis
