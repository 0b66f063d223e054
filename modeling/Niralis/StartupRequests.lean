import Niralis.PreviousBootRequests
import Niralis.SameBootRecovery

namespace Niralis
open PersistentRecoveryLedger

/-- The request reads, or updates this record, or acts on its session. -/
def UpdatesRecord (id : String) : StartupRequest → Prop
  | .inspect => True
  | .write id' _ => id' = id
  | .effect _ id' => id' = id
  | _ => False

section SameBoot
variable {id : String} {w : StartupWorld} {ε β : Type} {host : SameBootHost}
  {snapshot : RecoveryStateSnapshot} {record : PersistentRecoveryRecord}

/-- The program updates no other record, and success ends as `post` says. -/
abbrev UpdateSat (id : String) (p : Attempt StartupWorld StartupRequest ε β) (w : StartupWorld)
    (post : β → StartupWorld → Prop) : Prop :=
  p.Sat StartupWorld.perform (fun _ _ _ => True) (fun _ request => UpdatesRecord id request) w post

theorem update_persist {id' : String} (h : id' = id) (write : RecordWrite) (e : ε) :
    UpdateSat id (persist id' write e) w fun _ _ => True :=
  Attempt.sat_perform h fun _ _ _ => trivial

theorem update_issue {id' : String} (h : id' = id) (effect : ExternalEffect) :
    UpdateSat (ε := ε) id (issue effect id') w fun _ _ => True :=
  ⟨h, fun _ _ => trivial⟩

theorem update_require (c : Bool) (e : ε) :
    UpdateSat id (.require c e) w fun _ _ => True :=
  (Attempt.sat_require c e w).mono fun _ _ _ => trivial

theorem update_check (r : Except ε β) : UpdateSat id (.check r) w fun _ _ => True :=
  (Attempt.sat_check r w).mono fun _ _ _ => trivial

theorem update_newSnapshot (currentBoot : String) :
    UpdateSat id (do
        let record ← readRecord id ()
        Attempt.okOr (RecoveryStateSnapshot.fromRecord currentBoot record) ()) w
      fun next _ => next.record.lifecycleId = id := by
  refine sat_readRecord_gives trivial fun record hget => ?_
  refine (Attempt.sat_okOr _ _ _).mono fun next _ h => ?_
  rw [fromRecord_record h.2]
  exact lifecycleId_of_get hget

theorem update_refresh (h : snapshot.record.lifecycleId = id) :
    UpdateSat id (refreshRecoverySnapshot snapshot) w
      fun next _ => next.record.lifecycleId = id := by
  subst h
  exact Attempt.Sat.require_bind fun _ => update_newSnapshot _

theorem update_persistIntent (h : snapshot.record.lifecycleId = id) (op : DurableOperation)
    (attempt : Nat) : UpdateSat id (persistRecoveryIntentFromSnapshot snapshot op attempt) w
      fun next _ => next.record.lifecycleId = id := by
  subst h
  refine Attempt.Sat.require_bind fun _ => (update_persist rfl _ _).bind fun _ w' _ => ?_
  exact update_newSnapshot _

section Worker

theorem update_confirmRuntimeRelease (h : record.lifecycleId = id) (attempt : Nat) :
    UpdateSat id (confirmRuntimeRelease record attempt) w fun _ _ => True := update_persist h _ _

theorem update_forceWorkerExit (h : record.lifecycleId = id) (attempt : Nat) :
    UpdateSat id (forceWorkerExit record host attempt) w fun _ _ => True := by
  unfold forceWorkerExit
  split
  · exact update_confirmRuntimeRelease h attempt
  · exact Attempt.Sat.require_bind fun _ => update_confirmRuntimeRelease h attempt
  · exact Attempt.sat_fail _ _ _
  · exact Attempt.sat_fail _ _ _

theorem update_signalWorker (h : record.lifecycleId = id) (attempt : Nat) :
    UpdateSat id (signalWorker record host attempt) w fun _ _ => True := by
  unfold signalWorker
  split
  · exact update_confirmRuntimeRelease h attempt
  · exact (update_persist h _ _).bind fun _ _ _ => update_forceWorkerExit h attempt

theorem update_settleWorker (h : record.lifecycleId = id) :
    UpdateSat id (settleWorker record host) w fun _ _ => True := by
  unfold settleWorker
  split
  · unfold recoverValidatedRuntimeRelease
    split
    · exact (update_persist h _ _).bind fun _ _ _ => update_signalWorker h _
    · exact update_signalWorker h _
    · exact update_forceWorkerExit h _
    · exact Attempt.sat_fail _ _ _
    · exact Attempt.sat_fail _ _ _
  · trivial
  · exact Attempt.sat_fail _ _ _
  · exact Attempt.sat_fail _ _ _

end Worker

section Payload
variable {pin : RecoveryPinnedInvocationUnit}

theorem update_requestRecoveryEmergencyKill (h : snapshot.record.lifecycleId = id) :
    UpdateSat id (requestRecoveryEmergencyKill host pin snapshot) w fun _ _ => True := by
  refine Attempt.Sat.require_bind fun _ => ?_
  split
  · exact Attempt.sat_fail _ _ _
  · trivial
  · refine (update_issue h _).bind fun _ _ _ => (update_check _).bind fun _ _ _ => ?_
    exact update_require _ _

theorem update_killPayload (h : snapshot.record.lifecycleId = id) :
    UpdateSat id (killPayload host snapshot pin) w
      fun result _ => result.1.record.lifecycleId = id := by
  refine Attempt.Sat.require_bind fun _ => Attempt.Sat.require_bind fun _ => ?_
  refine (update_persistIntent h _ _).mapErr.bind fun next w₁ hnext => ?_
  refine Attempt.Sat.okOr_bind fun bound _ => ?_
  refine (update_requestRecoveryEmergencyKill hnext).bind fun _ w₂ _ => ?_
  refine Attempt.Sat.require_bind fun _ => Attempt.Sat.check_bind fun _ _ => ?_
  refine (update_persist hnext _ _).bind fun _ w₃ _ => ?_
  refine (update_refresh hnext).mapErr.bind fun fresh w₄ hfresh => ?_
  exact Attempt.Sat.okOr_bind fun rebound _ => hfresh

theorem update_reconcilePayload (h : snapshot.record.lifecycleId = id) :
    UpdateSat id (reconcilePayload host snapshot pin) w
      fun result _ => result.1.record.lifecycleId = id := by
  refine Attempt.Sat.okOr_bind fun populated _ => ?_
  have hempty : UpdateSat id (emptyPayloadBoundary host snapshot pin populated) w
      fun result _ => result.1.record.lifecycleId = id := by
    unfold emptyPayloadBoundary
    split
    · exact update_killPayload h
    · exact h
  refine hempty.bind fun (emptied, pin') w₁ hemptied => ?_
  refine Attempt.Sat.require_bind fun _ => Attempt.Sat.require_bind fun _ => ?_
  have hproof : UpdateSat id (startupBoundaryProof host emptied pin') w₁ fun _ _ => True :=
    Attempt.Sat.check_bind fun _ _ => Attempt.Sat.require_bind fun _ => trivial
  exact hproof.bind fun _ _ _ => hemptied

theorem update_releaseRecovery {proof : AuthorizedRecoveryBoundaryProof}
    (h : snapshot.record.lifecycleId = id) :
    UpdateSat id (releaseRecovery host pin snapshot proof) w fun _ _ => True := by
  refine Attempt.Sat.require_bind fun _ => Attempt.Sat.require_bind fun _ => ?_
  split
  · exact Attempt.sat_fail _ _ _
  · exact (update_issue h _).bind fun _ _ _ => update_check _

theorem update_releasePin {proof : RecoveryBoundaryEmptyProof}
    (h : snapshot.record.lifecycleId = id) :
    UpdateSat id (releasePin host snapshot pin proof) w
      fun result _ => result.1.record.lifecycleId = id := by
  have hunref : UpdateSat id (persistRecoveryUnrefIntent snapshot proof
      (saturatingAdd snapshot.record.sequence 1)) w
      fun result _ => result.1.record.lifecycleId = id := by
    refine Attempt.Sat.require_bind fun _ => (update_persistIntent h _ _).bind fun next _ hnext => ?_
    exact hnext
  refine hunref.mapErr.bind fun (next, authorized) w₁ hnext => ?_
  refine Attempt.Sat.okOr_bind fun bound _ => ?_
  refine (update_releaseRecovery hnext).bind fun _ w₂ _ => ?_
  refine (update_persist hnext _ _).bind fun _ w₃ _ => ?_
  exact (update_refresh hnext).mapErr.bind fun fresh w₄ hfresh => hfresh

end Payload

section VirtualTerminal

theorem update_recoverVt {id' : String} (h : id' = id) (attempt : Nat) :
    UpdateSat id (recoverVt host id' attempt) w fun _ _ => True := by
  unfold recoverVt
  split
  · exact Attempt.sat_fail _ _ _
  · refine (update_issue h _).bind fun _ w₁ _ => ?_
    split
    · exact Attempt.sat_fail _ _ _
    · exact update_persist h _ _
    · refine (update_persist h _ _).bind fun _ w₂ _ => (update_persist h _ _).bind fun _ w₃ _ => ?_
      exact Attempt.sat_fail _ _ _
    · exact Attempt.sat_fail _ _ _

theorem update_reconcileStartupVt (h : snapshot.record.lifecycleId = id)
    (proof : AuthorizedRecoveryBoundaryProof) :
    UpdateSat id (reconcileStartupVt host snapshot proof) w fun _ _ => True := by
  refine Attempt.Sat.okOr_bind fun vt _ => ?_
  split
  · trivial
  · exact Attempt.sat_fail _ _ _
  · exact Attempt.sat_fail _ _ _
  · exact Attempt.sat_fail _ _ _
  · refine Attempt.Sat.require_bind fun _ => Attempt.Sat.require_bind fun _ => ?_
    refine (update_persistIntent h _ _).mapErr.bind fun next w₁ hnext => ?_
    exact Attempt.Sat.require_bind fun _ => update_recoverVt hnext _

end VirtualTerminal

section Logind

theorem update_removeLogindSession (h : snapshot.record.lifecycleId = id) (exists_ : Bool) :
    UpdateSat id (removeLogindSession host snapshot exists_) w
      fun next _ => next.record.lifecycleId = id := by
  unfold removeLogindSession
  split
  · refine Attempt.Sat.require_bind fun _ => Attempt.Sat.okOr_bind fun session _ => ?_
    refine Attempt.Sat.require_bind fun _ => Attempt.Sat.require_bind fun _ => ?_
    refine Attempt.Sat.require_bind fun _ => ?_
    refine (update_persistIntent h _ _).mapErr.bind fun next w₁ hnext => ?_
    refine Attempt.Sat.require_bind fun _ => ?_
    have hterminate : UpdateSat id (terminateSession host next.record.lifecycleId) w₁
        fun _ _ => True := by
      unfold terminateSession
      split
      · exact Attempt.sat_fail _ _ _
      · refine (update_issue hnext _).bind fun _ _ _ => (update_check _).bind fun _ _ _ => ?_
        exact update_require _ _
    refine hterminate.bind fun _ w₂ _ => Attempt.Sat.require_bind fun _ => ?_
    exact (update_persist hnext _ _).bind fun _ w₃ _ => (update_refresh hnext).mapErr
  · exact h

theorem update_reconcileLogindAndVt (h : snapshot.record.lifecycleId = id)
    (proof : AuthorizedRecoveryBoundaryProof) :
    UpdateSat id (reconcileLogindAndVt host snapshot proof) w fun _ _ => True := by
  refine Attempt.Sat.require_bind fun _ => Attempt.Sat.require_bind fun _ => ?_
  refine Attempt.Sat.okOr_bind fun sessionExists _ => ?_
  refine (update_removeLogindSession h sessionExists).bind fun next w₁ hnext => ?_
  exact Attempt.Sat.require_bind fun _ => update_reconcileStartupVt hnext proof

theorem update_confirmDefaultTtyContext (h : record.lifecycleId = id) :
    UpdateSat id (confirmDefaultTtyContext host record) w fun _ _ => True := by
  unfold confirmDefaultTtyContext
  split
  · refine (update_persist h _ _).bind fun _ w₁ _ => Attempt.Sat.require_bind fun _ => ?_
    exact update_persist h _ _
  · trivial
  · exact Attempt.sat_fail _ _ _
  · exact Attempt.sat_fail _ _ _
  · exact Attempt.sat_fail _ _ _

theorem update_recoverAbsentBoundaryVt (h : record.lifecycleId = id)
    (state : StartupVtRecoveryState) :
    UpdateSat id (recoverAbsentBoundaryVt host record state) w fun _ _ => True := by
  cases state with
  | recovered => exact update_confirmDefaultTtyContext h
  | needsRecovery =>
    refine Attempt.Sat.okOr_bind fun boot _ => Attempt.Sat.require_bind fun _ => ?_
    refine Attempt.Sat.okOr_bind fun snapshot hsnapshot => ?_
    refine update_reconcileStartupVt ?_ _
    rw [fromRecord_record hsnapshot, h]

theorem update_confirmAbsentBoundaryLogindAndVt (h : record.lifecycleId = id) :
    UpdateSat id (confirmAbsentBoundaryLogindAndVt host record) w fun _ _ => True := by
  refine Attempt.Sat.require_bind fun _ => Attempt.Sat.require_bind fun _ => ?_
  refine Attempt.Sat.okOr_bind fun sessionExists _ => Attempt.Sat.require_bind fun _ => ?_
  refine Attempt.Sat.require_bind fun _ => Attempt.Sat.okOr_bind fun vt _ => ?_
  refine Attempt.Sat.require_bind fun _ => Attempt.Sat.okOr_bind fun state _ => ?_
  refine (update_recoverAbsentBoundaryVt h state).bind fun _ w₁ _ => ?_
  exact update_require _ _

end Logind

/-- The recovery of a session of the current boot updates no record but its own. -/
theorem update_reconcileSameBootRecord (h : snapshot.record.lifecycleId = id) :
    UpdateSat id (reconcileSameBootRecord host snapshot) w fun _ _ => True := by
  refine Attempt.Sat.require_bind fun _ => (update_settleWorker h).bind fun _ w₁ _ => ?_
  refine Attempt.Sat.require_bind fun _ => Attempt.Sat.check_bind fun identity _ => ?_
  refine Attempt.Sat.require_bind fun _ => ?_
  split
  · refine (update_reconcilePayload h).bind fun (emptied, pin, proof) w₂ hemptied => ?_
    refine (update_releasePin hemptied).bind fun (released, authorized) w₃ hreleased => ?_
    exact update_reconcileLogindAndVt hreleased authorized
  · have habsent : UpdateSat id (proveStartupAbsentBoundary snapshot.record identity host) w₁
        fun _ _ => True := Attempt.Sat.require_bind fun _ => update_check _
    exact habsent.bind fun _ w₂ _ => update_confirmAbsentBoundaryLogindAndVt h
  · exact Attempt.sat_fail _ _ _
  · exact Attempt.sat_fail _ _ _
  · exact Attempt.sat_fail _ _ _

end SameBoot

/-- The entry is this record's, on a seat of its own. -/
structure EntryFor (id : String) (own : String → Prop) (e : HistoricalFinalizationEntry) :
    Prop where
  recordId : e.recordId = id
  seat : own e.seat

/-- Beside its own entry the journal has the kept ones. -/
def EntriesFor (id : String) (own : String → Prop) (kept : HistoricalFinalizationEntry → Prop)
    (journal : HistoricalFinalizationJournal) : Prop :=
  ∀ e ∈ journal.entries, kept e ∨ EntryFor id own e

/-- The request reads, or is about this record, its journal entry or its own mark. -/
def FinalizesRecord (id : String) (own : String → Prop)
    (kept : HistoricalFinalizationEntry → Prop) : StartupRequest → Prop
  | .inspect => True
  | .write id' _ => id' = id
  | .removeRecordExact id' _ => id' = id
  | .persistJournal journal => EntriesFor id own kept journal
  | .clearSeatStartupQuarantine seat cause => own seat ∧ cause = .record id
  | _ => False

section PreviousBoot
variable {id : String} {own : String → Prop} {kept : HistoricalFinalizationEntry → Prop}
  {w : StartupWorld} {β : Type} {host : PreviousBootHost} {a : PreviousBootFinalizationAuthority}
  {journal : HistoricalFinalizationJournal} {entry : HistoricalFinalizationEntry}

abbrev FinalizeSat (id : String) (own : String → Prop) (kept : HistoricalFinalizationEntry → Prop)
    (p : PreviousBootM β) (w : StartupWorld) (post : β → StartupWorld → Prop) : Prop :=
  p.Sat StartupWorld.perform (fun _ _ _ => True)
    (fun _ request => FinalizesRecord id own kept request) w post

/-- The authority is for this record, on a seat of its own. -/
structure AuthorityFor (id : String) (own : String → Prop) (a : PreviousBootFinalizationAuthority) :
    Prop where
  recordId : a.recordId = id
  seat : own a.seat

theorem mem_upsertEntry {e : HistoricalFinalizationEntry} {es : List HistoricalFinalizationEntry}
    (h : e ∈ HistoricalFinalizationJournal.upsertEntry entry es) : e = entry ∨ e ∈ es := by
  induction es with
  | nil => exact Or.inl (List.mem_singleton.mp h)
  | cons current rest ih =>
    unfold HistoricalFinalizationJournal.upsertEntry at h
    split at h
    · rcases List.mem_cons.mp h with heq | hrest
      · exact Or.inl heq
      · exact Or.inr (List.mem_cons_of_mem _ hrest)
    · rcases List.mem_cons.mp h with heq | hrest
      · exact Or.inr (heq ▸ List.mem_cons_self ..)
      · exact (ih hrest).imp id (List.mem_cons_of_mem _)

theorem EntryFor.follow (h : EntryFor id own entry) (a : PreviousBootFinalizationAuthority)
    (stage : HistoricalFinalizationStage) : EntryFor id own (entry.follow a stage) :=
  ⟨h.recordId, h.seat⟩

theorem EntriesFor.upsert (h : EntriesFor id own kept journal) (hentry : EntryFor id own entry) :
    EntriesFor id own kept (journal.upsert entry) := by
  intro e he
  rcases mem_upsertEntry he with rfl | he
  · exact Or.inr hentry
  · exact h e he

theorem finalize_persistEntry (h : EntriesFor id own kept journal)
    (hentry : EntryFor id own entry) :
    FinalizeSat id own kept (persistEntry journal entry) w
      fun stored _ => EntriesFor id own kept stored := by
  have hstore : FinalizeSat id own kept (.perform (.persistJournal (journal.upsert entry)) .io) w
      fun _ _ => True := Attempt.sat_perform (h.upsert hentry) fun _ _ _ => trivial
  exact hstore.bind fun _ _ _ => h.upsert hentry

theorem finalize_commitAdvance (h : AuthorityFor id own a) (write : RecordWrite) :
    FinalizeSat id own kept (commitAdvance a write) w fun a' _ => AuthorityFor id own a' := by
  have hwrite : FinalizeSat id own kept (persist a.recordId write .io) w fun _ _ => True :=
    Attempt.sat_perform h.recordId fun _ _ _ => trivial
  exact hwrite.bind fun _ w' _ => sat_currentRecord_bind trivial fun _ _ _ =>
    ⟨h.recordId, h.seat⟩

theorem finalize_advanceRuntimeRelease (h : AuthorityFor id own a)
    (state : DurableOperationState) :
    FinalizeSat id own kept (advanceRuntimeRelease a state) w
      fun a' _ => AuthorityFor id own a' :=
  sat_currentRecord_bind trivial fun _ _ _ => Attempt.Sat.require_bind fun _ =>
    finalize_commitAdvance h _

theorem finalize_advanceRecordResolved (h : AuthorityFor id own a) :
    FinalizeSat id own kept (advanceRecordResolved a) w fun a' _ => AuthorityFor id own a' :=
  sat_currentRecord_bind trivial fun _ _ _ => Attempt.Sat.require_bind fun _ =>
    Attempt.Sat.check_bind fun _ _ => finalize_commitAdvance h _

theorem finalize_reachResolutionIntent {current : PersistentRecoveryRecord}
    (h : AuthorityFor id own a) :
    FinalizeSat id own kept (reachResolutionIntent host a current) w
      fun a' _ => AuthorityFor id own a' := by
  unfold reachResolutionIntent
  split
  · exact h
  · refine sat_guardCurrentBoot_bind trivial (sat_currentRecord_bind trivial fun _ _ _ => ?_)
    exact Attempt.Sat.require_bind fun _ => Attempt.Sat.okOr_bind fun _ _ =>
      finalize_commitAdvance h _

theorem finalize_reachRecordResolved (h : AuthorityFor id own a) :
    FinalizeSat id own kept (reachRecordResolved host a) w
      fun a' _ => AuthorityFor id own a' := by
  refine sat_readRecord_gives trivial fun current _ => ?_
  split
  · exact h
  · exact sat_guardCurrentBoot_bind trivial (finalize_advanceRecordResolved h)

theorem finalize_runtimeReleaseIntent {current : PersistentRecoveryRecord}
    (h : AuthorityFor id own a) (hjournal : EntriesFor id own kept journal)
    (hentry : EntryFor id own entry) :
    FinalizeSat id own kept (runtimeReleaseIntent a journal entry current) w
      fun result _ => AuthorityFor id own result.1 ∧ EntriesFor id own kept result.2.2 := by
  unfold runtimeReleaseIntent
  split
  · refine Attempt.Sat.okOr_bind fun attempt _ => ?_
    refine (finalize_advanceRuntimeRelease h _).bind fun next w₁ hnext => ?_
    refine (finalize_persistEntry hjournal (hentry.follow _ _)).bind
      fun journal₂ w₂ hjournal₂ => ?_
    refine sat_readRecord_gives trivial fun record _ => ?_
    split
    · exact ⟨hnext, hjournal₂⟩
    · exact Attempt.sat_fail _ _ _
  · exact ⟨h, hjournal⟩
  · exact ⟨h, hjournal⟩
  · exact Attempt.sat_fail _ _ _
  · exact Attempt.sat_fail _ _ _

theorem finalize_runtimeReleaseConfirmed (h : AuthorityFor id own a) (attempt : Nat) :
    FinalizeSat id own kept (runtimeReleaseConfirmed a attempt) w
      fun a' _ => AuthorityFor id own a' := by
  refine sat_readRecord_gives trivial fun record _ => ?_
  split
  · exact h
  · exact finalize_advanceRuntimeRelease h _

theorem finalize_removeAndPublish (h : AuthorityFor id own a)
    (hjournal : EntriesFor id own kept journal) (hentry : EntryFor id own entry) :
    FinalizeSat id own kept (removeAndPublish host a journal entry) w fun _ _ => True := by
  have hremove : ∀ w, FinalizeSat id own kept (.perform (.removeRecordExact a.recordId a.file) .io)
      w fun _ _ => True := fun w => Attempt.sat_perform h.recordId fun _ _ _ => trivial
  have hclear : ∀ w, FinalizeSat id own kept
      (.perform (.clearSeatStartupQuarantine a.seat (.record a.recordId)) .io) w fun _ _ => True :=
    fun w => Attempt.sat_perform ⟨h.seat, congrArg _ h.recordId⟩ fun _ _ _ => trivial
  have hstage : ∀ stage, EntryFor id own { entry.follow a .runtimeReleaseConfirmed with stage } :=
    fun _ => ⟨hentry.recordId, hentry.seat⟩
  refine (finalize_persistEntry hjournal (hstage _)).bind fun _ w₁ h₁ => ?_
  refine (finalize_persistEntry h₁ (hstage _)).bind fun _ w₂ h₂ => ?_
  refine sat_guardCurrentBoot_bind trivial ((hremove w₂).bind fun _ w₃ _ => ?_)
  refine (finalize_persistEntry h₂ (hstage _)).bind fun _ w₄ h₄ => ?_
  refine (hclear w₄).bind fun _ w₅ _ => ?_
  exact (finalize_persistEntry h₄ (hstage _)).bind fun _ _ _ => trivial

theorem finalize_authorityForRuntime (h : AuthorityFor id own a)
    (hjournal : EntriesFor id own kept journal) (hentry : EntryFor id own entry) :
    FinalizeSat id own kept (authorityForRuntime host a journal entry) w fun _ _ => True := by
  refine sat_readRecord_gives trivial fun current _ => ?_
  refine (finalize_runtimeReleaseIntent h hjournal hentry).bind
    fun (intent, attempt, journal₁) w₁ ⟨hintent, hjournal₁⟩ => ?_
  refine sat_guardCurrentBoot_bind trivial ?_
  refine (finalize_runtimeReleaseConfirmed hintent attempt).bind fun confirmed w₂ hconfirmed => ?_
  exact finalize_removeAndPublish hconfirmed hjournal₁ hentry

theorem finalize_openEntry (hjournal : EntriesFor id own kept journal)
    (hentry : EntryFor id own entry) (existing : Option HistoricalFinalizationStage) :
    FinalizeSat id own kept (openEntry journal entry existing) w
      fun result _ => EntriesFor id own kept result.1 ∧ EntryFor id own result.2 := by
  unfold openEntry
  split
  · refine (finalize_persistEntry hjournal hentry).bind fun journal₁ w₁ h₁ => ?_
    have hintent : EntryFor id own { entry with stage := .resolutionIntent } :=
      ⟨hentry.recordId, hentry.seat⟩
    exact (finalize_persistEntry h₁ hintent).bind fun journal₂ w₂ h₂ => ⟨h₂, hintent⟩
  · exact ⟨hjournal, hentry⟩

/-- The finalization of a record of an earlier boot updates and removes no record but its own, and
lifts the mark of no seat but the record's. -/
theorem finalize_executePreviousBootPlan {record : PersistentRecoveryRecord} {boot : String}
    {facts : PreviousBootCurrentFacts} {plan : PreviousBootRecoveryPlan}
    (hseat : ∀ r, w.ledger.get record.lifecycleId = some r → own r.seat)
    (hjournal : ∀ journal, w.ledger.loadJournal = some journal → ∀ e ∈ journal.entries, kept e) :
    FinalizeSat record.lifecycleId own kept (executePreviousBootPlan host record boot facts plan) w
      fun _ _ => True := by
  unfold executePreviousBootPlan
  split
  · trivial
  · refine sat_readLedger_gives trivial (Attempt.Sat.okOr_bind fun file _ => ?_)
    refine sat_revalidate_bind trivial fun a r hid hr hget _ => ?_
    have ha : AuthorityFor record.lifecycleId own a := ⟨hid, hr ▸ hseat r hget⟩
    refine sat_readLedger_gives trivial (Attempt.Sat.okOr_bind fun journal hload => ?_)
    have hentries : EntriesFor record.lifecycleId own kept journal :=
      fun e he => Or.inl (hjournal journal hload e he)
    refine Attempt.Sat.check_bind fun _ _ => sat_readRecord_gives trivial fun current _ => ?_
    have hentry : ∀ stage notReplayed, EntryFor record.lifecycleId own ⟨a.recordId, a.recordId,
        a.seat, boot, a.sequence, stage, notReplayed, some a.file⟩ :=
      fun _ _ => ⟨ha.recordId, ha.seat⟩
    dsimp only
    split
    · refine (finalize_openEntry hentries (hentry _ _) _).bind
        fun (journal₁, entry₁) w₁ ⟨h₁, hentry₁⟩ => ?_
      refine (finalize_reachResolutionIntent ha).bind fun a₂ w₂ ha₂ => ?_
      refine (finalize_persistEntry h₁ (hentry₁.follow _ _)).bind fun _ w₃ h₃ => ?_
      refine (finalize_reachRecordResolved ha₂).bind fun a₄ w₄ ha₄ => ?_
      refine (finalize_persistEntry h₃ (hentry₁.follow _ _)).bind fun _ w₅ h₅ => ?_
      exact finalize_authorityForRuntime ha₄ h₅ ((hentry₁.follow _ _).follow _ _)
    · refine sat_readRecord_gives trivial fun record' _ => ?_
      split
      · exact (finalize_advanceRecordResolved ha).bind fun a' w' ha' =>
          finalize_authorityForRuntime ha' hentries (hentry _ _)
      · exact finalize_authorityForRuntime ha hentries (hentry _ _)

end PreviousBoot

/-- Records may be read, resolved, released and removed. -/
structure AllowsFinalization (allowed : StartupRequest → Prop) : Prop where
  inspect : allowed .inspect
  operation : ∀ id op s, op = .runtimeRelease ∨ op = .recordResolution →
    allowed (.write id (.operation op s))
  resolve : ∀ id, allowed (.write id (.transition "record_resolved"))
  remove : ∀ id, allowed (.removeResolved id)

section Finalization
variable {allowed : StartupRequest → Prop} {ε : Type}

theorem asks_ledger (h : AllowsFinalization allowed) :
    (readLedger : Attempt StartupWorld StartupRequest ε PersistentRecoveryLedger).Asks allowed :=
  ⟨h.inspect, fun _ _ => trivial⟩

theorem asks_record (h : AllowsFinalization allowed) (id : String) (e : ε) :
    (readRecord id e : Attempt StartupWorld StartupRequest ε _).Asks allowed :=
  Attempt.Asks.bind (asks_ledger h) fun _ => Attempt.asks_okOr _ _

theorem asks_newSnapshot (h : AllowsFinalization allowed) (id boot : String) :
    (do
      let record ← readRecord id ()
      Attempt.okOr (RecoveryStateSnapshot.fromRecord boot record) () : IoResult _).Asks allowed :=
  Attempt.Asks.bind (asks_record h _ _) fun _ => Attempt.asks_okOr _ _

theorem asks_finalizationCapabilities (h : AllowsFinalization allowed)
    (snapshot : RecoveryStateSnapshot) : (finalizationCapabilities snapshot).Asks allowed :=
  Attempt.Asks.bind (asks_ledger h) fun _ => Attempt.asks_okOr _ _

theorem asks_markRecordResolvedTyped (h : AllowsFinalization allowed)
    (snapshot : RecoveryStateSnapshot) : (markRecordResolvedTyped snapshot).Asks allowed := by
  have hwrite : ∀ id s, (persist id (.operation .recordResolution s) () : IoResult Unit).Asks
      allowed := fun id s => Attempt.asks_perform (h.operation id _ s (Or.inr rfl)) _
  refine Attempt.Asks.bind (Attempt.asks_require _ _) fun _ => ?_
  refine Attempt.Asks.bind (asks_record h _ _) fun current => ?_
  refine Attempt.Asks.bind (Attempt.asks_require _ _) fun _ => ?_
  have hconfirm : (confirmRecordResolution snapshot.record.lifecycleId
      (saturatingAdd snapshot.record.sequence 1) current.operationLedger.recordResolution).Asks
        allowed := by
    cases current.operationLedger.recordResolution with
    | notStarted => exact Attempt.Asks.bind (hwrite _ _) fun _ => hwrite _ _
    | confirmed a => exact Attempt.asks_pure _
    | intentPersisted a => exact Attempt.asks_fail _
    | indeterminate a stage => exact Attempt.asks_fail _
    | failed a c => exact Attempt.asks_fail _
  refine Attempt.Asks.bind hconfirm fun _ => ?_
  exact Attempt.Asks.bind (Attempt.asks_perform (h.resolve _) _) fun _ => asks_newSnapshot h _ _

theorem asks_resolveForFinalization (h : AllowsFinalization allowed)
    (snapshot : RecoveryStateSnapshot) : (resolveForFinalization snapshot).Asks allowed := by
  unfold resolveForFinalization
  split
  · exact Attempt.Asks.bind (asks_finalizationCapabilities h _) fun _ => Attempt.asks_pure _
  · exact asks_markRecordResolvedTyped h snapshot

theorem asks_releaseForFinalization (h : AllowsFinalization allowed)
    (snapshot : RecoveryStateSnapshot) : (releaseForFinalization snapshot).Asks allowed := by
  have hwrite : ∀ id s, (persist id (.operation .runtimeRelease s) () : IoResult Unit).Asks
      allowed := fun id s => Attempt.asks_perform (h.operation id _ s (Or.inl rfl)) _
  unfold releaseForFinalization
  split
  · exact Attempt.asks_pure _
  · refine Attempt.Asks.bind (Attempt.Asks.bind (Attempt.asks_require _ _) fun _ =>
      Attempt.Asks.bind (hwrite _ _) fun _ => asks_newSnapshot h _ _) fun next => ?_
    refine Attempt.Asks.bind (hwrite _ _) fun _ => ?_
    exact Attempt.Asks.bind (Attempt.asks_require _ _) fun _ => asks_newSnapshot h _ _

theorem asks_removeRecordTyped (h : AllowsFinalization allowed) (snapshot : RecoveryStateSnapshot)
    (file : Nat) : (removeRecordTyped snapshot file).Asks allowed :=
  Attempt.Asks.bind (asks_ledger h) fun _ => Attempt.Asks.bind (Attempt.asks_okOr _ _) fun _ =>
    Attempt.Asks.bind (Attempt.asks_require _ _) fun _ =>
      Attempt.Asks.bind (Attempt.asks_perform (h.remove _) _) fun _ => Attempt.asks_pure _

/-- A finalization is a resolution, a release, a removal and a permit. -/
theorem asks_finalizeStartupRecord (h : AllowsFinalization allowed) (id : String) :
    (finalizeStartupRecord id).Asks allowed := by
  refine Attempt.Asks.bind (asks_record h _ _) fun record => ?_
  refine Attempt.Asks.bind (Attempt.asks_require _ _) fun _ => ?_
  refine Attempt.Asks.bind (Attempt.asks_okOr _ _) fun snapshot => ?_
  refine Attempt.Asks.bind (asks_resolveForFinalization h snapshot) fun resolved => ?_
  refine Attempt.Asks.bind (asks_releaseForFinalization h resolved) fun released => ?_
  refine Attempt.Asks.bind (asks_finalizationCapabilities h released) fun removal => ?_
  refine Attempt.Asks.bind (asks_removeRecordTyped h released removal) fun receipt => ?_
  exact Attempt.Asks.bind (asks_ledger h) fun _ => Attempt.asks_require _ _

end Finalization

end Niralis
