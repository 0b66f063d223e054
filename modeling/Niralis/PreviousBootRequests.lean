import Niralis.PreviousBootRecovery

namespace Niralis

structure AllowsUpdates (allowed : StartupRequest → Prop) : Prop where
  inspect : allowed .inspect
  write : ∀ id write, allowed (.write id write)

section Requests
variable {allowed : StartupRequest → Prop}

theorem asks_readLedger (h : AllowsUpdates allowed) :
    (readLedger : PreviousBootM PersistentRecoveryLedger).Asks allowed :=
  ⟨h.inspect, fun _ _ => trivial⟩

theorem asks_readRecord (h : AllowsUpdates allowed) (id : String) (e : PreviousBootFinalizationError) :
    (readRecord id e : PreviousBootM PersistentRecoveryRecord).Asks allowed :=
  (asks_readLedger h).bind fun _ => Attempt.asks_okOr _ _

theorem asks_currentRecord (h : AllowsUpdates allowed) (id : String) : (currentRecord id).Asks allowed :=
  (asks_readLedger h).bind fun _ => (Attempt.asks_okOr _ _).bind fun _ =>
    (Attempt.asks_okOr _ _).bind fun _ => Attempt.asks_pure _

theorem asks_guardCurrentBoot (h : AllowsUpdates allowed) (view : PreviousBootView)
    (a : PreviousBootFinalizationAuthority) : (guardCurrentBoot view a).Asks allowed :=
  (Attempt.asks_okOr _ _).bind fun _ => (asks_currentRecord h _).bind fun _ =>
    (Attempt.asks_require _ _).bind fun _ => (Attempt.asks_require _ _).bind fun _ =>
      (Attempt.asks_require _ _).bind fun _ => (Attempt.asks_okOr _ _).bind fun _ =>
        Attempt.asks_require _ _

theorem asks_commitAdvance (h : AllowsUpdates allowed) (a : PreviousBootFinalizationAuthority)
    (write : RecordWrite) : (commitAdvance a write).Asks allowed :=
  (Attempt.asks_perform (h.write _ _) _).bind fun _ => (asks_currentRecord h _).bind fun _ =>
    Attempt.asks_pure _

theorem asks_advanceRuntimeRelease (h : AllowsUpdates allowed) (a : PreviousBootFinalizationAuthority)
    (state : DurableOperationState) : (advanceRuntimeRelease a state).Asks allowed :=
  (asks_currentRecord h _).bind fun _ => (Attempt.asks_require _ _).bind fun _ =>
    asks_commitAdvance h _ _

theorem asks_runtimeReleaseConfirmed (h : AllowsUpdates allowed)
    (a : PreviousBootFinalizationAuthority) (attempt : Nat) : (runtimeReleaseConfirmed a attempt).Asks allowed := by
  refine (asks_readRecord h _ _).bind fun record => ?_
  split
  · exact Attempt.asks_pure _
  · exact asks_advanceRuntimeRelease h _ _

theorem asks_reachResolutionIntent (h : AllowsUpdates allowed) (host : PreviousBootHost)
    (a : PreviousBootFinalizationAuthority) (current : PersistentRecoveryRecord) :
    (reachResolutionIntent host a current).Asks allowed := by
  unfold reachResolutionIntent
  split
  · exact Attempt.asks_pure _
  · refine (asks_guardCurrentBoot h _ _).bind fun _ => (asks_currentRecord h _).bind fun _ => ?_
    exact (Attempt.asks_require _ _).bind fun _ => (Attempt.asks_okOr _ _).bind fun _ =>
      asks_commitAdvance h _ _

theorem asks_advanceRecordResolved (h : AllowsUpdates allowed) (a : PreviousBootFinalizationAuthority) :
    (advanceRecordResolved a).Asks allowed :=
  (asks_currentRecord h _).bind fun _ => (Attempt.asks_require _ _).bind fun _ =>
    (Attempt.asks_check _).bind fun _ => asks_commitAdvance h _ _

theorem asks_reachRecordResolved (h : AllowsUpdates allowed) (host : PreviousBootHost)
    (a : PreviousBootFinalizationAuthority) : (reachRecordResolved host a).Asks allowed := by
  refine (asks_readRecord h _ _).bind fun record => ?_
  split
  · exact Attempt.asks_pure _
  · exact (asks_guardCurrentBoot h _ _).bind fun _ => asks_advanceRecordResolved h _

theorem asks_revalidate (h : AllowsUpdates allowed) (view : PreviousBootView)
    (original : PersistentRecoveryRecord) (boot : String) (facts : PreviousBootCurrentFacts) (plan : PreviousBootRecoveryPlan)
    (file : Nat) : (revalidate view original boot facts plan file).Asks allowed :=
  (Attempt.asks_require _ _).bind fun _ => (asks_currentRecord h _).bind fun _ =>
    (Attempt.asks_require _ _).bind fun _ => (Attempt.asks_require _ _).bind fun _ =>
      (Attempt.asks_require _ _).bind fun _ => (Attempt.asks_okOr _ _).bind fun _ =>
        (Attempt.asks_require _ _).bind fun _ => Attempt.asks_pure _

end Requests

section Reads
variable {allows : StartupWorld → StartupRequest → StartupAnswer → Prop}
  {good : StartupWorld → StartupRequest → Prop} {w : StartupWorld} {β : Type}
  {post : β → StartupWorld → Prop}

theorem sat_currentRecord_bind (h : good w .inspect) {id : String}
    {f : PersistentRecoveryRecord × Nat → PreviousBootM β}
    (hf : ∀ record file, w.ledger.get id = some record →
      (f (record, file)).Sat StartupWorld.perform allows good w post) :
    (currentRecord id >>= f).Sat StartupWorld.perform allows good w post := by
  have hread : (currentRecord id).Sat StartupWorld.perform allows good w
      fun found w' => w' = w ∧ w.ledger.get id = some found.1 := by
    refine ⟨h, fun _ _ => Attempt.Sat.okOr_bind fun record hrecord => ?_⟩
    exact Attempt.Sat.okOr_bind fun inode _ => ⟨rfl, hrecord⟩
  exact hread.bind fun found _ hr => hr.1 ▸ hf found.1 found.2 hr.2

theorem sat_guardCurrentBoot_bind (h : good w .inspect) {view : PreviousBootView}
    {a : PreviousBootFinalizationAuthority} {f : Unit → PreviousBootM β}
    (hf : (f ()).Sat StartupWorld.perform allows good w post) :
    (guardCurrentBoot view a >>= f).Sat StartupWorld.perform allows good w post := by
  have hguard : (guardCurrentBoot view a).Sat StartupWorld.perform allows good w
      fun _ w' => w' = w := by
    refine Attempt.Sat.okOr_bind fun boot _ => sat_currentRecord_bind h fun record file _ => ?_
    refine Attempt.Sat.require_bind fun _ => Attempt.Sat.require_bind fun _ => ?_
    refine Attempt.Sat.require_bind fun _ => Attempt.Sat.okOr_bind fun facts _ => ?_
    exact (Attempt.sat_require _ _ _).mono fun _ _ hw => hw.1
  exact hguard.bind fun _ _ hw => hw ▸ hf

/-- The authority is for the record in memory, and the plan is what these facts give for it. -/
theorem sat_revalidate_bind (h : good w .inspect) {view : PreviousBootView}
    {original : PersistentRecoveryRecord} {boot : String} {facts : PreviousBootCurrentFacts}
    {plan : PreviousBootRecoveryPlan} {file : Nat}
    {f : PreviousBootFinalizationAuthority → PreviousBootM β}
    (hf : ∀ a r, a.recordId = original.lifecycleId → a.seat = r.seat →
      w.ledger.get original.lifecycleId = some r → plan = planPreviousBootReconciliation r facts →
      (f a).Sat StartupWorld.perform allows good w post) :
    (revalidate view original boot facts plan file >>= f).Sat StartupWorld.perform allows good w
      post := by
  have hrevalidate : (revalidate view original boot facts plan file).Sat StartupWorld.perform allows
      good w fun a w' => w' = w ∧ a.recordId = original.lifecycleId ∧
        ∃ r, a.seat = r.seat ∧ w.ledger.get original.lifecycleId = some r ∧
          plan = planPreviousBootReconciliation r facts := by
    refine Attempt.Sat.require_bind fun _ => sat_currentRecord_bind h fun r file' hget => ?_
    refine Attempt.Sat.require_bind fun _ => Attempt.Sat.require_bind fun _ => ?_
    refine Attempt.Sat.require_bind fun _ => Attempt.Sat.okOr_bind fun fresh _ => ?_
    refine Attempt.Sat.require_bind fun hsame => ?_
    obtain ⟨-, rfl, hplan, -⟩ := of_decide_eq_true hsame
    exact ⟨rfl, PersistentRecoveryLedger.lifecycleId_of_get hget, r, rfl, hget, hplan⟩
  refine hrevalidate.bind fun a w' ⟨hw, hid, r, hseat, hget, hplan⟩ => ?_
  subst hw
  exact hf a r hid hseat hget hplan

end Reads

end Niralis
