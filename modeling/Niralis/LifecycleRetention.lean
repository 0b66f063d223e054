import Niralis.SeatFreedom

namespace Niralis
open SupervisorLoopState SupervisorWorld

def SupervisorLoopState.records (s : SupervisorLoopState) : List SupervisorSessionRecoveryRecord :=
  s.pending.map (·.record) ++ s.children.map (·.record) ++ s.quarantined

/-- The worker's lifecycle is finished, or the record is kept under its identity. -/
def Kept (s : SupervisorLoopState) (a : AcceptedWorker) : Prop :=
  a.lifecycleId ∈ s.history.finished ∨ ∃ r ∈ s.records,
    r.lifecycleId = a.lifecycleId ∧ r.workerPid = a.workerPid ∧
      ∀ p, (a.lifecycleId, p) ∈ s.history.payloads → r.payloadIdentity = some p

/-- No handler gives up an entry it took out of a table, or the payload it got for it. -/
def KeepsLifecycle (w : SupervisorWorld) : SupervisorAction → Prop
  | .reserveSeat id previousVt _ => Reservable w.loop id previousVt → id ∉ w.loop.history.admitted
  | .recordPreparedScope workerId workerPid nonce a =>
    ∀ slot vt payload, Slot.first (fun e : PendingWorkerLifecycle =>
        e.record.lifecycleId = workerId && e.record.workerPid = workerPid) w.loop.pending =
          some slot →
      scopeRefused slot.entry nonce = false → slot.entry.record.state = .workerSpawned vt →
      a.preparePayload = .ok payload →
      (createIn w.loop.ledger (.prepared workerId workerPid slot.entry.record.launcherPid vt
        payload a.bootId) a.create).1 = true
  | .abortPending t expectedClean exitStatus a =>
    ∀ lease slot, t.pendingLease = some lease → w.loop.admission.matchesPending lease = true →
      Slot.first (fun e : PendingWorkerLifecycle => e.record.lifecycleId = lease.lifecycleId)
        w.loop.pending = some slot →
      exitStatus.or a.reap ≠ none ∧
      (expectedCleanupVerified slot.entry expectedClean a = true →
        ¬removalRefused lease.precommitRuntime a.removed) ∧
      (expectedCleanupVerified slot.entry expectedClean a = false →
        slot.entry.record.payloadIdentity.isSome = true →
        recoverFromPayload a.emergency = .recovered →
        (resolveIn (transitionIn w.loop.ledger lease.lifecycleId "emergency_recovery_started"
          a.started).2 lease.lifecycleId a.resolve).1 = true)
  | .registerRunning r a =>
    ∀ lease slot payload nonce, r.transaction.pendingLease = some lease →
      w.loop.admission.matchesPending lease = true →
      r.transaction.lifecycleId = r.workerId →
      Slot.first (registrable r) w.loop.pending = some slot →
      slot.entry.record.state = .payloadRegistered payload nonce → registrationAgrees r payload →
      (transitionIn w.loop.ledger r.workerId "started" a.started).1 = true ∧
      (lease.precommitRuntime.isSome = true →
        (∃ binding, a.handoff = .ok binding) ∧ a.removedCommitted = true)
  | _ => True

/-- One record for each lifecycle, and none that was not accepted. -/
structure Retained (s : SupervisorLoopState) : Prop where
  unique : (s.records.map (·.lifecycleId)).Nodup
  known : ∀ r ∈ s.records, ∃ a ∈ s.history.accepted, a.lifecycleId = r.lifecycleId
  admitted : ∀ a ∈ s.history.accepted, a.lifecycleId ∈ s.history.admitted
  payloads : ∀ q ∈ s.history.payloads, ∃ a ∈ s.history.accepted, a.lifecycleId = q.1
  reserved : ∀ attemptId id generation, s.admission.phase = .reserved attemptId id generation →
    id ∈ s.history.admitted ∧ ∀ a ∈ s.history.accepted, a.lifecycleId ≠ id
  kept : ∀ a ∈ s.history.accepted, Kept s a

section Tables
variable {s s' : SupervisorLoopState} {rest : List SupervisorSessionRecoveryRecord}

theorem records_of_pending {l : List PendingWorkerLifecycle} {e : PendingWorkerLifecycle}
    (h : s.pending.Perm (e :: l)) :
    s.records.Perm (e.record :: (l.map (·.record) ++ s.children.map (·.record) ++ s.quarantined)) :=
  ((h.map _).append_right _).append_right _

theorem records_of_children {l : List SupervisedWorker} {worker : SupervisedWorker}
    (h : s.children.Perm (worker :: l)) :
    s.records.Perm
      (worker.record :: (s.pending.map (·.record) ++ l.map (·.record) ++ s.quarantined)) := by
  refine (((h.map _).append_left _).append_right _).trans ?_
  rw [List.map_cons, List.append_assoc, List.cons_append, List.append_assoc]
  exact List.perm_middle

theorem records_quarantined (r : SupervisorSessionRecoveryRecord)
    (h : s'.quarantined = s.quarantined ++ [r]) (hpending : s'.pending = s.pending)
    (hchildren : s'.children = s.children) : s'.records.Perm (r :: s.records) := by
  unfold SupervisorLoopState.records
  rw [h, hpending, hchildren, ← List.append_assoc]
  exact List.perm_append_singleton r _

end Tables

namespace Retained
variable {s s' : SupervisorLoopState} {r r' : SupervisorSessionRecoveryRecord}
  {rest : List SupervisorSessionRecoveryRecord}

theorem eq_of_lifecycleId (h : Retained s) (hperm : s.records.Perm (r :: rest)) (hr' : r' ∈ s.records)
    (hid : r'.lifecycleId = r.lifecycleId) : r' = r := by
  rcases List.mem_cons.mp (hperm.mem_iff.mp hr') with heq | hmem
  · exact heq
  · have hnodup := (hperm.map (·.lifecycleId)).nodup_iff.mp h.unique
    exact absurd (List.mem_map.mpr ⟨r', hmem, hid⟩) (List.nodup_cons.mp hnodup).1

theorem replace (h : Retained s) (hperm : s.records.Perm (r :: rest))
    (hperm' : s'.records.Perm (r' :: rest)) (hsame : SameIdentity r r')
    (hhistory : s'.history = s.history)
    (hphase : ∀ attemptId id generation, s'.admission.phase = .reserved attemptId id generation →
      s.admission.phase = .reserved attemptId id generation) : Retained s' := by
  constructor
  · refine (hperm'.map (·.lifecycleId)).nodup_iff.mpr ?_
    rw [List.map_cons, hsame.lifecycleId]
    exact (hperm.map (·.lifecycleId)).nodup_iff.mp h.unique
  · intro x hx
    rw [hhistory]
    rcases List.mem_cons.mp (hperm'.mem_iff.mp hx) with rfl | hmem
    · rw [hsame.lifecycleId]
      exact h.known r (hperm.mem_iff.mpr List.mem_cons_self)
    · exact h.known x (hperm.mem_iff.mpr (List.mem_cons_of_mem r hmem))
  · rw [hhistory]
    exact h.admitted
  · rw [hhistory]
    exact h.payloads
  · intro attemptId id generation hp
    rw [hhistory]
    exact h.reserved attemptId id generation (hphase attemptId id generation hp)
  · intro a ha
    rw [hhistory] at ha
    unfold Kept
    rw [hhistory]
    rcases h.kept a ha with hfinished | ⟨x, hx, hid, hpid, hpayload⟩
    · exact Or.inl hfinished
    · refine Or.inr ?_
      rcases List.mem_cons.mp (hperm.mem_iff.mp hx) with rfl | hmem
      · refine ⟨r', hperm'.mem_iff.mpr List.mem_cons_self, hsame.lifecycleId.trans hid,
          hsame.workerPid.trans hpid, fun p hp => ?_⟩
        rw [hsame.payload]
        exact hpayload p hp
      · exact ⟨x, hperm'.mem_iff.mpr (List.mem_cons_of_mem r' hmem), hid, hpid, hpayload⟩

theorem unchanged (h : Retained s) (hrecords : s'.records = s.records)
    (haccepted : s'.history.accepted = s.history.accepted)
    (hpayloads : s'.history.payloads = s.history.payloads)
    (hfinished : s'.history.finished = s.history.finished)
    (hadmitted : ∀ id ∈ s.history.admitted, id ∈ s'.history.admitted)
    (hreserved : ∀ attemptId id generation,
      s'.admission.phase = .reserved attemptId id generation →
      id ∈ s'.history.admitted ∧ ∀ a ∈ s.history.accepted, a.lifecycleId ≠ id) :
    Retained s' where
  unique := hrecords ▸ h.unique
  known := by
    rw [hrecords, haccepted]
    exact h.known
  admitted := by
    rw [haccepted]
    exact fun a ha => hadmitted _ (h.admitted a ha)
  payloads := by
    rw [hpayloads, haccepted]
    exact h.payloads
  reserved := by
    rw [haccepted]
    exact hreserved
  kept := by
    rw [haccepted]
    unfold Kept
    rw [hrecords, hpayloads, hfinished]
    exact h.kept

theorem finish (h : Retained s) (hperm : s.records.Perm (r :: rest))
    (hperm' : s'.records.Perm rest)
    (hhistory : s'.history = { s.history with
      finished := r.lifecycleId :: s.history.finished })
    (hphase : ∀ attemptId id generation,
      s'.admission.phase ≠ .reserved attemptId id generation) : Retained s' := by
  constructor
  · refine (hperm'.map (·.lifecycleId)).nodup_iff.mpr ?_
    have hnodup := (hperm.map (·.lifecycleId)).nodup_iff.mp h.unique
    exact (List.nodup_cons.mp hnodup).2
  · intro x hx
    rw [hhistory]
    exact h.known x (hperm.mem_iff.mpr (List.mem_cons_of_mem r (hperm'.mem_iff.mp hx)))
  · rw [hhistory]
    exact h.admitted
  · rw [hhistory]
    exact h.payloads
  · exact fun attemptId id generation hp => absurd hp (hphase attemptId id generation)
  · intro a ha
    rw [hhistory] at ha
    unfold Kept
    rw [hhistory]
    rcases h.kept a ha with hfinished | ⟨x, hx, hid, hpid, hpayload⟩
    · exact Or.inl (List.mem_cons_of_mem _ hfinished)
    · rcases List.mem_cons.mp (hperm.mem_iff.mp hx) with rfl | hmem
      · exact Or.inl (hid ▸ List.mem_cons_self)
      · exact Or.inr ⟨x, hperm'.mem_iff.mpr hmem, hid, hpid, hpayload⟩

theorem prepare {p : PayloadScopeIdentity} (h : Retained s) (hperm : s.records.Perm (r :: rest))
    (hperm' : s'.records.Perm (r' :: rest)) (hid : r'.lifecycleId = r.lifecycleId)
    (hpid : r'.workerPid = r.workerPid) (hold : r.payloadIdentity = none)
    (hnew : r'.payloadIdentity = some p)
    (hhistory : s'.history = { s.history with
      payloads := (r.lifecycleId, p) :: s.history.payloads })
    (hphase : s'.admission.phase = s.admission.phase) : Retained s' := by
  have hr : r ∈ s.records := hperm.mem_iff.mpr List.mem_cons_self
  constructor
  · refine (hperm'.map (·.lifecycleId)).nodup_iff.mpr ?_
    rw [List.map_cons, hid]
    exact (hperm.map (·.lifecycleId)).nodup_iff.mp h.unique
  · intro x hx
    rw [hhistory]
    rcases List.mem_cons.mp (hperm'.mem_iff.mp hx) with rfl | hmem
    · rw [hid]
      exact h.known r hr
    · exact h.known x (hperm.mem_iff.mpr (List.mem_cons_of_mem r hmem))
  · rw [hhistory]
    exact h.admitted
  · intro q hq
    rw [hhistory] at hq ⊢
    rcases List.mem_cons.mp hq with rfl | hq
    · exact h.known r hr
    · exact h.payloads q hq
  · rw [hphase, hhistory]
    exact h.reserved
  · intro a ha
    rw [hhistory] at ha
    unfold Kept
    rw [hhistory]
    rcases h.kept a ha with hfinished | ⟨x, hx, hxid, hxpid, hpayload⟩
    · exact Or.inl hfinished
    · refine Or.inr ?_
      by_cases hsame : a.lifecycleId = r.lifecycleId
      · -- the record was this one; it had no payload, so this is its first
        have hxr := h.eq_of_lifecycleId hperm hx (hxid.trans hsame)
        subst hxr
        refine ⟨r', hperm'.mem_iff.mpr List.mem_cons_self, hid.trans hxid, hpid.trans hxpid,
          fun p' hp' => ?_⟩
        rcases List.mem_cons.mp hp' with heq | hp'
        · rw [(Prod.mk.inj heq).2]
          exact hnew
        · rw [hpayload p' hp'] at hold
          cases hold
      · rcases List.mem_cons.mp (hperm.mem_iff.mp hx) with rfl | hmem
        · exact absurd hxid.symm hsame
        · refine ⟨x, hperm'.mem_iff.mpr (List.mem_cons_of_mem r' hmem), hxid, hxpid,
            fun p' hp' => ?_⟩
          rcases List.mem_cons.mp hp' with heq | hp'
          · exact absurd (Prod.mk.inj heq).1 hsame
          · exact hpayload p' hp'

/-- A lifecycle that was not accepted before enters the pending table. -/
theorem launch {a : AcceptedWorker} (h : Retained s) (hperm : s'.records.Perm (r :: s.records))
    (hid : r.lifecycleId = a.lifecycleId) (hpid : r.workerPid = a.workerPid)
    (hadmitted : a.lifecycleId ∈ s.history.admitted)
    (hfresh : ∀ b ∈ s.history.accepted, b.lifecycleId ≠ a.lifecycleId)
    (hhistory : s'.history = { s.history with accepted := a :: s.history.accepted })
    (hphase : ∀ attemptId id generation,
      s'.admission.phase ≠ .reserved attemptId id generation) : Retained s' := by
  have hnone : ∀ p, (a.lifecycleId, p) ∉ s.history.payloads := by
    intro p hp
    obtain ⟨b, hb, hbid⟩ := h.payloads _ hp
    exact hfresh b hb hbid
  constructor
  · refine (hperm.map (·.lifecycleId)).nodup_iff.mpr (List.nodup_cons.mpr ⟨fun hmem => ?_, h.unique⟩)
    obtain ⟨x, hx, hxid⟩ := List.mem_map.mp hmem
    obtain ⟨b, hb, hbid⟩ := h.known x hx
    exact hfresh b hb (hbid.trans (hxid.trans hid))
  · intro x hx
    rw [hhistory]
    rcases List.mem_cons.mp (hperm.mem_iff.mp hx) with rfl | hmem
    · exact ⟨a, List.mem_cons_self, hid.symm⟩
    · obtain ⟨b, hb, hbid⟩ := h.known x hmem
      exact ⟨b, List.mem_cons_of_mem a hb, hbid⟩
  · intro b hb
    rw [hhistory] at hb ⊢
    rcases List.mem_cons.mp hb with rfl | hb
    · exact hadmitted
    · exact h.admitted b hb
  · intro q hq
    rw [hhistory] at hq ⊢
    obtain ⟨b, hb, hbid⟩ := h.payloads q hq
    exact ⟨b, List.mem_cons_of_mem a hb, hbid⟩
  · exact fun attemptId id generation hp => absurd hp (hphase attemptId id generation)
  · intro b hb
    rw [hhistory] at hb
    unfold Kept
    rw [hhistory]
    rcases List.mem_cons.mp hb with rfl | hb
    · exact Or.inr ⟨r, hperm.mem_iff.mpr List.mem_cons_self, hid, hpid,
        fun p hp => absurd hp (hnone p)⟩
    · rcases h.kept b hb with hfinished | ⟨x, hx, hxid, hxpid, hpayload⟩
      · exact Or.inl hfinished
      · exact Or.inr ⟨x, hperm.mem_iff.mpr (List.mem_cons_of_mem r hx), hxid, hxpid, hpayload⟩

end Retained

section Steps
variable {w : SupervisorWorld} {loop : SupervisorLoopState}

theorem retained_new (processId : Nat) (ledger : Option PersistentRecoveryLedger)
    (precommitStore : Option PreCommitRuntimeMarks) :
    Retained (SupervisorLoopState.new processId ledger precommitStore) where
  unique := List.nodup_nil
  known := fun r hr => absurd hr List.not_mem_nil
  admitted := fun a ha => absurd ha List.not_mem_nil
  payloads := fun q hq => absurd hq List.not_mem_nil
  reserved := fun attemptId id generation h => by cases h
  kept := fun a ha => absurd ha List.not_mem_nil

theorem Retained.update {s s' : SupervisorLoopState} {slot : Slot PendingWorkerLifecycle}
    {e : PendingWorkerLifecycle} {ledger : Option PersistentRecoveryLedger} (h : Retained s)
    (hupdate : EntryUpdate s slot e ledger)
    (hpayload : e.record.payloadIdentity = slot.entry.record.payloadIdentity)
    (hpending : s'.pending = slot.put e) (hchildren : s'.children = s.children)
    (hquarantined : s'.quarantined = s.quarantined) (hhistory : s'.history = s.history)
    (hphase : ∀ attemptId id generation, s'.admission.phase = .reserved attemptId id generation →
      s.admission.phase = .reserved attemptId id generation) : Retained s' := by
  have hnew := records_of_pending (s := s') (by rw [hpending]; exact slot.put_perm e)
  rw [hchildren, hquarantined] at hnew
  exact h.replace (records_of_pending (by rw [hupdate.found]; exact slot.all_perm)) hnew
    ⟨hupdate.lifecycleId, hupdate.workerPid, hpayload⟩ hhistory hphase

theorem records_swapRemove {s : SupervisorLoopState} (slot : Slot PendingWorkerLifecycle)
    (hfound : s.pending = slot.all) :
    s.records.Perm
      (slot.entry.record :: ({ s with pending := slot.swapRemove } : SupervisorLoopState).records) := by
  refine (records_of_pending (by rw [hfound]; exact slot.all_perm)).trans (List.Perm.cons _ ?_)
  exact ((slot.swapRemove_perm.symm.map _).append_right _).append_right _

theorem records_swapRemove_children {s : SupervisorLoopState} (slot : Slot SupervisedWorker)
    (hfound : s.children = slot.all) :
    s.records.Perm
      (slot.entry.record :: ({ s with children := slot.swapRemove } : SupervisorLoopState).records) := by
  refine (records_of_children (by rw [hfound]; exact slot.all_perm)).trans (List.Perm.cons _ ?_)
  exact ((slot.swapRemove_perm.symm.map _).append_left _).append_right _

theorem Retained.retain {s s' : SupervisorLoopState} {r record : SupervisorSessionRecoveryRecord}
    {ledger : Option PersistentRecoveryLedger} {stage : EmergencyRecoveryStage}
    {reason : SupervisorRecoveryError} (h : Retained s)
    (hperm : s.records.Perm (r :: s'.records)) (hhistory : s'.history = s.history)
    (hsame : SameIdentity r record) : Retained (s'.retain record ledger stage reason) := by
  refine h.replace hperm (records_quarantined record rfl rfl rfl) hsame hhistory ?_
  exact fun attemptId id generation hp => by cases hp

theorem Retained.finished {s s' : SupervisorLoopState} {r : SupervisorSessionRecoveryRecord}
    {ledger : Option PersistentRecoveryLedger} (h : Retained s)
    (hperm : s.records.Perm (r :: s'.records)) (hhistory : s'.history = s.history) :
    Retained (s'.finish r.lifecycleId ledger) := by
  refine h.finish hperm (.refl _) ?_ fun attemptId id generation hp => by cases hp
  rw [SupervisorLoopState.finish, hhistory]

theorem retained_settled {lease : PendingLifecycleLease} {slot : Slot PendingWorkerLifecycle}
    {expectedClean : Bool} {a : AbortAnswers} (h : Retained w.loop)
    (hm : w.loop.admission.matchesPending lease = true) (hfound : w.loop.pending = slot.all)
    (hid : slot.entry.record.lifecycleId = lease.lifecycleId)
    (hclean : expectedCleanupVerified slot.entry expectedClean a = true →
      ¬removalRefused lease.precommitRuntime a.removed)
    (hresolve : expectedCleanupVerified slot.entry expectedClean a = false →
      slot.entry.record.payloadIdentity.isSome = true →
      recoverFromPayload a.emergency = .recovered →
      (resolveIn (transitionIn w.loop.ledger lease.lifecycleId "emergency_recovery_started"
        a.started).2 lease.lifecycleId a.resolve).1 = true)
    (hsettled : SettledPending { w.loop with pending := slot.swapRemove } lease slot.entry
      expectedClean a loop) : Retained loop := by
  have hperm := records_swapRemove slot hfound
  cases hsettled with
  | cleaned hverified =>
    simp only [cancel_pending_of_matches hm, if_neg (hclean hverified)]
    exact h.finish hperm (.refl _) rfl fun attemptId id generation hp => by cases hp
  | recovered ledger hledger hheld => exact h.finished hperm rfl
  | unresolved ledger phase reason hledger hverified hpayload hrecovered hfailed =>
    rw [hid, hresolve hverified hpayload hrecovered] at hfailed
    cases hfailed
  | quarantined ledger record stage reason hledger hrecord => exact h.retain hperm rfl hrecord

theorem retained_aborted {t : PendingLaunchTransaction} {lease : PendingLifecycleLease}
    {expectedClean : Bool} {exitStatus : Option ExitStatus} {a : AbortAnswers}
    (h : Retained w.loop) (hlease : t.pendingLease = some lease)
    (hm : w.loop.admission.matchesPending lease = true)
    (hkeeps : KeepsLifecycle w (.abortPending t expectedClean exitStatus a))
    (haborted : PendingAborted w.loop lease expectedClean exitStatus a loop) : Retained loop := by
  cases haborted with
  | missing hfirst =>
    refine h.unchanged rfl rfl rfl rfl (fun id hid => hid) fun attemptId id generation hp => ?_
    rw [cancel_pending_of_matches hm] at hp
    split at hp
    · exact h.reserved attemptId id generation hp
    · cases hp
  | unreaped slot hfirst hstatus => exact absurd hstatus (hkeeps lease slot hlease hm hfirst).1
  | settled slot s' hfirst hfound hid hsettled =>
    obtain ⟨-, hclean, hresolve⟩ := hkeeps lease slot hlease hm hfirst
    exact retained_settled h hm hfound hid hclean hresolve hsettled

theorem retained_registered {lease : PendingLifecycleLease} {r : RunningRegistration}
    {a : RegistrationAnswers} (h : Retained w.loop)
    (hlease : r.transaction.pendingLease = some lease)
    (hid : r.transaction.lifecycleId = lease.lifecycleId)
    (hm : w.loop.admission.matchesPending lease = true)
    (hkeeps : KeepsLifecycle w (.registerRunning r a))
    (hregistered : RunningRegistered w.loop lease r a loop) : Retained loop := by
  cases hregistered with
  | mismatched hne => exact h
  | missing hsame hfirst =>
    refine h.unchanged rfl rfl rfl rfl (fun id hid => hid) fun attemptId id generation hp => ?_
    rw [cancel_pending_of_matches hm] at hp
    split at hp
    · exact h.reserved attemptId id generation hp
    · cases hp
  | rejected slot record stage reason hfound hrecord =>
    exact h.retain (records_swapRemove slot hfound) rfl hrecord
  | started slot payload nonce s' hfirst hfound hentry hstate hagrees hstarted =>
    have hworker := (registrable_iff (Slot.first_eq_some hfirst).2).1
    obtain ⟨hwritten, hhandoff⟩ := hkeeps lease slot payload nonce hlease hm
      (hid.trans (hentry.symm.trans hworker)) hfirst hstate hagrees
    cases hstarted with
    | unstarted hfailed =>
      rw [show (transitionIn w.loop.ledger r.workerId "started" a.started).1 = false from hfailed]
        at hwritten
      cases hwritten
    | committed hok hbinding hstore =>
      obtain ⟨⟨binding, hgiven⟩, hremoved⟩ := hhandoff hbinding
      rcases hstore with ⟨e, herror⟩ | hrefused
      · rw [hgiven] at herror
        cases herror
      · rw [hremoved] at hrefused
        cases hrefused
    | running worker hadmission hrecord =>
      refine h.replace (records_swapRemove slot hfound) ?_ hrecord rfl
        fun attemptId id generation hp => by cases hp
      exact records_of_children (List.perm_append_singleton worker w.loop.children)

theorem retained_touched (h : Retained w.loop) (htouched : WorkerTouched w.loop loop) :
    Retained loop := by
  cases htouched with
  | same => exact h
  | written id ledger hledger hholds =>
    exact h.unchanged rfl rfl rfl rfl (fun id hid => hid) h.reserved
  | flagged id ledger slot busy hfound hledger hholds =>
    refine h.unchanged ?_ rfl rfl rfl (fun id hid => hid) h.reserved
    have hmap : (slot.put { slot.entry with terminalVtReportedBusy := busy }).map
        (·.record) = w.loop.children.map (·.record) := by
      rw [hfound]
      exact Slot.map_put rfl
    simp only [SupervisorLoopState.records, hmap]

theorem retained_recorded {workerId : String} {workerPid : Nat} {nonce : String}
    {a : PreparedScopeAnswers} (h : Retained w.loop)
    (hkeeps : KeepsLifecycle w (.recordPreparedScope workerId workerPid nonce a))
    (hrec : ScopeRecorded w.loop workerId workerPid nonce a loop) : Retained loop := by
  cases hrec with
  | same => exact h
  | prepared slot e ledger payload hupdate hold hpayload =>
    refine h.prepare (records_of_pending (by rw [hupdate.found]; exact slot.all_perm))
      (records_of_pending (slot.put_perm e)) hupdate.lifecycleId hupdate.workerPid hold hpayload
      rfl rfl
  | unrecorded slot e ledger payload vt hupdate hfirst htaken hstate hpayload hfailed =>
    rw [hkeeps slot vt payload hfirst htaken hstate hpayload] at hfailed
    cases hfailed
  | refused slot e stage reason hupdate hid hpayload hterminal =>
    refine h.update hupdate hpayload rfl rfl rfl rfl fun attemptId id generation hp => ?_
    rcases Seated.quarantinePending_cases w.loop.admission workerId stage reason with
      ⟨-, hc⟩ | hc
    · rw [hc] at hp
      cases hp
    · rw [hc] at hp
      exact hp

theorem Retained.step {lost : Bool} {a : SupervisorAction} (h : Retained w.loop)
    (hseated : Seated lost w) (ha : Admits w a) (hkeeps : KeepsLifecycle w a) :
    Retained (w.step a).loop := by
  have hstep := stepped_step hseated ha
  generalize w.step a = w' at hstep
  cases hstep with
  | quiet => exact h
  | reserved id vt created leases hreservable =>
    have hnew := hkeeps hreservable
    refine h.unchanged rfl rfl rfl rfl (fun id' hid' => List.mem_cons_of_mem id hid') ?_
    intro attemptId id' generation hp
    cases hp
    exact ⟨List.mem_cons_self, fun b hb heq => hnew (heq ▸ h.admitted b hb)⟩
  | cancelled a lease removed leases hm =>
    simp only [cancelAdmission, cancel_reserved_of_matches hm]
    split
    · exact h
    · exact h.unchanged rfl rfl rfl rfl (fun id hid => hid)
        fun attemptId id generation hp => by cases hp
  | launched lease worker removed leases transactions hm hvalid =>
    obtain ⟨hadmitted, hfresh⟩ :=
      h.reserved _ _ _ ((w.loop.admission.matchesReserved_iff lease).mp hm).1
    refine h.launch (records_of_pending (List.perm_append_singleton _ _)) rfl rfl hadmitted hfresh
      rfl fun attemptId id generation hp => by cases hp
  | recorded workerId workerPid nonce a loop hrec => exact retained_recorded h hkeeps hrec
  | moved a loop hmoved =>
    cases hmoved with
    | same => exact h
    | moved slot e ledger hupdate hpayload =>
      exact h.update hupdate hpayload rfl rfl rfl rfl fun _ _ _ hp => hp
  | aborted t lease expectedClean exitStatus a loop ht hlease hm hl haborted =>
    exact retained_aborted h hlease hm hkeeps haborted
  | registered r lease a loop ht hlease hid hm hl hregistered =>
    exact retained_registered h hlease hid hm hkeeps hregistered
  | touched a loop htouched => exact retained_touched h htouched
  | exited exit slot loop hslot hphase hl hexited =>
    have hperm := records_swapRemove_children slot (Slot.nth_eq_some hslot)
    cases hexited with
    | finished ledger hledger hheld => exact h.finished hperm rfl
    | quarantined ledger record stage reason hledger hrecord => exact h.retain hperm rfl hrecord

end Steps

/-- In every run whose steps give up no entry, every accepted worker is finished or kept with its
identity in every state after it was accepted. -/
theorem accepted_lifecycle_kept (processId : Nat) (ledger : Option PersistentRecoveryLedger)
    (precommitStore : Option PreCommitRuntimeMarks) (actions : List SupervisorAction)
    (h : StepsMeet SupervisorWorld.step (fun w a => Admits w a ∧ KeepsLifecycle w a)
      (.new processId ledger precommitStore) actions) (n : Nat) :
    let w := (actions.take n).foldl SupervisorWorld.step (.new processId ledger precommitStore)
    ∀ a ∈ w.loop.history.accepted, Kept w.loop a := by
  have hinv := foldl_invariant (fun w => Placed w ∧ Retained w.loop) (fun w a hw ha => ?_)
    (actions.take n) (.new processId ledger precommitStore)
    ⟨.new processId ledger precommitStore, retained_new processId ledger precommitStore⟩
    (stepsMeet_take h n)
  · exact hinv.2.kept
  · obtain ⟨⟨lost, hseated⟩, hunique⟩ := hw.1
    exact ⟨hw.1.step ha.1, hw.2.step hseated ha.1 ha.2⟩

theorem runningWorker_kept :
    Kept ((sampleLogin.take 5).foldl SupervisorWorld.step (.new 1 (some {}) none)).loop
      ⟨"worker-a", 4711⟩ := by
  refine accepted_lifecycle_kept 1 (some {}) none sampleLogin ?_ 5 _ (List.mem_singleton.mpr rfl)
  refine ⟨⟨trivial, fun _ => List.not_mem_nil⟩, ⟨?_, trivial⟩,
    ⟨trivial, fun slot vt payload hfirst _ hstate hpayload => ?_⟩, ⟨trivial, trivial⟩,
    ⟨?_, fun lease slot payload nonce hlease _ _ _ _ _ => ⟨rfl, fun hsome => ?_⟩⟩, trivial⟩
  · exact List.mem_singleton.mpr rfl
  · cases hfirst
    cases hstate
    cases hpayload
    rfl
  · exact List.mem_singleton.mpr rfl
  · cases hlease
    cases hsome

/-- A pending worker whose exit cannot be read is dropped from the table, and kept nowhere. -/
def unreapedLaunch : List SupervisorAction :=
  sampleLogin.take 2 ++
    [.abortPending ⟨"worker-a", .prepared, some ⟨"seat0", 1, "worker-a", 1, none⟩⟩ false none
      { reap := none, started := ⟨some "boot", .synced⟩, busy := ⟨some "boot", .synced⟩
        resolve := ⟨⟨some "boot", .synced⟩, .synced⟩ }]

theorem unreapedWorker_lost :
    StepsMeet SupervisorWorld.step Admits (.new 1 (some {}) none) unreapedLaunch ∧
    ⟨"worker-a", 4711⟩ ∈ (unreapedLaunch.foldl SupervisorWorld.step
      (.new 1 (some {}) none)).loop.history.accepted ∧
    ¬Kept (unreapedLaunch.foldl SupervisorWorld.step (.new 1 (some {}) none)).loop
      ⟨"worker-a", 4711⟩ := by
  refine ⟨⟨trivial, ?_, ?_, trivial⟩, List.mem_singleton.mpr rfl, ?_⟩
  · exact List.mem_singleton.mpr rfl
  · exact List.mem_singleton.mpr rfl
  · rintro (hfinished | ⟨r, hr, -⟩)
    · exact List.not_mem_nil hfinished
    · exact List.not_mem_nil hr

end Niralis
