import Niralis.SupervisorWorld

namespace Niralis
open SupervisorLoopState SupervisorWorld

/-- No step that consumes a lease fails after it: reservations get their store record, records of
cancelled launches are removed, and a launch that registers gets past every durable step. -/
def KeepsSeat (w : SupervisorWorld) : SupervisorAction → Prop
  | .reserveSeat lifecycleId previousVt created =>
    Reservable w.loop lifecycleId previousVt → w.loop.precommitStore.isSome = true →
      created.any (·.lifecycleId = lifecycleId) = true
  | .cancelAdmission lease removed => ¬removalRefused lease.precommitRuntime removed
  | .beginPending lease worker removed =>
    launchInvalid w.loop lease worker = true → ¬removalRefused lease.precommitRuntime removed
  | .abortPending t expectedClean exitStatus a =>
    ∀ lease, t.pendingLease = some lease → w.loop.admission.matchesPending lease = true →
      match Slot.first (fun e : PendingWorkerLifecycle =>
          e.record.lifecycleId = lease.lifecycleId) w.loop.pending with
      | none => ¬removalRefused lease.precommitRuntime a.removed
      | some slot => exitStatus.or a.reap ≠ none ∧
        (expectedCleanupVerified slot.entry expectedClean a = true →
          ¬removalRefused lease.precommitRuntime a.removed)
  | .registerRunning r a =>
    ∀ lease, r.transaction.pendingLease = some lease →
      w.loop.admission.matchesPending lease = true →
      r.transaction.lifecycleId = r.workerId ∧
      match Slot.first (registrable r) w.loop.pending with
      | none => ¬removalRefused lease.precommitRuntime a.removedPending
      | some slot => ∀ payload nonce,
        slot.entry.record.state = .payloadRegistered payload nonce →
        registrationAgrees r payload →
        (transitionIn w.loop.ledger r.workerId "started" a.started).1 = true ∧
        (lease.precommitRuntime.isSome = true →
          (∃ binding, a.handoff = .ok binding) ∧ a.removedCommitted = true)
  | _ => True

namespace Seated
variable {lost : Bool} {w : SupervisorWorld}

theorem phase_of_matchesPending {c : SeatAdmissionController} {lease : PendingLifecycleLease}
    (hm : c.matchesPending lease = true) : c.phase ≠ .free := by
  rw [((c.matchesPending_iff lease).mp hm).1]
  nofun

theorem phase_of_matchesReserved {c : SeatAdmissionController} {lease : AdmissionLease}
    (hm : c.matchesReserved lease = true) : c.phase ≠ .free := by
  rw [((c.matchesReserved_iff lease).mp hm).1]
  nofun

/-- What a step leaves behind: the seat's place, and whether its capability can have gone astray. -/
def Leads (lost : Bool) (w : SupervisorWorld) (a : SupervisorAction) (w' : SupervisorWorld) : Prop :=
  ∃ lost', Seated lost' w' ∧ (lost = false → KeepsSeat w a → lost' = false)

theorem Leads.same {a : SupervisorAction} {w' : SupervisorWorld} (h : Seated lost w') :
    Leads lost w a w' := ⟨lost, h, fun hl _ => hl⟩

theorem Leads.kept {a : SupervisorAction} {w' : SupervisorWorld} (h : Seated false w') :
    Leads lost w a w' := ⟨false, h, fun _ _ => rfl⟩

theorem Leads.astray {a : SupervisorAction} {w' : SupervisorWorld} (h : Seated true w')
    (hbad : ¬KeepsSeat w a) : Leads lost w a w' := ⟨true, h, fun _ hk => absurd hk hbad⟩

theorem leads_reserveSeat (h : Seated lost w) (lifecycleId : String)
    (previousVt : Option PreviousVtIdentity) (created : Option PreCommitRuntimeBinding) :
    Leads lost w (.reserveSeat lifecycleId previousVt created)
      (w.step (.reserveSeat lifecycleId previousVt created)) := by
  simp only [step]
  have hres := reserved_reserveSeat w.loop lifecycleId previousVt created
  generalize w.loop.reserveSeat lifecycleId previousVt created = result at hres ⊢
  -- a seat that can be reserved is idle, so nobody holds anything yet
  have hidle : w.loop.admission.phase = .free → w.loop.admission.lifecycle = .free →
      w.leases = [] ∧ w.transactions = [] ∧ w.loop.children = [] := by
    intro hphase hlifecycle
    cases h with
    | idle _ _ hle ht hc => exact ⟨hle, ht, hc⟩
    | reserved lease hm => exact absurd hphase (phase_of_matchesReserved hm)
    | pending t lease hm => exact absurd hphase (phase_of_matchesPending hm)
    | active worker _ hm =>
      rw [((w.loop.admission.matchesRunning_iff _).mp hm).1] at hlifecycle
      cases hlifecycle
    | ended _ hended =>
      rw [hlifecycle] at hended
      cases hended
    | lost hp => exact absurd hphase hp
  cases hres with
  | refused e => exact .same h
  | reserved lease hreservable hlease =>
    obtain ⟨hle, ht, hc⟩ := hidle hreservable.phase hreservable.lifecycle
    refine .kept (.reserved lease hlease hreservable.lifecycle ?_ (by rw [hle]) ht hc)
    rw [← hreservable.clear]
    exact recoveryAdmissionState_congr "seat0" (.refl lifecycleId _) rfl
  | lost e hreservable hstore hcreated =>
    obtain ⟨hle, ht, hc⟩ := hidle hreservable.phase hreservable.lifecycle
    refine .astray (.lost (by simp [reservedFor]) hreservable.lifecycle hle ht hc) fun hk => ?_
    rw [hk hreservable hstore] at hcreated
    cases hcreated

theorem seated_cancelAdmission (h : Seated lost w) {lease : AdmissionLease}
    (hmem : lease ∈ w.leases) (removed : Bool) :
    Seated (decide (removalRefused lease.precommitRuntime removed)) { w with
      loop := (w.loop.cancelAdmission lease removed).2, leases := w.leases.erase lease } := by
  obtain ⟨-, hm, hl, -, hle, ht, hc⟩ := h.of_lease hmem
  have hleases : w.leases.erase lease = [] := by simp [hle]
  simp only [cancelAdmission, cancel_reserved_of_matches hm]
  by_cases hr : removalRefused lease.precommitRuntime removed
  · simp only [hr, if_true, decide_true]
    exact .lost (phase_of_matchesReserved hm) hl hleases ht hc
  · simp only [hr, if_false, decide_false]
    exact .idle rfl hl hleases ht hc

theorem leads_beginPending (h : Seated lost w) {lease : AdmissionLease} (hmem : lease ∈ w.leases)
    (worker : SpawnedWorker) (removed : Bool) :
    Leads lost w (.beginPending lease worker removed)
      (w.step (.beginPending lease worker removed)) := by
  rw [h.step_beginPending hmem]
  split
  next hinvalid =>
    have hcancel := h.seated_cancelAdmission hmem removed
    by_cases hr : removalRefused lease.precommitRuntime removed
    · rw [decide_eq_true hr] at hcancel
      exact .astray hcancel fun hk => hk hinvalid hr
    · rw [decide_eq_false hr] at hcancel
      exact .kept hcancel
  next =>
    obtain ⟨-, hm, hl, hclear, hle, ht, hc⟩ := h.of_lease hmem
    obtain ⟨-, hseat, hgeneration⟩ := (w.loop.admission.matchesReserved_iff lease).mp hm
    refine .kept (.pending _ (promotedLease lease) ?_ hl ?_ (by simp [hle]) (by rw [ht]) rfl rfl
      rfl hc)
    · rw [SeatAdmissionController.matchesPending_iff]
      exact ⟨rfl, hseat, hgeneration⟩
    · rw [← hclear]
      exact recoveryAdmissionState_congr "seat0" (.refl lease.lifecycleId _) rfl

theorem seated_moved {s : SupervisorLoopState} (h : Seated lost w) (hm : PendingMoved w.loop s) :
    Seated lost { w with loop := s } := by
  cases hm with
  | same => exact h
  | moved slot e ledger hu hpayload =>
    refine h.congr rfl rfl rfl rfl hu.ledger rfl fun e' he' => ?_
    exact hu.carried e' he'

theorem quarantinePending_cases (c : SeatAdmissionController) (id : String)
    (stage : EmergencyRecoveryStage) (reason : SupervisorRecoveryError) :
    ((∃ attemptId generation, c.phase = .pendingLifecycle attemptId id generation) ∧
      (c.quarantinePendingLifecycle id stage reason).2 =
        { c with phase := .free, lifecycle := .quarantined id stage reason }) ∨
    (c.quarantinePendingLifecycle id stage reason).2 = c := by
  unfold SeatAdmissionController.quarantinePendingLifecycle
  split
  next => exact Or.inr rfl
  next h =>
    refine Or.inl ⟨?_, rfl⟩
    simp only [Bool.not_eq_true', Bool.not_eq_false, SeatAdmissionController.pendingLifecycleIs]
      at h
    split at h
    next attemptId current generation hphase =>
      rw [beq_iff_eq] at h
      exact ⟨attemptId, generation, h ▸ hphase⟩
    next => cases h

theorem leads_recordPreparedScope (h : Seated lost w) (hunique : PendingUnique w) (workerId : String) (workerPid : Nat)
    (nonce : String) (a : PreparedScopeAnswers) :
    Leads lost w (.recordPreparedScope workerId workerPid nonce a)
      (w.step (.recordPreparedScope workerId workerPid nonce a)) := by
  simp only [step]
  have hrec := recorded_recordPreparedScope w.loop workerId workerPid nonce a
  generalize (w.loop.recordPreparedScope workerId workerPid nonce a).2 = s at hrec ⊢
  cases hrec with
  | same => exact .same h
  | prepared slot e ledger payload hu =>
    exact .same (h.congr rfl rfl rfl rfl hu.ledger rfl hu.carried)
  | unrecorded slot e ledger payload vt hu =>
    exact .same (h.congr rfl rfl rfl rfl hu.ledger rfl hu.carried)
  | refused slot e stage reason hu hid hpayload hterminal =>
    rcases quarantinePending_cases w.loop.admission workerId stage reason with
      ⟨⟨attemptId, generation, hphase⟩, hc⟩ | hc
    · -- the seat leaves the pending launch, whose entry is now past saving
      rw [hc]
      refine .kept ?_
      have hbusy : w.loop.admission.phase ≠ .free := by
        simp [hphase]
      cases h with
      | idle hp => exact absurd hp hbusy
      | active worker hp => exact absurd hp hbusy
      | ended hp => exact absurd hp hbusy
      | reserved lease hm =>
        rw [((w.loop.admission.matchesReserved_iff lease).mp hm).1] at hphase
        cases hphase
      | lost hp hl hle ht hchildren =>
        exact .ended rfl rfl hle (by simp [ht]) hchildren
      | pending t lease hm hl hclear hle ht hlease hidt hprepared hchildren =>
        refine .ended rfl rfl hle (fun t' ht' e' he' hid' => ?_) hchildren
        rw [ht, List.mem_singleton] at ht'
        subst ht'
        have hcurrent : t'.lifecycleId = workerId := by
          rw [((w.loop.admission.matchesPending_iff lease).mp hm).1] at hphase
          cases hphase
          exact hidt
        rcases Slot.mem_put.mp he' with rfl | hother
        · exact hterminal
        · unfold PendingUnique at hunique
          rw [hu.found] at hunique
          exact absurd (hid'.trans (hcurrent.trans hid.symm))
            (Slot.key_ne_of_mem_others hunique hother)
    · rw [hc]
      exact .same (h.congr rfl rfl rfl rfl hu.ledger rfl hu.carried)

/-- The seat after a pending lease was offered back for cancellation. -/
theorem seated_cancelPending {lease : PendingLifecycleLease} {s : SupervisorLoopState}
    {removed : Bool} (hm : w.loop.admission.matchesPending lease = true)
    (hl : w.loop.admission.lifecycle = .free) (hle : w.leases = []) (hc : w.loop.children = [])
    (hchildren : s.children = w.loop.children)
    (hadmission : s.admission = (w.loop.admission.cancel (.pending lease) removed).2) :
    Seated (decide (removalRefused lease.precommitRuntime removed)) ⟨s, w.leases, []⟩ := by
  rw [cancel_pending_of_matches hm] at hadmission
  by_cases hr : removalRefused lease.precommitRuntime removed
  · rw [if_pos hr] at hadmission
    rw [decide_eq_true hr]
    exact .lost (hadmission ▸ phase_of_matchesPending hm) (hadmission ▸ hl) hle rfl
      (hchildren.trans hc)
  · rw [if_neg hr] at hadmission
    rw [decide_eq_false hr]
    exact .idle (by rw [hadmission]) (by rw [hadmission]; exact hl) hle rfl (hchildren.trans hc)

/-- A cancellation loses the lease exactly if the store refuses to remove its record. -/
theorem Leads.of_cancel {a : SupervisorAction} {w' : SupervisorWorld}
    {binding : Option PreCommitRuntimeBinding} {removed : Bool}
    (h : Seated (decide (removalRefused binding removed)) w')
    (hbad : removalRefused binding removed → ¬KeepsSeat w a) : Leads lost w a w' := by
  by_cases hr : removalRefused binding removed
  · rw [decide_eq_true hr] at h
    exact .astray h (hbad hr)
  · rw [decide_eq_false hr] at h
    exact .kept h

theorem seated_settled {s s' : SupervisorLoopState} {lease : PendingLifecycleLease}
    {entry : PendingWorkerLifecycle} {expectedClean : Bool} {a : AbortAnswers}
    (hm : s.admission.matchesPending lease = true) (hl : s.admission.lifecycle = .free)
    (hc : s.children = []) (h : SettledPending s lease entry expectedClean a s') :
    Seated (expectedCleanupVerified entry expectedClean a &&
      decide (removalRefused lease.precommitRuntime a.removed)) ⟨s', [], []⟩ ∨
    Seated false ⟨s', [], []⟩ := by
  cases h with
  | cleaned hclean =>
    left
    rw [hclean, Bool.true_and]
    refine seated_cancelPending (w := ⟨s, [], []⟩) hm hl rfl hc ?_ ?_
    · rw [releaseSeat_children]
      rfl
    · rw [releaseSeat_admission]
  | recovered ledger hledger hheld => exact Or.inr (.idle rfl rfl rfl rfl hc)
  | unresolved ledger phase reason => exact Or.inr (.ended rfl rfl rfl nofun hc)
  | quarantined ledger record stage reason => exact Or.inr (.ended rfl rfl rfl nofun hc)

theorem leads_abortPending (h : Seated lost w) {t : PendingLaunchTransaction}
    (hmem : t ∈ w.transactions) (expectedClean : Bool) (exitStatus : Option ExitStatus)
    (a : AbortAnswers) :
    Leads lost w (.abortPending t expectedClean exitStatus a)
      (w.step (.abortPending t expectedClean exitStatus a)) := by
  obtain ⟨-, hle, hc, ⟨lease, hm, hl, -, ht, hlease, -⟩ | ⟨hp, hended, -⟩⟩ :=
    h.of_transaction hmem
  · have hnone : w.transactions.erase t = [] := by simp [ht]
    simp only [step, hlease, hnone, hle]
    have haborted : PendingAborted w.loop lease expectedClean exitStatus a _ :=
      aborted_abortPending hm
    generalize (w.loop.abortPending lease expectedClean exitStatus a).2 = s at haborted ⊢
    cases haborted with
    | missing hfirst =>
      have hcancel : Seated _ ⟨{ w.loop with
          admission := (w.loop.admission.cancel (.pending lease) a.removed).2 }, w.leases, []⟩ :=
        seated_cancelPending hm hl hle hc rfl rfl
      rw [hle] at hcancel
      refine .of_cancel hcancel fun hr hk => ?_
      have hkeeps := hk lease hlease hm
      rw [hfirst] at hkeeps
      exact hkeeps hr
    | unreaped slot hfirst hstatus =>
      refine .astray (.lost (phase_of_matchesPending hm) hl rfl rfl hc) fun hk => ?_
      have hkeeps := hk lease hlease hm
      rw [hfirst] at hkeeps
      exact hkeeps.1 hstatus
    | settled slot s' hfirst hfound hid hsettled =>
      rcases seated_settled (s := { w.loop with pending := slot.swapRemove }) hm hl hc hsettled
        with hseat | hseat
      · by_cases hv : expectedCleanupVerified slot.entry expectedClean a = true
        · rw [hv, Bool.true_and] at hseat
          refine .of_cancel hseat fun hr hk => ?_
          have hkeeps := hk lease hlease hm
          rw [hfirst] at hkeeps
          exact hkeeps.2 hv hr
        · rw [Bool.not_eq_true] at hv
          rw [hv, Bool.false_and] at hseat
          exact .kept hseat
      · exact .kept hseat
  · rw [step_abortPending_of_stale expectedClean exitStatus a hp]
    exact .kept (h.erase_stale hended)

theorem leads_registerRunning (h : Seated lost w) {r : RunningRegistration}
    (hmem : r.transaction ∈ w.transactions) (a : RegistrationAnswers) :
    Leads lost w (.registerRunning r a) (w.step (.registerRunning r a)) := by
  obtain ⟨-, hle, hc, ⟨lease, hm, hl, hclear, ht, hlease, hid, hprepared⟩ | ⟨hp, hended, hstale⟩⟩ :=
    h.of_transaction hmem
  · have hnone : w.transactions.erase r.transaction = [] := by simp [ht]
    simp only [step, hnone, hle]
    have hregistered : RunningRegistered w.loop lease r a _ :=
      registered_registerRunning hm hclear hprepared hlease hid
    generalize (w.loop.registerRunning r a).2 = s at hregistered ⊢
    -- the seat goes astray where the lease, the record or the store does not go along
    cases hregistered with
    | mismatched hne =>
      refine .astray (.lost (phase_of_matchesPending hm) hl rfl rfl hc) fun hk => ?_
      exact hne (hk lease hlease hm).1
    | missing _ hfirst =>
      have hcancel : Seated _ ⟨{ w.loop with
          admission := (w.loop.admission.cancel (.pending lease) a.removedPending).2 },
          w.leases, []⟩ := seated_cancelPending hm hl hle hc rfl rfl
      rw [hle] at hcancel
      refine .of_cancel hcancel fun hr hk => ?_
      have hkeeps := (hk lease hlease hm).2
      rw [hfirst] at hkeeps
      exact hkeeps hr
    | rejected slot record stage reason hfound hrecord =>
      exact .kept (.ended rfl rfl rfl (by simp) hc)
    | started slot payload nonce s' hfirst hfound hentry hstate hagrees hstarted =>
      have hkeeps : KeepsSeat w (.registerRunning r a) →
          (transitionIn w.loop.ledger r.workerId "started" a.started).1 = true ∧
          (lease.precommitRuntime.isSome = true →
            (∃ binding, a.handoff = .ok binding) ∧ a.removedCommitted = true) := fun hk => by
        have hreg := (hk lease hlease hm).2
        rw [hfirst] at hreg
        exact hreg payload nonce hstate hagrees
      cases hstarted with
      | unstarted hwrite =>
        refine .astray (.lost (phase_of_matchesPending hm) hl rfl rfl hc) fun hk => ?_
        rw [show (transitionIn w.loop.ledger r.workerId "started" a.started).1 = false from hwrite]
          at hkeeps
        cases (hkeeps hk).1
      | committed hwrite hbinding hstore =>
        refine .astray (.lost (by simp) hl rfl rfl hc) fun hk => ?_
        obtain ⟨⟨binding, hok⟩, hremoved⟩ := (hkeeps hk).2 hbinding
        rcases hstore with ⟨e, herror⟩ | hfailed
        · rw [hok] at herror
          cases herror
        · rw [hremoved] at hfailed
          cases hfailed
      | running worker hadmission hrecord =>
        obtain ⟨-, hseat, hgeneration⟩ := (w.loop.admission.matchesPending_iff lease).mp hm
        refine .kept (.active worker rfl ?_ ?_ rfl rfl ?_)
        · rw [SeatAdmissionController.matchesRunning_iff, hadmission]
          exact ⟨rfl, hseat, hgeneration⟩
        · rw [hadmission, hrecord.lifecycleId, hentry]
        · simp [hc]
  · rw [step_registerRunning_of_stale a hp hstale]
    exact .kept (h.erase_stale hended)

theorem seated_touched {s : SupervisorLoopState} (h : Seated lost w) (ht : WorkerTouched w.loop s) :
    Seated lost { w with loop := s } := by
  have hsame : ∀ e' ∈ w.loop.pending, ∃ e ∈ w.loop.pending,
      e'.record.lifecycleId = e.record.lifecycleId ∧
        (e.terminalBeforeStarted = true → e'.terminalBeforeStarted = true) :=
    fun e' he' => ⟨e', he', rfl, fun hterminal => hterminal⟩
  cases ht with
  | same => exact h
  | written id ledger hledger hholds => exact h.congr rfl rfl rfl rfl hledger rfl hsame
  | flagged id ledger slot busy hfound hledger hholds =>
    have hentry : slot.entry ∈ w.loop.children := by
      rw [hfound]
      exact Slot.mem_all.mpr (Or.inl rfl)
    obtain ⟨rfl, hp, hm, hid, hle, htr, hc⟩ := h.of_child hentry
    rw [hfound] at hc
    refine .active { slot.entry with terminalVtReportedBusy := busy } hp hm hid hle htr ?_
    obtain ⟨before, entry, after⟩ := slot
    simp only [Slot.all, Slot.put] at hc ⊢
    cases before with
    | nil => simpa using hc
    | cons b bs => simp at hc

theorem seated_exited {s s' : SupervisorLoopState} {worker : SupervisedWorker}
    {status : ExitStatus} {a : ExitAnswers} (hc : s.children = [])
    (h : ExitedWorker s worker status a s') : Seated false ⟨s', [], []⟩ := by
  cases h with
  | finished ledger hledger hheld => exact .idle rfl rfl rfl rfl hc
  | quarantined ledger record stage reason => exact .ended rfl rfl rfl nofun hc

theorem seated_visit (h : Seated lost w) (exit : Exit) :
    Seated lost { w with loop := w.loop.visit exit } := by
  unfold visit
  split
  next => exact h
  next slot hnth =>
    have hfound := Slot.nth_eq_some hnth
    have hentry : slot.entry ∈ w.loop.children := by
      rw [hfound]
      exact Slot.mem_all.mpr (Or.inl rfl)
    obtain ⟨rfl, hp, hm, hid, hle, htr, hc⟩ := h.of_child hentry
    have hnone : slot.swapRemove = [] := by
      have hlength := slot.length_swapRemove
      have hall := slot.length_all
      rw [← hfound, hc, List.length_singleton] at hall
      exact List.eq_nil_of_length_eq_zero (by omega)
    have hexit : ExitedWorker _ slot.entry exit.status exit.answers _ :=
      exited_finishExitedWorker hp hm hid
    have hseat := seated_exited hnone hexit
    rw [hle, htr]
    exact hseat

theorem seated_updatePrecommitRuntime (h : Seated lost w) {lease : AdmissionLease}
    (hmem : lease ∈ w.leases) (answer : Except Unit PreCommitRuntimeBinding) :
    Seated lost (w.step (.updatePrecommitRuntime lease answer)) := by
  obtain ⟨rfl, hm, hl, hclear, hle, ht, hc⟩ := h.of_lease hmem
  simp only [step]
  refine .reserved (lease.updatePrecommitRuntime answer).2 ?_ hl hclear ?_ ht hc
  · -- an update changes nothing that the controller compares
    exact hm
  · simp [hle]

theorem leads_step {a : SupervisorAction} (h : Seated lost w) (hunique : PendingUnique w)
    (ha : Admits w a) : Leads lost w a (w.step a) := by
  cases a with
  | reserveSeat id previousVt created => exact h.leads_reserveSeat id previousVt created
  | updatePrecommitRuntime lease answer => exact .same (h.seated_updatePrecommitRuntime ha answer)
  | cancelAdmission lease removed =>
    exact .of_cancel (h.seated_cancelAdmission ha removed) fun hr hk => hk hr
  | beginPending lease worker removed => exact h.leads_beginPending ha worker removed
  | recordPreparedScope workerId workerPid nonce a =>
    exact h.leads_recordPreparedScope hunique workerId workerPid nonce a
  | markPayloadRegistered workerId workerPid answer =>
    exact .same (h.seated_moved (moved_markPayloadRegistered w.loop workerId workerPid answer))
  | beginRelease request => exact .same (h.seated_moved (moved_beginRelease w.loop request))
  | completeRelease token verification answer =>
    exact .same (h.seated_moved (moved_completeRelease w.loop token verification answer))
  | abortPending t expectedClean exitStatus a =>
    exact h.leads_abortPending ha expectedClean exitStatus a
  | registerRunning r a => exact h.leads_registerRunning ha a
  | terminalVtIntent workerId workerPid nonce identity answer =>
    exact .same (h.seated_touched
      (touched_acceptTerminalVtIntent w.loop workerId workerPid nonce identity answer))
  | terminalVtResult workerId workerPid nonce attemptId result answer =>
    exact .same (h.seated_touched
      (touched_acceptTerminalVtResult w.loop workerId workerPid nonce attemptId result answer))
  | workerExited exit => exact .same (h.seated_visit exit)

end Seated

/-- The part of the invariant that needs no condition: the seat has its place, entries are unique. -/
def Placed (w : SupervisorWorld) : Prop := (∃ lost, Seated lost w) ∧ PendingUnique w

theorem Placed.new (processId : Nat) (ledger : Option PersistentRecoveryLedger)
    (precommitStore : Option PreCommitRuntimeMarks) :
    Placed (.new processId ledger precommitStore) :=
  ⟨⟨false, .new processId ledger precommitStore⟩, List.nodup_nil⟩

theorem Placed.step {w : SupervisorWorld} {a : SupervisorAction} (h : Placed w)
    (ha : Admits w a) : Placed (w.step a) := by
  obtain ⟨⟨lost, hseated⟩, hunique⟩ := h
  obtain ⟨lost', hseated', -⟩ := hseated.leads_step hunique ha
  exact ⟨⟨lost', hseated'⟩, hunique.step (stepped_step hseated ha)⟩

/-- Somebody holds a capability that the controller accepts for the phase the seat is in. -/
def HasHolder (w : SupervisorWorld) : Prop :=
  match w.loop.admission.phase with
  | .free => True
  | .reserved _ _ _ => ∃ lease ∈ w.leases, w.loop.admission.matchesReserved lease = true
  | .pendingLifecycle _ _ _ => ∃ t ∈ w.transactions, ∃ lease,
      t.pendingLease = some lease ∧ w.loop.admission.matchesPending lease = true
  -- commit and promotion are one message, and no table keeps a commit receipt
  | .launchCommitted _ _ _ => False

theorem Seated.hasHolder {w : SupervisorWorld} (h : Seated false w) : HasHolder w := by
  unfold HasHolder
  cases h with
  | idle hp => rw [hp]; trivial
  | active worker hp => rw [hp]; trivial
  | ended hp => rw [hp]; trivial
  | reserved lease hm hl hclear hle =>
    rw [((w.loop.admission.matchesReserved_iff lease).mp hm).1]
    exact ⟨lease, by simp [hle], hm⟩
  | pending t lease hm hl hclear hle ht hlease =>
    rw [((w.loop.admission.matchesPending_iff lease).mp hm).1]
    exact ⟨t, by simp [ht], lease, hlease, hm⟩

/-- In every run whose steps lose no lease to a failing store or ledger, an occupied seat has a
holder in every state. -/
theorem occupied_seat_has_holder (processId : Nat) (ledger : Option PersistentRecoveryLedger)
    (precommitStore : Option PreCommitRuntimeMarks) (actions : List SupervisorAction)
    (h : StepsMeet SupervisorWorld.step (fun w a => Admits w a ∧ KeepsSeat w a)
      (.new processId ledger precommitStore) actions) (n : Nat) :
    HasHolder ((actions.take n).foldl SupervisorWorld.step
      (.new processId ledger precommitStore)) := by
  have hinv := foldl_invariant (fun w => Seated false w ∧ PendingUnique w)
    (fun w a hw ha => ?_) (actions.take n) (.new processId ledger precommitStore)
    ⟨.new processId ledger precommitStore, List.nodup_nil⟩ (stepsMeet_take h n)
  · exact hinv.1.hasHolder
  · obtain ⟨lost, hseated, hkept⟩ := hw.1.leads_step hw.2 ha.1
    rw [hkept rfl ha.2] at hseated
    exact ⟨hseated, hw.2.step (stepped_step hw.1 ha.1)⟩

/-- A reservation and its launch, with a store that records both. -/
def recordedLaunch : List SupervisorAction :=
  [.reserveSeat "worker-a" (some ⟨1⟩) (some ⟨"worker-a", "reserved", 1, false⟩),
   .beginPending ⟨"seat0", 1, "worker-a", 1, ⟨1⟩, some ⟨"worker-a", "reserved", 1, false⟩⟩
    ⟨4711, 1, 4711, ⟨"alice", "plasma"⟩⟩ true]

theorem recordedLaunch_has_holder :
    HasHolder ((recordedLaunch.take 2).foldl SupervisorWorld.step (.new 1 none (some {}))) := by
  refine occupied_seat_has_holder 1 none (some {}) recordedLaunch ?_ 2
  refine ⟨⟨trivial, fun _ _ => rfl⟩, ⟨?_, fun h => ?_⟩, trivial⟩
  · exact List.mem_singleton.mpr rfl
  · cases h

/-- The seat is reserved before the store is asked; when the store fails, nobody gets the lease. -/
theorem unrecordedReservation_unheld :
    StepsMeet SupervisorWorld.step Admits (.new 1 none (some {}))
      [.reserveSeat "worker-a" (some ⟨1⟩) none] ∧
    ¬HasHolder ([SupervisorAction.reserveSeat "worker-a" (some ⟨1⟩) none].foldl
      SupervisorWorld.step (.new 1 none (some {}))) := by
  refine ⟨⟨trivial, trivial⟩, ?_⟩
  rintro ⟨lease, hmem, -⟩
  cases hmem

end Niralis
