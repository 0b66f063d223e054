import Niralis.SeatHolders

namespace Niralis
open SupervisorLoopState SupervisorWorld

/-- The lifecycle that may have a durable record while the seat is as it is. -/
def SeatAdmissionController.occupant (c : SeatAdmissionController) : Option String :=
  match c.phase with
  | .reserved _ _ _ => none
  | .pendingLifecycle _ id _ => some id
  | .launchCommitted _ id _ => some id
  | .free =>
    match c.lifecycle with
    | .active id => some id
    | _ => none

/-- Records and pending entries belong to the lifecycle that has the seat. -/
structure Accounted (w : SupervisorWorld) : Prop where
  recorded : ∀ id ∈ w.loop.history.admitted, ledgerHolds w.loop.ledger id →
    w.loop.admission.occupant = some id
  entry : ∀ e ∈ w.loop.pending, ∃ attemptId generation,
    w.loop.admission.phase = .pendingLifecycle attemptId e.record.lifecycleId generation
  spawned : ∀ e ∈ w.loop.pending, ∀ vt, e.record.state = .workerSpawned vt →
    ¬ledgerHolds w.loop.ledger e.record.lifecycleId
  reserved : ∀ attemptId id generation,
    w.loop.admission.phase = .reserved attemptId id generation → id ∈ w.loop.history.admitted
  launched : w.transactions ≠ [] → w.loop.pending ≠ []

/-- Whenever a step frees the seat, what it frees it from has left the tables and the ledger. -/
def FreesClean (w : SupervisorWorld) : SupervisorAction → Prop
  | .reserveSeat id previousVt _ =>
    Reservable w.loop id previousVt → ¬ledgerHolds w.loop.ledger id
  | .abortPending t expectedClean _ a =>
    ∀ lease slot, t.pendingLease = some lease → w.loop.admission.matchesPending lease = true →
      Slot.first (fun e : PendingWorkerLifecycle => e.record.lifecycleId = lease.lifecycleId)
        w.loop.pending = some slot →
      expectedCleanupVerified slot.entry expectedClean a = true →
      ¬removalRefused lease.precommitRuntime a.removed →
      ledgerHolds w.loop.ledger lease.lifecycleId →
      (resolveIn w.loop.ledger lease.lifecycleId a.resolve).1 = true
  | .registerRunning r a =>
    ∀ lease, r.transaction.pendingLease = some lease →
      w.loop.admission.matchesPending lease = true →
      r.transaction.lifecycleId = r.workerId →
      ¬removalRefused lease.precommitRuntime a.removedPending →
      Slot.first (registrable r) w.loop.pending ≠ none
  | .workerExited exit =>
    ∀ slot, Slot.nth exit.index w.loop.children = some slot →
      recoversUnresolved w.loop slot.entry exit.status exit.answers = true →
      ¬ledgerHolds w.loop.ledger slot.entry.record.lifecycleId
  | _ => True

namespace Accounted
variable {w : SupervisorWorld} {loop : SupervisorLoopState} {leases : List AdmissionLease}
  {transactions : List PendingLaunchTransaction}

/-- The pending entries of a seat are for the same lifecycle, so there is at most one. -/
theorem others_nil (h : Accounted w) (hunique : PendingUnique w)
    {slot : Slot PendingWorkerLifecycle} (hfound : w.loop.pending = slot.all) :
    slot.others = [] := by
  unfold PendingUnique at hunique
  rw [hfound] at hunique
  refine List.eq_nil_iff_forall_not_mem.mpr fun e he => ?_
  obtain ⟨attemptId, generation, hphase⟩ :=
    h.entry slot.entry (by rw [hfound]; exact Slot.mem_all.mpr (Or.inl rfl))
  obtain ⟨attemptId', generation', hphase'⟩ :=
    h.entry e (by rw [hfound]; exact Slot.mem_all.mpr (Or.inr he))
  rw [hphase'] at hphase
  injection hphase with _ hid
  exact Slot.key_ne_of_mem_others hunique he hid

theorem swapRemove_nil (h : Accounted w) (hunique : PendingUnique w)
    {slot : Slot PendingWorkerLifecycle} (hfound : w.loop.pending = slot.all) :
    slot.swapRemove = [] := by
  have hperm := slot.swapRemove_perm
  rw [h.others_nil hunique hfound] at hperm
  exact hperm.eq_nil

theorem recorded_of_onRecord (h : Accounted w) {id : String}
    {ledger : Option PersistentRecoveryLedger} (hledger : OnLedgerRecord id w.loop.ledger ledger)
    (hid : w.loop.admission.occupant = some id) :
    ∀ id' ∈ w.loop.history.admitted, ledgerHolds ledger id' →
      w.loop.admission.occupant = some id' := by
  intro id' hmem hheld
  by_cases heq : id' = id
  · rw [heq]
    exact hid
  · exact h.recorded id' hmem ((hledger.holds_iff heq).mp hheld)

theorem occupant_of_phase {c : SeatAdmissionController} {attemptId generation : Nat} {id : String}
    (h : c.phase = .pendingLifecycle attemptId id generation) : c.occupant = some id := by
  simp [SeatAdmissionController.occupant, h]

theorem update (h : Accounted w) (hunique : PendingUnique w) {slot : Slot PendingWorkerLifecycle}
    {e : PendingWorkerLifecycle} (hupdate : EntryUpdate w.loop slot e loop.ledger)
    (hadmission : loop.admission = w.loop.admission)
    (hadmitted : loop.history.admitted = w.loop.history.admitted)
    (hpending : loop.pending = slot.put e) : Accounted { w with loop } := by
  have hentry : slot.entry ∈ w.loop.pending := by
    rw [hupdate.found]
    exact Slot.mem_all.mpr (Or.inl rfl)
  obtain ⟨attemptId, generation, hphase⟩ := h.entry slot.entry hentry
  have honly : loop.pending = [e] := by
    have hothers := h.others_nil hunique hupdate.found
    simp only [Slot.others, List.append_eq_nil_iff] at hothers
    rw [hpending, Slot.put, hothers.1, hothers.2, List.nil_append]
  constructor
  · rw [hadmission, hadmitted]
    exact h.recorded_of_onRecord hupdate.ledger (occupant_of_phase hphase)
  · intro e' he'
    rw [honly, List.mem_singleton] at he'
    rw [he', hadmission, hupdate.lifecycleId]
    exact ⟨attemptId, generation, hphase⟩
  · intro e' he' vt hstate
    rw [honly, List.mem_singleton] at he'
    subst he'
    obtain ⟨hold, hledger⟩ := hupdate.spawned vt hstate
    rw [hledger, hupdate.lifecycleId]
    exact h.spawned slot.entry hentry vt hold
  · rw [hadmission, hadmitted]
    exact h.reserved
  · intro _
    rw [honly]
    exact List.cons_ne_nil _ _

theorem pending_nil (h : Accounted w)
    (hphase : ∀ attemptId id generation,
      w.loop.admission.phase ≠ .pendingLifecycle attemptId id generation) :
    w.loop.pending = [] := by
  refine List.eq_nil_iff_forall_not_mem.mpr fun e he => ?_
  obtain ⟨attemptId, generation, hpending⟩ := h.entry e he
  exact hphase _ _ _ hpending

theorem of_pending_nil (hpending : loop.pending = [])
    (hrecorded : ∀ id ∈ loop.history.admitted, ledgerHolds loop.ledger id →
      loop.admission.occupant = some id)
    (hreserved : ∀ attemptId id generation,
      loop.admission.phase = .reserved attemptId id generation → id ∈ loop.history.admitted) :
    Accounted ⟨loop, leases, []⟩ where
  recorded := hrecorded
  entry := by simp [hpending]
  spawned := by simp [hpending]
  reserved := hreserved
  launched := fun h => absurd rfl h

theorem step_launched (h : Accounted w) {lease : AdmissionLease} {worker : SpawnedWorker}
    (hm : w.loop.admission.matchesReserved lease = true) :
    Accounted ⟨w.loop.launched lease worker, leases, transactions⟩ := by
  obtain ⟨hphase, -, -⟩ := (w.loop.admission.matchesReserved_iff lease).mp hm
  have hnone : w.loop.admission.occupant = none := by
    simp [SeatAdmissionController.occupant, hphase]
  have hempty : w.loop.pending = [] := h.pending_nil (by simp [hphase])
  have hpending : (w.loop.launched lease worker).pending = [spawnedEntry lease worker] := by
    rw [SupervisorLoopState.launched, hempty, List.nil_append]
  have hunrecorded : ∀ id ∈ w.loop.history.admitted, ¬ledgerHolds w.loop.ledger id := by
    intro id hmem hheld
    have := h.recorded id hmem hheld
    rw [hnone] at this
    cases this
  constructor
  · intro id hmem hheld
    exact absurd hheld (hunrecorded id hmem)
  · intro e he
    rw [hpending, List.mem_singleton] at he
    rw [he]
    exact ⟨lease.attemptId, lease.generation, rfl⟩
  · intro e he vt hstate
    rw [hpending, List.mem_singleton] at he
    rw [he]
    exact hunrecorded _ (h.reserved _ _ _ hphase)
  · intro attemptId id generation hp
    cases hp
  · intro _
    rw [hpending]
    exact List.cons_ne_nil _ _

theorem step_reserved (h : Accounted w) {id : String}
    (hphase : w.loop.admission.phase = .free) (hlifecycle : w.loop.admission.lifecycle = .free)
    (hnew : ¬ledgerHolds w.loop.ledger id) :
    Accounted { w with
      loop := { w.loop with
        admission := reservedFor w.loop.admission id
        history.admitted := id :: w.loop.history.admitted }
      leases } := by
  have hempty : w.loop.pending = [] := h.pending_nil (by simp [hphase])
  constructor
  · intro id' hmem hheld
    rcases List.mem_cons.mp hmem with rfl | hmem
    · exact absurd hheld hnew
    · have hold := h.recorded id' hmem hheld
      simp [SeatAdmissionController.occupant, hphase, hlifecycle] at hold
  · simp [hempty]
  · simp [hempty]
  · intro attemptId id' generation hp
    cases hp
    exact List.mem_cons_self
  · exact h.launched

theorem step_cancelled (h : Accounted w) {lease : AdmissionLease} {removed : Bool}
    (hm : w.loop.admission.matchesReserved lease = true) :
    Accounted { w with loop := (w.loop.cancelAdmission lease removed).2, leases } := by
  obtain ⟨hphase, -, -⟩ := (w.loop.admission.matchesReserved_iff lease).mp hm
  have hempty : w.loop.pending = [] := h.pending_nil (by simp [hphase])
  simp only [cancelAdmission, cancel_reserved_of_matches hm]
  by_cases hr : removalRefused lease.precommitRuntime removed
  · simp only [hr, if_true]
    exact ⟨h.recorded, h.entry, h.spawned, h.reserved, h.launched⟩
  · simp only [hr, if_false]
    refine ⟨fun id hmem hheld => ?_, by simp [hempty], by simp [hempty],
      fun attemptId id generation hp => (by cases hp), h.launched⟩
    have hold := h.recorded id hmem hheld
    simp [SeatAdmissionController.occupant, hphase] at hold

/-- A cancelled launch with its entry gone leaves no record behind. -/
theorem of_cancelled {lease : PendingLifecycleLease} {removed : Bool}
    (h : Accounted w) (hm : w.loop.admission.matchesPending lease = true)
    (hpending : loop.pending = []) (hadmitted : loop.history.admitted = w.loop.history.admitted)
    (hadmission : loop.admission = (w.loop.admission.cancel (.pending lease) removed).2)
    (hledger : OnLedgerRecord lease.lifecycleId w.loop.ledger loop.ledger)
    (hgone : ¬removalRefused lease.precommitRuntime removed →
      ¬ledgerHolds loop.ledger lease.lifecycleId) :
    Accounted ⟨loop, leases, []⟩ := by
  obtain ⟨hphase, -, -⟩ := (w.loop.admission.matchesPending_iff lease).mp hm
  have hoccupant := occupant_of_phase hphase
  rw [cancel_pending_of_matches hm] at hadmission
  by_cases hr : removalRefused lease.precommitRuntime removed
  · rw [if_pos hr] at hadmission
    refine of_pending_nil hpending ?_ (by rw [hadmission, hphase]; nofun)
    rw [hadmission, hadmitted]
    exact h.recorded_of_onRecord hledger hoccupant
  · rw [if_neg hr] at hadmission
    refine of_pending_nil hpending (fun id hmem hheld => ?_) (by rw [hadmission]; nofun)
    rw [hadmitted] at hmem
    by_cases heq : id = lease.lifecycleId
    · exact absurd (heq ▸ hheld) (hgone hr)
    · have hold := h.recorded id hmem ((hledger.holds_iff heq).mp hheld)
      rw [hoccupant] at hold
      cases hold
      exact absurd rfl heq

theorem of_finished {id : String} {ledger : Option PersistentRecoveryLedger} (h : Accounted w)
    (hoccupant : w.loop.admission.occupant = some id) (hpending : loop.pending = [])
    (hadmitted : loop.history.admitted = w.loop.history.admitted)
    (hledger : OnLedgerRecord id w.loop.ledger ledger) (hgone : ¬ledgerHolds ledger id) :
    Accounted ⟨loop.finish id ledger, leases, []⟩ := by
  refine of_pending_nil hpending (fun id' hmem hheld => ?_) nofun
  have hmem : id' ∈ w.loop.history.admitted := hadmitted ▸ hmem
  by_cases heq : id' = id
  · exact absurd (heq ▸ hheld) hgone
  · have hold := h.recorded id' hmem ((hledger.holds_iff heq).mp hheld)
    rw [hoccupant] at hold
    cases hold
    exact absurd rfl heq

theorem step_touched (h : Accounted w) (htouched : WorkerTouched w.loop loop) :
    Accounted { w with loop } := by
  -- the written record is there before and after, so the ledger holds what it held
  have hwritten : ∀ (id : String) (ledger : Option PersistentRecoveryLedger),
      OnLedgerRecord id w.loop.ledger ledger →
      (ledgerHolds ledger id ↔ ledgerHolds w.loop.ledger id) →
      ∀ id', ledgerHolds ledger id' → ledgerHolds w.loop.ledger id' := by
    intro id ledger hledger hholds id' hheld
    by_cases heq : id' = id
    · rw [heq] at hheld ⊢
      exact hholds.mp hheld
    · exact (hledger.holds_iff heq).mp hheld
  cases htouched with
  | same => exact h
  | written id ledger hledger hholds =>
    have hold := hwritten id ledger hledger hholds
    exact ⟨fun id' hmem hheld => h.recorded id' hmem (hold id' hheld), h.entry,
      fun e he vt hstate hheld => h.spawned e he vt hstate (hold _ hheld), h.reserved, h.launched⟩
  | flagged id ledger slot busy hfound hledger hholds =>
    have hold := hwritten id ledger hledger hholds
    exact ⟨fun id' hmem hheld => h.recorded id' hmem (hold id' hheld), h.entry,
      fun e he vt hstate hheld => h.spawned e he vt hstate (hold _ hheld), h.reserved, h.launched⟩

end Accounted

/-- As long as the seat is not given up, everything outstanding is its occupant's. -/
def Orderly (w : SupervisorWorld) : Prop :=
  w.loop.admission.lifecycle.ended = false → Accounted w

namespace Orderly
variable {w : SupervisorWorld} {loop : SupervisorLoopState} {leases : List AdmissionLease}

theorem of_ended (h : loop.admission.lifecycle.ended = true) {transactions} :
    Orderly ⟨loop, leases, transactions⟩ := fun h' => by
  rw [show loop.admission.lifecycle.ended = false from h'] at h
  cases h

theorem new (processId : Nat) (ledger : Option PersistentRecoveryLedger)
    (precommitStore : Option PreCommitRuntimeMarks) :
    Orderly (.new processId ledger precommitStore) :=
  fun _ => .of_pending_nil rfl (fun id hmem => absurd hmem List.not_mem_nil)
    (fun attemptId id generation h => by cases h)

theorem settled {lease : PendingLifecycleLease} {slot : Slot PendingWorkerLifecycle}
    {expectedClean : Bool} {a : AbortAnswers} (h : Accounted w) (hunique : PendingUnique w)
    (hm : w.loop.admission.matchesPending lease = true) (hfound : w.loop.pending = slot.all)
    (hid : slot.entry.record.lifecycleId = lease.lifecycleId)
    (hclean : expectedCleanupVerified slot.entry expectedClean a = true →
      ¬removalRefused lease.precommitRuntime a.removed →
      ledgerHolds w.loop.ledger lease.lifecycleId →
      (resolveIn w.loop.ledger lease.lifecycleId a.resolve).1 = true)
    (hsettled : SettledPending { w.loop with pending := slot.swapRemove } lease slot.entry
      expectedClean a loop) : Orderly ⟨loop, leases, []⟩ := by
  have hempty := h.swapRemove_nil hunique hfound
  have hoccupant := Accounted.occupant_of_phase
    ((w.loop.admission.matchesPending_iff lease).mp hm).1
  cases hsettled with
  | cleaned hverified =>
    intro _
    refine h.of_cancelled hm ?_ ?_ (releaseSeat_admission _ _ _) ?_ fun hr => ?_
    · rw [releaseSeat_pending]
      exact hempty
    · rw [releaseSeat_admitted]
      rfl
    · rw [releaseSeat_ledger]
      exact onLedgerRecord_resolveIn w.loop.ledger lease.lifecycleId a.resolve
    · rw [releaseSeat_ledger]
      intro hheld
      have hresolved := hclean hverified hr (ledgerHolds_of_resolveIn _ hheld)
      exact not_ledgerHolds_resolveIn _ hresolved hheld
  | recovered ledger hledger hheld =>
    intro _
    rw [hid] at hledger hheld ⊢
    refine h.of_finished hoccupant hempty rfl hledger fun hgone => ?_
    obtain ⟨rfl, vt, hstate⟩ := hheld hgone
    refine h.spawned slot.entry ?_ vt hstate (hid ▸ hgone)
    rw [hfound]
    exact Slot.mem_all.mpr (Or.inl rfl)
  | unresolved => exact of_ended rfl
  | quarantined => exact of_ended rfl

theorem aborted {t : PendingLaunchTransaction} {lease : PendingLifecycleLease}
    {expectedClean : Bool} {exitStatus : Option ExitStatus} {a : AbortAnswers} (h : Accounted w)
    (hunique : PendingUnique w) (ht : w.transactions = [t]) (hlease : t.pendingLease = some lease)
    (hm : w.loop.admission.matchesPending lease = true)
    (hfrees : FreesClean w (.abortPending t expectedClean exitStatus a))
    (haborted : PendingAborted w.loop lease expectedClean exitStatus a loop) :
    Orderly ⟨loop, leases, []⟩ := by
  have hphase := ((w.loop.admission.matchesPending_iff lease).mp hm).1
  cases haborted with
  | missing hfirst =>
    -- the transaction waits, so there is an entry, and it is the lease's
    obtain ⟨e, he⟩ := List.exists_mem_of_ne_nil _ (h.launched (by rw [ht]; nofun))
    obtain ⟨attemptId, generation, hentry⟩ := h.entry e he
    rw [hphase] at hentry
    injection hentry with _ hid
    have hmiss := Slot.first_eq_none hfirst e he
    rw [decide_eq_false_iff_not] at hmiss
    exact absurd hid.symm hmiss
  | unreaped slot hfirst =>
    intro _
    refine .of_pending_nil (h.swapRemove_nil hunique (Slot.first_eq_some hfirst).1) h.recorded ?_
    intro attemptId id generation hreserved
    rw [show w.loop.admission.phase = _ from hreserved] at hphase
    cases hphase
  | settled slot s' hfirst hfound hid hsettled =>
    exact settled h hunique hm hfound hid (hfrees lease slot hlease hm hfirst) hsettled

theorem started {lease : PendingLifecycleLease} {slot : Slot PendingWorkerLifecycle}
    {r : RunningRegistration} {a : RegistrationAnswers} (h : Accounted w)
    (hunique : PendingUnique w) (hm : w.loop.admission.matchesPending lease = true)
    (hfound : w.loop.pending = slot.all) (hid : r.workerId = lease.lifecycleId)
    (hstarted : StartedRunning { w.loop with pending := slot.swapRemove } slot.entry lease r a
      loop) : Orderly ⟨loop, leases, []⟩ := by
  intro _
  have hempty := h.swapRemove_nil hunique hfound
  have hphase := ((w.loop.admission.matchesPending_iff lease).mp hm).1
  have hoccupant := Accounted.occupant_of_phase hphase
  have hwrite := onLedgerRecord_transitionIn w.loop.ledger r.workerId "started" a.started
  -- whatever holds a record afterwards was the occupant before
  have hrecorded : ∀ id ∈ w.loop.history.admitted,
      ledgerHolds (transitionIn w.loop.ledger r.workerId "started" a.started).2 id →
      lease.lifecycleId = id := by
    intro id hmem hheld
    have := h.recorded_of_onRecord hwrite (by rw [hoccupant, hid]) id hmem hheld
    rw [hoccupant] at this
    exact Option.some.inj this
  cases hstarted with
  | unstarted hfailed =>
    refine .of_pending_nil hempty (fun id hmem hheld => ?_) ?_
    · rw [← hrecorded id hmem hheld]
      exact hoccupant
    · intro attemptId id generation hreserved
      rw [show w.loop.admission.phase = _ from hreserved] at hphase
      cases hphase
  | committed hok hbinding hstore =>
    refine .of_pending_nil hempty (fun id hmem hheld => ?_) nofun
    rw [← hrecorded id hmem hheld]
    rfl
  | running worker hadmission hrecord =>
    refine .of_pending_nil hempty (fun id hmem hheld => ?_) nofun
    rw [← hrecorded id hmem hheld]
    rfl

theorem registered {lease : PendingLifecycleLease} {r : RunningRegistration}
    {a : RegistrationAnswers} (h : Accounted w) (hunique : PendingUnique w)
    (hlease : r.transaction.pendingLease = some lease)
    (hm : w.loop.admission.matchesPending lease = true)
    (hfrees : FreesClean w (.registerRunning r a))
    (hregistered : RunningRegistered w.loop lease r a loop) : Orderly ⟨loop, leases, []⟩ := by
  cases hregistered with
  | mismatched hne =>
    exact fun _ => ⟨h.recorded, h.entry, h.spawned, h.reserved, fun ht => absurd rfl ht⟩
  | missing hid hfirst =>
    have hrefused : removalRefused lease.precommitRuntime a.removedPending := by
      by_contra hr
      exact hfrees lease hlease hm hid hr hfirst
    rw [cancel_pending_of_matches hm, if_pos hrefused]
    exact fun _ => ⟨h.recorded, h.entry, h.spawned, h.reserved, fun ht => absurd rfl ht⟩
  | rejected => exact of_ended rfl
  | started slot payload nonce s' hfirst hfound hid hstate hagrees hstarted =>
    have hworker := (registrable_iff (Slot.first_eq_some hfirst).2).1
    exact started h hunique hm hfound (hworker.symm.trans hid) hstarted

theorem step {lost : Bool} {a : SupervisorAction} (h : Orderly w) (hseated : Seated lost w)
    (hunique : PendingUnique w) (ha : Admits w a) (hfrees : FreesClean w a) :
    Orderly (w.step a) := by
  have hstep := stepped_step hseated ha
  generalize w.step a = w' at hstep
  cases hstep with
  | quiet a leases transactions hsub =>
    intro hopen
    have hw := h hopen
    refine ⟨hw.recorded, hw.entry, hw.spawned, hw.reserved, fun hne => hw.launched fun hnil => ?_⟩
    obtain ⟨t, ht⟩ := List.exists_mem_of_ne_nil _ hne
    have := hsub t ht
    rw [hnil] at this
    cases this
  | reserved id vt created leases hreservable =>
    exact fun hopen => (h hopen).step_reserved hreservable.phase hreservable.lifecycle
      (hfrees hreservable)
  | cancelled a lease removed leases hm =>
    intro hopen
    refine (h ?_).step_cancelled hm
    rw [← hopen]
    simp only [cancelAdmission, cancel_reserved_of_matches hm]
    split <;> rfl
  | launched lease worker removed leases transactions hm hvalid =>
    exact fun hopen => (h hopen).step_launched hm
  | recorded workerId workerPid nonce a loop hrec =>
    cases hrec with
    | same => exact h
    | prepared slot e ledger payload hupdate =>
      exact fun hopen => (h hopen).update hunique hupdate rfl rfl rfl
    | unrecorded slot e ledger payload vt hupdate =>
      exact fun hopen => (h hopen).update hunique hupdate rfl rfl rfl
    | refused slot e stage reason hupdate hid =>
      rcases Seated.quarantinePending_cases w.loop.admission workerId stage reason with
        ⟨-, hc⟩ | hc
      · rw [hc]
        exact of_ended rfl
      · rw [hc]
        exact fun hopen => (h hopen).update hunique hupdate rfl rfl rfl
  | moved a loop hmoved =>
    cases hmoved with
    | same => exact h
    | moved slot e ledger hupdate =>
      exact fun hopen => (h hopen).update hunique hupdate rfl rfl rfl
  | aborted t lease expectedClean exitStatus a loop ht hlease hm hl haborted =>
    exact aborted (h (by rw [hl]; rfl)) hunique ht hlease hm hfrees haborted
  | registered r lease a loop ht hlease hid hm hl hregistered =>
    exact registered (h (by rw [hl]; rfl)) hunique hlease hm hfrees hregistered
  | touched a loop htouched =>
    intro hopen
    refine (h ?_).step_touched htouched
    cases htouched <;> exact hopen
  | exited exit slot loop hslot hphase hl hexited =>
    cases hexited with
    | quarantined => exact of_ended rfl
    | finished ledger hledger hheld =>
      have hw := h (by rw [hl]; rfl)
      have hoccupant : w.loop.admission.occupant = some slot.entry.record.lifecycleId := by
        simp [SeatAdmissionController.occupant, hphase, hl]
      have hempty : w.loop.pending = [] := hw.pending_nil (by simp [hphase])
      have htransactions : w.transactions = [] := by
        by_contra hne
        exact hw.launched hne hempty
      rw [htransactions]
      refine fun _ => hw.of_finished hoccupant hempty rfl hledger fun hgone => ?_
      obtain ⟨hbefore, hunresolved⟩ := hheld hgone
      exact hfrees slot hslot hunresolved hbefore

end Orderly

/-- A seat that accepts a reservation has no entry, no worker and no record of its run. -/
def FreeMeansClean (w : SupervisorWorld) : Prop :=
  w.loop.admission.phase = .free → w.loop.admission.lifecycle = .free →
    w.loop.pending = [] ∧ w.loop.children = [] ∧
      ∀ id ∈ w.loop.history.admitted, ¬ledgerHolds w.loop.ledger id

theorem Orderly.freeMeansClean {lost : Bool} {w : SupervisorWorld} (h : Orderly w)
    (hseated : Seated lost w) : FreeMeansClean w := by
  intro hphase hlifecycle
  have hw := h (by rw [hlifecycle]; rfl)
  refine ⟨hw.pending_nil (by simp [hphase]), ?_, fun id hmem hheld => ?_⟩
  · by_contra hne
    obtain ⟨worker, hmem⟩ := List.exists_mem_of_ne_nil _ hne
    obtain ⟨-, -, hm, -⟩ := hseated.of_child hmem
    rw [((w.loop.admission.matchesRunning_iff _).mp hm).1] at hlifecycle
    cases hlifecycle
  · have hold := hw.recorded id hmem hheld
    simp [SeatAdmissionController.occupant, hphase, hlifecycle] at hold

/-- In every run whose steps free the seat only from what is gone, a free seat has nothing
outstanding in any state. -/
theorem free_seat_nothing_outstanding (processId : Nat)
    (ledger : Option PersistentRecoveryLedger) (precommitStore : Option PreCommitRuntimeMarks)
    (actions : List SupervisorAction)
    (h : StepsMeet SupervisorWorld.step (fun w a => Admits w a ∧ FreesClean w a)
      (.new processId ledger precommitStore) actions) (n : Nat) :
    FreeMeansClean ((actions.take n).foldl SupervisorWorld.step
      (.new processId ledger precommitStore)) := by
  have hinv := foldl_invariant (fun w => Placed w ∧ Orderly w) (fun w a hw ha => ?_)
    (actions.take n) (.new processId ledger precommitStore)
    ⟨.new processId ledger precommitStore, .new processId ledger precommitStore⟩
    (stepsMeet_take h n)
  · obtain ⟨⟨⟨lost, hseated⟩, -⟩, horderly⟩ := hinv
    exact horderly.freeMeansClean hseated
  · obtain ⟨⟨lost, hseated⟩, hunique⟩ := hw.1
    exact ⟨hw.1.step ha.1, hw.2.step hseated hunique ha.1 ha.2⟩

theorem exitedWorker_clean :
    FreeMeansClean (((sampleLogin ++ [sampleExit (.exited 0)]).take 6).foldl SupervisorWorld.step
      (.new 1 (some {}) none)) := by
  refine free_seat_nothing_outstanding 1 (some {}) none
    (sampleLogin ++ [sampleExit (.exited 0)]) ?_ 6
  refine ⟨⟨trivial, fun _ => ?_⟩, ⟨?_, trivial⟩, ⟨trivial, trivial⟩, ⟨trivial, trivial⟩,
    ⟨?_, fun lease hlease hm hid hr => ?_⟩, ⟨trivial, fun slot hslot hrec => ?_⟩, trivial⟩
  · rintro ⟨ledger, hledger, hheld⟩
    cases hledger
    rcases hheld with hheld | hheld <;> cases hheld
  · exact List.mem_singleton.mpr rfl
  · exact List.mem_singleton.mpr rfl
  · exact Option.some_ne_none _
  · cases hslot
    cases hrec

/-- The emergency recovery of a crashed worker frees the seat and keeps its record. -/
theorem crashedWorker_not_clean :
    StepsMeet SupervisorWorld.step Admits (.new 1 (some {}) none)
      (sampleLogin ++ [sampleExit (.signaled 9)]) ∧
    ¬FreeMeansClean ((sampleLogin ++ [sampleExit (.signaled 9)]).foldl SupervisorWorld.step
      (.new 1 (some {}) none)) := by
  constructor
  · refine ⟨trivial, ?_, trivial, trivial, ?_, trivial, trivial⟩
    · exact List.mem_singleton.mpr rfl
    · exact List.mem_singleton.mpr rfl
  · intro h
    obtain ⟨-, -, hgone⟩ := h rfl rfl
    exact hgone "worker-a" (List.mem_singleton.mpr rfl) ⟨_, rfl, Or.inl rfl⟩

end Niralis
