import Niralis.Runs
import Niralis.SupervisorOutcomes

namespace Niralis

/-- `leases` are with login transactions that have not launched yet, `transactions` with launches
that wait for their worker. -/
structure SupervisorWorld where
  loop : SupervisorLoopState
  leases : List AdmissionLease := []
  transactions : List PendingLaunchTransaction := []

/-- A message with everything the callee's surroundings answer to it. A `workerExited` is one visit
of the reaping loop. -/
inductive SupervisorAction
  | reserveSeat (lifecycleId : String) (previousVt : Option PreviousVtIdentity)
      (created : Option PreCommitRuntimeBinding)
  | updatePrecommitRuntime (lease : AdmissionLease) (answer : Except Unit PreCommitRuntimeBinding)
  | cancelAdmission (lease : AdmissionLease) (removed : Bool)
  | beginPending (lease : AdmissionLease) (worker : SpawnedWorker) (removed : Bool)
  | recordPreparedScope (workerId : String) (workerPid : Nat) (nonce : String)
      (answers : PreparedScopeAnswers)
  | markPayloadRegistered (workerId : String) (workerPid : Nat) (answer : WriteAnswer)
  | beginRelease (request : ReleaseRequest)
  | completeRelease (token : ReleaseToken) (verification : ScopeReleaseVerification)
      (answer : WriteAnswer)
  | abortPending (transaction : PendingLaunchTransaction) (expectedClean : Bool)
      (workerExitStatus : Option ExitStatus) (answers : AbortAnswers)
  | registerRunning (registration : RunningRegistration) (answers : RegistrationAnswers)
  | terminalVtIntent (workerId : String) (workerPid : Nat) (nonce : String)
      (identity : PayloadScopeIdentity) (answer : WriteAnswer)
  | terminalVtResult (workerId : String) (workerPid : Nat) (nonce : String) (attemptId : Nat)
      (result : TerminalVtCleanupResult) (answer : WriteAnswer)
  | workerExited (exit : SupervisorLoopState.Exit)

namespace SupervisorWorld
open SupervisorLoopState

def new (processId : Nat) (ledger : Option PersistentRecoveryLedger)
    (precommitStore : Option PreCommitRuntimeMarks) : SupervisorWorld where
  loop := .new processId ledger precommitStore

def step (w : SupervisorWorld) : SupervisorAction → SupervisorWorld
  | .reserveSeat lifecycleId previousVt created =>
    match w.loop.reserveSeat lifecycleId previousVt created with
    | (.ok lease, loop) => { w with loop, leases := lease :: w.leases }
    | (.error _, loop) => { w with loop }
  | .updatePrecommitRuntime lease answer =>
    { w with leases := (lease.updatePrecommitRuntime answer).2 :: w.leases.erase lease }
  | .cancelAdmission lease removed =>
    { w with loop := (w.loop.cancelAdmission lease removed).2, leases := w.leases.erase lease }
  | .beginPending lease worker removed =>
    match w.loop.beginPending lease worker removed with
    | (.ok pending, loop) =>
      { loop
        leases := w.leases.erase lease
        transactions :=
          { lifecycleId := pending.lifecycleId, pendingLease := some pending } :: w.transactions }
    | (.error _, loop) => { w with loop, leases := w.leases.erase lease }
  | .recordPreparedScope workerId workerPid nonce answers =>
    { w with loop := (w.loop.recordPreparedScope workerId workerPid nonce answers).2 }
  | .markPayloadRegistered workerId workerPid answer =>
    { w with loop := (w.loop.markPayloadRegistered workerId workerPid answer).2 }
  | .beginRelease request => { w with loop := (w.loop.beginRelease request).2 }
  | .completeRelease token verification answer =>
    { w with loop := (w.loop.completeRelease token verification answer).2 }
  | .abortPending transaction expectedClean workerExitStatus answers =>
    { w with
      loop := match transaction.pendingLease with
        | none => w.loop
        | some lease => (w.loop.abortPending lease expectedClean workerExitStatus answers).2
      transactions := w.transactions.erase transaction }
  | .registerRunning registration answers =>
    { w with
      loop := (w.loop.registerRunning registration answers).2
      transactions := w.transactions.erase registration.transaction }
  | .terminalVtIntent workerId workerPid nonce identity answer =>
    { w with loop := (w.loop.acceptTerminalVtIntent workerId workerPid nonce identity answer).2 }
  | .terminalVtResult workerId workerPid nonce attemptId result answer =>
    { w with
      loop := (w.loop.acceptTerminalVtResult workerId workerPid nonce attemptId result answer).2 }
  | .workerExited exit => { w with loop := w.loop.visit exit }

def Admits (w : SupervisorWorld) : SupervisorAction → Prop
  | .updatePrecommitRuntime lease _ => lease ∈ w.leases
  | .cancelAdmission lease _ => lease ∈ w.leases
  | .beginPending lease _ _ => lease ∈ w.leases
  | .abortPending transaction _ _ _ => transaction ∈ w.transactions
  | .registerRunning registration _ => registration.transaction ∈ w.transactions
  | _ => True

end SupervisorWorld

def SeatLifecycle.ended : SeatLifecycle → Bool
  | recovering _ _ _ => true
  | quarantined _ _ _ => true
  | _ => false

open SupervisorLoopState in
/-- Where the seat stands and who can move it on. The flag says that nobody can. -/
inductive Seated : Bool → SupervisorWorld → Prop
  | idle {w : SupervisorWorld} (hphase : w.loop.admission.phase = .free)
    (hlifecycle : w.loop.admission.lifecycle = .free) (hleases : w.leases = [])
    (htransactions : w.transactions = []) (hchildren : w.loop.children = []) : Seated false w
  | reserved {w : SupervisorWorld} (lease : AdmissionLease)
    (hm : w.loop.admission.matchesReserved lease = true)
    (hlifecycle : w.loop.admission.lifecycle = .free)
    (hclear : w.loop.recoveryAdmissionState "seat0" = .clear) (hleases : w.leases = [lease])
    (htransactions : w.transactions = []) (hchildren : w.loop.children = []) : Seated false w
  | pending {w : SupervisorWorld} (t : PendingLaunchTransaction) (lease : PendingLifecycleLease)
    (hm : w.loop.admission.matchesPending lease = true)
    (hlifecycle : w.loop.admission.lifecycle = .free)
    (hclear : w.loop.recoveryAdmissionState "seat0" = .clear) (hleases : w.leases = [])
    (htransactions : w.transactions = [t]) (hlease : t.pendingLease = some lease)
    (hid : t.lifecycleId = lease.lifecycleId) (hprepared : t.phase = .prepared)
    (hchildren : w.loop.children = []) : Seated false w
  | active {w : SupervisorWorld} (worker : SupervisedWorker)
    (hphase : w.loop.admission.phase = .free)
    (hm : w.loop.admission.matchesRunning worker.admission = true)
    (hid : worker.admission.lifecycleId = worker.record.lifecycleId) (hleases : w.leases = [])
    (htransactions : w.transactions = []) (hchildren : w.loop.children = [worker]) :
    Seated false w
  | ended {w : SupervisorWorld} (hphase : w.loop.admission.phase = .free)
    (hlifecycle : w.loop.admission.lifecycle.ended = true) (hleases : w.leases = [])
    (hstale : ∀ t ∈ w.transactions, ∀ e ∈ w.loop.pending,
      e.record.lifecycleId = t.lifecycleId → e.terminalBeforeStarted = true)
    (hchildren : w.loop.children = []) : Seated false w
  | lost {w : SupervisorWorld} (hphase : w.loop.admission.phase ≠ .free)
    (hlifecycle : w.loop.admission.lifecycle = .free) (hleases : w.leases = [])
    (htransactions : w.transactions = []) (hchildren : w.loop.children = []) : Seated true w

/-- No two pending entries are for the same lifecycle. -/
def PendingUnique (w : SupervisorWorld) : Prop :=
  (w.loop.pending.map (·.record.lifecycleId)).Nodup

namespace Seated
open SupervisorLoopState SupervisorWorld
variable {lost : Bool} {w : SupervisorWorld}

theorem new (processId : Nat) (ledger : Option PersistentRecoveryLedger)
    (precommitStore : Option PreCommitRuntimeMarks) :
    Seated false (.new processId ledger precommitStore) := by
  cases h : (SupervisorLoopState.new processId ledger precommitStore).admission.lifecycle with
  | free => exact .idle rfl h rfl rfl rfl
  | quarantined id stage reason => exact .ended rfl (by rw [SupervisorWorld.new, h]; rfl) rfl nofun rfl
  | active id =>
    simp only [SupervisorLoopState.new, SeatAdmissionController.new] at h
    split at h
    · cases h
    · split at h <;> cases h
  | recovering id phase reason =>
    simp only [SupervisorLoopState.new, SeatAdmissionController.new] at h
    split at h
    · cases h
    · split at h <;> cases h

/-- The seat does not notice what leaves its controller, its holders and its workers alone. -/
theorem congr {w' : SupervisorWorld} {id : String} (h : Seated lost w)
    (hadmission : w'.loop.admission = w.loop.admission) (hleases : w'.leases = w.leases)
    (htransactions : w'.transactions = w.transactions)
    (hchildren : w'.loop.children = w.loop.children)
    (hledger : OnLedgerRecord id w.loop.ledger w'.loop.ledger)
    (hstore : w'.loop.precommitStore = w.loop.precommitStore)
    (hpending : ∀ e' ∈ w'.loop.pending, ∃ e ∈ w.loop.pending,
      e'.record.lifecycleId = e.record.lifecycleId ∧
        (e.terminalBeforeStarted = true → e'.terminalBeforeStarted = true)) : Seated lost w' := by
  have hrecovery := recoveryAdmissionState_congr "seat0" hledger hstore
  cases h with
  | idle hp hl hle ht hc =>
    exact .idle (hadmission ▸ hp) (hadmission ▸ hl) (hleases ▸ hle) (htransactions ▸ ht)
      (hchildren ▸ hc)
  | reserved lease hm hl hclear hle ht hc =>
    exact .reserved lease (hadmission ▸ hm) (hadmission ▸ hl) (hrecovery ▸ hclear) (hleases ▸ hle)
      (htransactions ▸ ht) (hchildren ▸ hc)
  | pending t lease hm hl hclear hle ht hlease hid hprepared hc =>
    exact .pending t lease (hadmission ▸ hm) (hadmission ▸ hl) (hrecovery ▸ hclear)
      (hleases ▸ hle) (htransactions ▸ ht) hlease hid hprepared (hchildren ▸ hc)
  | active worker hp hm hid hle ht hc =>
    exact .active worker (hadmission ▸ hp) (hadmission ▸ hm) hid (hleases ▸ hle)
      (htransactions ▸ ht) (hchildren ▸ hc)
  | ended hp hl hle hstale hc =>
    refine .ended (hadmission ▸ hp) (hadmission ▸ hl) (hleases ▸ hle) ?_ (hchildren ▸ hc)
    intro t ht e' he' hid
    obtain ⟨e, he, hsame, hterminal⟩ := hpending e' he'
    exact hterminal (hstale t (htransactions ▸ ht) e he (hsame.symm.trans hid))
  | lost hp hl hle ht hc =>
    exact .lost (hadmission ▸ hp) (hadmission ▸ hl) (hleases ▸ hle) (htransactions ▸ ht)
      (hchildren ▸ hc)

theorem of_lease {lease : AdmissionLease} (h : Seated lost w) (hmem : lease ∈ w.leases) :
    lost = false ∧ w.loop.admission.matchesReserved lease = true ∧
      w.loop.admission.lifecycle = .free ∧ w.loop.recoveryAdmissionState "seat0" = .clear ∧
      w.leases = [lease] ∧ w.transactions = [] ∧ w.loop.children = [] := by
  cases h with
  | reserved lease' hm hl hclear hle ht hc =>
    rw [hle, List.mem_singleton] at hmem
    subst hmem
    exact ⟨rfl, hm, hl, hclear, hle, ht, hc⟩
  | idle hp hl hle ht hc => simp [hle] at hmem
  | pending t lease hm hl hclear hle ht hlease hid hprepared hc => simp [hle] at hmem
  | active worker hp hm hid hle ht hc => simp [hle] at hmem
  | ended hp hl hle hstale hc => simp [hle] at hmem
  | lost hp hl hle ht hc => simp [hle] at hmem

/-- A launch is refused and its lease cancelled, or it becomes a pending transaction. -/
theorem step_beginPending {lease : AdmissionLease} (h : Seated lost w) (hmem : lease ∈ w.leases)
    (worker : SpawnedWorker) (removed : Bool) :
    w.step (.beginPending lease worker removed) =
      if launchInvalid w.loop lease worker = true then
        { w with loop := (w.loop.cancelAdmission lease removed).2, leases := w.leases.erase lease }
      else
        { loop := w.loop.launched lease worker
          leases := w.leases.erase lease
          transactions := { lifecycleId := lease.lifecycleId
                            pendingLease := some (promotedLease lease) } :: w.transactions } := by
  obtain ⟨-, hm, -, hclear, -⟩ := h.of_lease hmem
  simp only [step, beginPending_of_matches hm hclear]
  by_cases hinvalid : launchInvalid w.loop lease worker = true
  · rw [if_pos hinvalid, if_pos hinvalid]
  · rw [if_neg hinvalid, if_neg hinvalid]
    rfl

/-- A launch that waits for its worker has the seat, or lost it to a quarantine. -/
theorem of_transaction {t : PendingLaunchTransaction} (h : Seated lost w)
    (hmem : t ∈ w.transactions) :
    lost = false ∧ w.leases = [] ∧ w.loop.children = [] ∧
    ((∃ lease, w.loop.admission.matchesPending lease = true ∧
      w.loop.admission.lifecycle = .free ∧ w.loop.recoveryAdmissionState "seat0" = .clear ∧
      w.transactions = [t] ∧ t.pendingLease = some lease ∧ t.lifecycleId = lease.lifecycleId ∧
      t.phase = .prepared) ∨
    (w.loop.admission.phase = .free ∧ w.loop.admission.lifecycle.ended = true ∧
      ∀ e ∈ w.loop.pending, e.record.lifecycleId = t.lifecycleId →
        e.terminalBeforeStarted = true)) := by
  cases h with
  | pending t' lease hm hl hclear hle ht hlease hid hprepared hc =>
    rw [ht, List.mem_singleton] at hmem
    subst hmem
    exact ⟨rfl, hle, hc, Or.inl ⟨lease, hm, hl, hclear, ht, hlease, hid, hprepared⟩⟩
  | ended hp hl hle hstale hc => exact ⟨rfl, hle, hc, Or.inr ⟨hp, hl, hstale t hmem⟩⟩
  | reserved lease' hm hl hclear hle ht hc => simp [ht] at hmem
  | idle hp hl hle ht hc => simp [ht] at hmem
  | active worker hp hm hid hle ht hc => simp [ht] at hmem
  | lost hp hl hle ht hc => simp [ht] at hmem

theorem of_child {worker : SupervisedWorker} (h : Seated lost w)
    (hmem : worker ∈ w.loop.children) :
    lost = false ∧ w.loop.admission.phase = .free ∧
      w.loop.admission.matchesRunning worker.admission = true ∧
      worker.admission.lifecycleId = worker.record.lifecycleId ∧ w.leases = [] ∧
      w.transactions = [] ∧ w.loop.children = [worker] := by
  cases h with
  | active worker' hp hm hid hle ht hc =>
    rw [hc, List.mem_singleton] at hmem
    subst hmem
    exact ⟨rfl, hp, hm, hid, hle, ht, hc⟩
  | pending t' lease hm hl hclear hle ht hlease hid hprepared hc => simp [hc] at hmem
  | ended hp hl hle hstale hc => simp [hc] at hmem
  | reserved lease' hm hl hclear hle ht hc => simp [hc] at hmem
  | idle hp hl hle ht hc => simp [hc] at hmem
  | lost hp hl hle ht hc => simp [hc] at hmem

/-- The seat of an aborted launch is quarantined already, so that its lease is refused. -/
theorem step_abortPending_of_stale {t : PendingLaunchTransaction} (expectedClean : Bool)
    (exitStatus : Option ExitStatus) (a : AbortAnswers)
    (hphase : w.loop.admission.phase = .free) :
    w.step (.abortPending t expectedClean exitStatus a) =
      { w with transactions := w.transactions.erase t } := by
  simp only [step]
  cases t.pendingLease with
  | none => rfl
  | some lease =>
    have hm : w.loop.admission.matchesPending lease = false := by
      simp [SeatAdmissionController.matchesPending, hphase]
    dsimp only
    rw [abortPending_of_not_matches hm]

theorem step_registerRunning_of_stale {r : RunningRegistration} (a : RegistrationAnswers)
    (hphase : w.loop.admission.phase = .free)
    (hstale : ∀ e ∈ w.loop.pending, e.record.lifecycleId = r.transaction.lifecycleId →
      e.terminalBeforeStarted = true) :
    w.step (.registerRunning r a) =
      { w with transactions := w.transactions.erase r.transaction } := by
  simp only [step, registerRunning_of_stale hphase hstale]

theorem erase_stale {t : PendingLaunchTransaction} (h : Seated lost w)
    (hended : w.loop.admission.lifecycle.ended = true) :
    Seated false { w with transactions := w.transactions.erase t } := by
  cases h with
  | ended hp hl hle hstale hc =>
    exact .ended hp hl hle (fun t' ht' => hstale t' (List.mem_of_mem_erase ht')) hc
  | active worker hp hm =>
    rw [((w.loop.admission.matchesRunning_iff _).mp hm).1] at hended
    cases hended
  | idle hp hl => rw [hl] at hended; cases hended
  | reserved lease hm hl => rw [hl] at hended; cases hended
  | pending t lease hm hl => rw [hl] at hended; cases hended
  | lost hp hl => rw [hl] at hended; cases hended

end Seated

section Steps
open SupervisorLoopState SupervisorWorld

/-- Everything a message of a caller can do to the world. -/
inductive Stepped (w : SupervisorWorld) : SupervisorAction → SupervisorWorld → Prop
  | quiet (a : SupervisorAction) (leases : List AdmissionLease)
    (transactions : List PendingLaunchTransaction)
    (hsub : ∀ t ∈ transactions, t ∈ w.transactions) :
    Stepped w a { w with leases, transactions }
  | reserved (id : String) (previousVt : Option PreviousVtIdentity)
    (created : Option PreCommitRuntimeBinding) (leases : List AdmissionLease)
    (hreservable : Reservable w.loop id previousVt) :
    Stepped w (.reserveSeat id previousVt created) { w with
      loop := { w.loop with
        admission := reservedFor w.loop.admission id
        history.admitted := id :: w.loop.history.admitted }
      leases }
  | cancelled (a : SupervisorAction) (lease : AdmissionLease) (removed : Bool)
    (leases : List AdmissionLease) (hm : w.loop.admission.matchesReserved lease = true) :
    Stepped w a { w with loop := (w.loop.cancelAdmission lease removed).2, leases }
  | launched (lease : AdmissionLease) (worker : SpawnedWorker) (removed : Bool)
    (leases : List AdmissionLease) (transactions : List PendingLaunchTransaction)
    (hm : w.loop.admission.matchesReserved lease = true)
    (hvalid : launchInvalid w.loop lease worker = false) :
    Stepped w (.beginPending lease worker removed)
      { loop := w.loop.launched lease worker, leases, transactions }
  | recorded (workerId : String) (workerPid : Nat) (nonce : String) (a : PreparedScopeAnswers)
    (loop : SupervisorLoopState) (h : ScopeRecorded w.loop workerId workerPid nonce a loop) :
    Stepped w (.recordPreparedScope workerId workerPid nonce a) { w with loop }
  | moved (a : SupervisorAction) (loop : SupervisorLoopState) (h : PendingMoved w.loop loop) :
    Stepped w a { w with loop }
  | aborted (t : PendingLaunchTransaction) (lease : PendingLifecycleLease) (expectedClean : Bool)
    (exitStatus : Option ExitStatus) (a : AbortAnswers) (loop : SupervisorLoopState)
    (htransactions : w.transactions = [t]) (hlease : t.pendingLease = some lease)
    (hm : w.loop.admission.matchesPending lease = true)
    (hlifecycle : w.loop.admission.lifecycle = .free)
    (h : PendingAborted w.loop lease expectedClean exitStatus a loop) :
    Stepped w (.abortPending t expectedClean exitStatus a) { w with loop, transactions := [] }
  | registered (r : RunningRegistration) (lease : PendingLifecycleLease)
    (a : RegistrationAnswers) (loop : SupervisorLoopState)
    (htransactions : w.transactions = [r.transaction])
    (hlease : r.transaction.pendingLease = some lease)
    (hid : r.transaction.lifecycleId = lease.lifecycleId)
    (hm : w.loop.admission.matchesPending lease = true)
    (hlifecycle : w.loop.admission.lifecycle = .free)
    (h : RunningRegistered w.loop lease r a loop) :
    Stepped w (.registerRunning r a) { w with loop, transactions := [] }
  | touched (a : SupervisorAction) (loop : SupervisorLoopState)
    (h : WorkerTouched w.loop loop) : Stepped w a { w with loop }
  | exited (exit : Exit) (slot : Slot SupervisedWorker) (loop : SupervisorLoopState)
    (hslot : Slot.nth exit.index w.loop.children = some slot)
    (hphase : w.loop.admission.phase = .free)
    (hlifecycle : w.loop.admission.lifecycle = .active slot.entry.record.lifecycleId)
    (h : ExitedWorker { w.loop with children := slot.swapRemove } slot.entry exit.status
      exit.answers loop) : Stepped w (.workerExited exit) { w with loop }

variable {lost : Bool} {w : SupervisorWorld}

theorem stepped_reserveSeat (id : String) (previousVt : Option PreviousVtIdentity)
    (created : Option PreCommitRuntimeBinding) :
    Stepped w (.reserveSeat id previousVt created)
      (w.step (.reserveSeat id previousVt created)) := by
  simp only [step]
  have hres := reserved_reserveSeat w.loop id previousVt created
  generalize w.loop.reserveSeat id previousVt created = result at hres ⊢
  cases hres with
  | refused e => exact .quiet _ w.leases w.transactions fun t ht => ht
  | reserved lease hreservable => exact .reserved id previousVt created _ hreservable
  | lost e hreservable => exact .reserved id previousVt created _ hreservable

theorem stepped_beginPending (h : Seated lost w) {lease : AdmissionLease}
    (hmem : lease ∈ w.leases) (worker : SpawnedWorker) (removed : Bool) :
    Stepped w (.beginPending lease worker removed)
      (w.step (.beginPending lease worker removed)) := by
  obtain ⟨-, hm, -⟩ := h.of_lease hmem
  rw [h.step_beginPending hmem]
  split
  next => exact .cancelled _ lease removed _ hm
  next hvalid => exact .launched lease worker removed _ _ hm (by simpa using hvalid)

theorem stepped_abortPending (h : Seated lost w) {t : PendingLaunchTransaction}
    (hmem : t ∈ w.transactions) (expectedClean : Bool) (exitStatus : Option ExitStatus)
    (a : AbortAnswers) :
    Stepped w (.abortPending t expectedClean exitStatus a)
      (w.step (.abortPending t expectedClean exitStatus a)) := by
  obtain ⟨-, -, -, ⟨lease, hm, hl, -, ht, hlease, -⟩ | ⟨hp, -, -⟩⟩ := h.of_transaction hmem
  · have hnone : w.transactions.erase t = [] := by simp [ht]
    simp only [step, hlease, hnone]
    exact .aborted t lease expectedClean exitStatus a _ ht hlease hm hl (aborted_abortPending hm)
  · rw [Seated.step_abortPending_of_stale expectedClean exitStatus a hp]
    exact .quiet _ w.leases _ fun t' ht' => List.mem_of_mem_erase ht'

theorem stepped_registerRunning (h : Seated lost w) {r : RunningRegistration}
    (hmem : r.transaction ∈ w.transactions) (a : RegistrationAnswers) :
    Stepped w (.registerRunning r a) (w.step (.registerRunning r a)) := by
  obtain ⟨-, -, -, ⟨lease, hm, hl, hclear, ht, hlease, hid, hprepared⟩ | ⟨hp, -, hstale⟩⟩ :=
    h.of_transaction hmem
  · have hnone : w.transactions.erase r.transaction = [] := by simp [ht]
    simp only [step, hnone]
    exact .registered r lease a _ ht hlease hid hm hl
      (registered_registerRunning hm hclear hprepared hlease hid)
  · rw [Seated.step_registerRunning_of_stale a hp hstale]
    exact .quiet _ w.leases _ fun t' ht' => List.mem_of_mem_erase ht'

theorem stepped_workerExited (h : Seated lost w) (exit : Exit) :
    Stepped w (.workerExited exit) (w.step (.workerExited exit)) := by
  simp only [step, visit]
  split
  next => exact .quiet _ w.leases w.transactions fun t ht => ht
  next slot hslot =>
    have hentry : slot.entry ∈ w.loop.children := by
      rw [Slot.nth_eq_some hslot]
      exact Slot.mem_all.mpr (Or.inl rfl)
    obtain ⟨-, hp, hm, hid, -⟩ := h.of_child hentry
    have hlifecycle := ((w.loop.admission.matchesRunning_iff _).mp hm).1
    rw [hid] at hlifecycle
    exact .exited exit slot _ hslot hp hlifecycle (exited_finishExitedWorker hp hm hid)

theorem stepped_step {a : SupervisorAction} (h : Seated lost w) (ha : Admits w a) :
    Stepped w a (w.step a) := by
  cases a with
  | reserveSeat id previousVt created => exact stepped_reserveSeat id previousVt created
  | updatePrecommitRuntime lease answer => exact .quiet _ _ w.transactions fun t ht => ht
  | cancelAdmission lease removed => exact .cancelled _ lease removed _ (h.of_lease ha).2.1
  | beginPending lease worker removed => exact stepped_beginPending h ha worker removed
  | recordPreparedScope workerId workerPid nonce a =>
    exact .recorded workerId workerPid nonce a _
      (recorded_recordPreparedScope w.loop workerId workerPid nonce a)
  | markPayloadRegistered workerId workerPid answer =>
    exact .moved _ _ (moved_markPayloadRegistered w.loop workerId workerPid answer)
  | beginRelease request => exact .moved _ _ (moved_beginRelease w.loop request)
  | completeRelease token verification answer =>
    exact .moved _ _ (moved_completeRelease w.loop token verification answer)
  | abortPending t expectedClean exitStatus a =>
    exact stepped_abortPending h ha expectedClean exitStatus a
  | registerRunning r a => exact stepped_registerRunning h ha a
  | terminalVtIntent workerId workerPid nonce identity answer =>
    exact .touched _ _
      (touched_acceptTerminalVtIntent w.loop workerId workerPid nonce identity answer)
  | terminalVtResult workerId workerPid nonce attemptId result answer =>
    exact .touched _ _
      (touched_acceptTerminalVtResult w.loop workerId workerPid nonce attemptId result answer)
  | workerExited exit => exact stepped_workerExited h exit

section Unique
variable {loop : SupervisorLoopState} {leases : List AdmissionLease}
  {transactions : List PendingLaunchTransaction}

theorem PendingUnique.of_eq (h : PendingUnique w) (heq : loop.pending = w.loop.pending) :
    PendingUnique ⟨loop, leases, transactions⟩ := by
  unfold PendingUnique at h ⊢
  rwa [heq]

theorem PendingUnique.put {slot : Slot PendingWorkerLifecycle} {e : PendingWorkerLifecycle}
    {ledger : Option PersistentRecoveryLedger} (h : PendingUnique w)
    (hupdate : EntryUpdate w.loop slot e ledger) (heq : loop.pending = slot.put e) :
    PendingUnique ⟨loop, leases, transactions⟩ := by
  unfold PendingUnique at h ⊢
  rwa [heq, Slot.map_put hupdate.lifecycleId, ← hupdate.found]

theorem PendingUnique.swapRemove {slot : Slot PendingWorkerLifecycle} (h : PendingUnique w)
    (hfound : w.loop.pending = slot.all) (heq : loop.pending = slot.swapRemove) :
    PendingUnique ⟨loop, leases, transactions⟩ := by
  unfold PendingUnique at h ⊢
  rw [hfound] at h
  rw [heq]
  exact Slot.nodup_swapRemove h

theorem pendingUnique_launched {lease : AdmissionLease} {worker : SpawnedWorker}
    (h : PendingUnique w) (hvalid : launchInvalid w.loop lease worker = false) :
    PendingUnique ⟨w.loop.launched lease worker, leases, transactions⟩ := by
  unfold PendingUnique at h ⊢
  rw [SupervisorLoopState.launched, List.map_append, List.nodup_append]
  refine ⟨h, by simp, fun id hid id' hid' => ?_⟩
  rw [List.map_singleton, List.mem_singleton] at hid'
  obtain ⟨e, he, rfl⟩ := List.mem_map.mp hid
  simp only [launchInvalid, Bool.or_eq_false_iff, List.any_eq_false, decide_eq_true_eq] at hvalid
  rw [hid']
  exact hvalid.2 e he

theorem pending_settled {s s' : SupervisorLoopState} {lease : PendingLifecycleLease}
    {entry : PendingWorkerLifecycle} {expectedClean : Bool} {a : AbortAnswers}
    (h : SettledPending s lease entry expectedClean a s') : s'.pending = s.pending := by
  cases h with
  | cleaned hclean =>
    rw [releaseSeat_pending]
    rfl
  | recovered ledger hledger hheld => rfl
  | unresolved ledger phase reason => rfl
  | quarantined ledger record stage reason => rfl

theorem PendingUnique.step {w' : SupervisorWorld} {a : SupervisorAction} (h : PendingUnique w)
    (hstep : Stepped w a w') : PendingUnique w' := by
  cases hstep with
  | quiet | reserved | cancelled => exact h.of_eq rfl
  | launched lease worker removed leases transactions hm hvalid =>
    exact pendingUnique_launched h hvalid
  | recorded workerId workerPid nonce a loop hrec =>
    cases hrec with
    | same => exact h
    | prepared slot e ledger payload hupdate => exact h.put hupdate rfl
    | unrecorded slot e ledger payload vt hupdate => exact h.put hupdate rfl
    | refused slot e stage reason hupdate => exact h.put hupdate rfl
  | moved a loop hmoved =>
    cases hmoved with
    | same => exact h
    | moved slot e ledger hupdate => exact h.put hupdate rfl
  | aborted t lease expectedClean exitStatus a loop ht hlease hm hl haborted =>
    cases haborted with
    | missing hfirst => exact h.of_eq rfl
    | unreaped slot hfirst => exact h.swapRemove (Slot.first_eq_some hfirst).1 rfl
    | settled slot s' hfirst hfound hid hsettled =>
      exact h.swapRemove hfound (pending_settled hsettled)
  | registered r lease a loop ht hlease hid hm hl hregistered =>
    cases hregistered with
    | mismatched | missing => exact h.of_eq rfl
    | rejected slot record stage reason hfound => exact h.swapRemove hfound rfl
    | started slot payload nonce s' hfirst hfound hid hstate hagrees hstarted =>
      cases hstarted with
      | unstarted | committed | running => exact h.swapRemove hfound rfl
  | touched a loop htouched =>
    cases htouched with
    | same | written | flagged => exact h.of_eq rfl
  | exited exit slot loop hslot hp hl hexited =>
    cases hexited with
    | finished | quarantined => exact h.of_eq rfl

end Unique

end Steps

def samplePayload : SupervisorPreparedPayload where
  identity := ⟨"niralis-payload-0a.scope", "0123456789abcdef0123456789abcdef", 1000, "c1"⟩
  leaderPid := 4712
  logind := ⟨"c1", "/session/c1", 1000, 4712, "seat0", 2⟩
  vt := ⟨"seat0", 2, ⟨1⟩, 4, 2⟩

/-- A login from its reservation to the running table, without a precommit store. -/
def sampleLogin : List SupervisorAction :=
  [.reserveSeat "worker-a" (some ⟨1⟩) none,
   .beginPending ⟨"seat0", 1, "worker-a", 1, ⟨1⟩, none⟩ ⟨4711, 1, 4711, ⟨"alice", "plasma"⟩⟩ true,
   .recordPreparedScope "worker-a" 4711 "nonce"
    { preparePayload := .ok samplePayload, bootId := some "boot" },
   .markPayloadRegistered "worker-a" 4711 ⟨some "boot", .synced⟩,
   .registerRunning
    { transaction := ⟨"worker-a", .prepared, some ⟨"seat0", 1, "worker-a", 1, none⟩⟩
      runtimeId := "runtime-a", sessionPid := 4712, workerId := "worker-a", logindSessionId := "c1"
      payloadScope := samplePayload.identity, registrationNonce := "nonce" }
    { started := ⟨some "boot", .synced⟩, handoff := .error () }]

/-- The worker exits, and every write about it succeeds. -/
def sampleExit (status : ExitStatus) : SupervisorAction :=
  .workerExited ⟨0, status, { resolve := ⟨⟨some "boot", .synced⟩, .synced⟩
                              exited := ⟨some "boot", .synced⟩
                              busy := ⟨some "boot", .synced⟩ }⟩

end Niralis
