import Niralis.SupervisorLoop

namespace Niralis

/-- An operation on one record of a ledger that may be missing. -/
def OnLedgerRecord (id : String) :
    Option PersistentRecoveryLedger → Option PersistentRecoveryLedger → Prop
  | none, none => True
  | some l, some l' => l.OnRecord id l'
  | _, _ => False

theorem OnLedgerRecord.refl (id : String) (l : Option PersistentRecoveryLedger) :
    OnLedgerRecord id l l := by
  cases l with
  | none => trivial
  | some l => exact PersistentRecoveryLedger.OnRecord.refl id l

theorem OnLedgerRecord.trans {id : String} {l l' l'' : Option PersistentRecoveryLedger}
    (h : OnLedgerRecord id l l') (h' : OnLedgerRecord id l' l'') : OnLedgerRecord id l l'' := by
  cases l with
  | none =>
    cases l' with
    | none => exact h'
    | some l' => cases h
  | some l =>
    cases l' with
    | none => cases h
    | some l' =>
      cases l'' with
      | none => cases h'
      | some l'' => exact PersistentRecoveryLedger.OnRecord.trans h h'

/-- A record for the lifecycle is in the ledger's memory or on its disk. -/
def ledgerHolds (l : Option PersistentRecoveryLedger) (id : String) : Prop :=
  ∃ ledger, l = some ledger ∧ ledger.holds id

theorem OnLedgerRecord.holds_iff {id id' : String} {l l' : Option PersistentRecoveryLedger}
    (h : OnLedgerRecord id l l') (hne : id' ≠ id) : ledgerHolds l' id' ↔ ledgerHolds l id' := by
  cases l with
  | none =>
    cases l' with
    | none => exact Iff.rfl
    | some l' => cases h
  | some l =>
    cases l' with
    | none => cases h
    | some l' => simpa [ledgerHolds] using PersistentRecoveryLedger.OnRecord.holds_iff h hne

section Durable
variable (l : Option PersistentRecoveryLedger)

theorem onLedgerRecord_onLedger {id : String}
    {f : PersistentRecoveryLedger → Bool × PersistentRecoveryLedger}
    (hf : ∀ l : PersistentRecoveryLedger, l.OnRecord id (f l).2) :
    OnLedgerRecord id l (onLedger l f).2 := by
  cases l with
  | none => trivial
  | some l => exact hf l

theorem onLedgerRecord_transitionIn (id state : String) (answer : WriteAnswer) :
    OnLedgerRecord id l (transitionIn l id state answer).2 :=
  onLedgerRecord_onLedger l fun l => l.onRecord_write id _ answer

theorem onLedgerRecord_resolveIn (id : String) (answer : ResolveAnswers) :
    OnLedgerRecord id l (resolveIn l id answer).2 :=
  onLedgerRecord_onLedger l fun l => l.onRecord_resolveAndRemove id _ _

theorem onLedgerRecord_createIn (r : PersistentRecoveryRecord) (answer : CommitAnswer) :
    OnLedgerRecord r.lifecycleId l (createIn l r answer).2 :=
  onLedgerRecord_onLedger l fun l => l.onRecord_create r answer

theorem ledgerHolds_transitionIn (id state : String) (answer : WriteAnswer) :
    ledgerHolds (transitionIn l id state answer).2 id ↔ ledgerHolds l id := by
  cases l with
  | none => exact Iff.rfl
  | some l =>
    simpa [ledgerHolds, transitionIn, onLedger, PersistentRecoveryLedger.transition] using
      l.holds_write id (.transition state) answer

theorem ledgerHolds_of_resolveIn {id : String} {answer : ResolveAnswers}
    (h : ledgerHolds (resolveIn l id answer).2 id) : ledgerHolds l id := by
  cases l with
  | none => exact h
  | some l =>
    obtain ⟨_, hl, h⟩ := h
    cases hl
    exact ⟨l, rfl, l.holds_of_resolveAndRemove h⟩

theorem not_ledgerHolds_resolveIn {id : String} {answer : ResolveAnswers}
    (h : (resolveIn l id answer).1 = true) : ¬ledgerHolds (resolveIn l id answer).2 id := by
  cases l with
  | none => simp [resolveIn, onLedger, ledgerHolds]
  | some l => simpa [ledgerHolds, resolveIn, onLedger] using l.not_holds_of_resolved h

end Durable

namespace SupervisorLoopState

theorem recoveryAdmissionState_congr {s s' : SupervisorLoopState} {id : String} (seat : String)
    (hl : OnLedgerRecord id s.ledger s'.ledger) (hp : s'.precommitStore = s.precommitStore) :
    s'.recoveryAdmissionState seat = s.recoveryAdmissionState seat := by
  unfold recoveryAdmissionState
  rw [hp]
  cases h : s.ledger with
  | none =>
    cases h' : s'.ledger with
    | none => rfl
    | some l' =>
      rw [h, h'] at hl
      cases hl
  | some l =>
    cases h' : s'.ledger with
    | none =>
      rw [h, h'] at hl
      cases hl
    | some l' =>
      rw [h, h'] at hl
      have hm := PersistentRecoveryLedger.OnRecord.marks hl
      simp only [PersistentRecoveryLedger.seatStartupQuarantined, hm.recordSet,
        hm.startupQuarantined, hm.seats]
      rfl

end SupervisorLoopState

/-- The two records are about the same worker and the same payload. -/
structure SameIdentity (r r' : SupervisorSessionRecoveryRecord) : Prop where
  lifecycleId : r'.lifecycleId = r.lifecycleId
  workerPid : r'.workerPid = r.workerPid
  payload : r'.payloadIdentity = r.payloadIdentity

namespace SameIdentity
variable {r r' r'' : SupervisorSessionRecoveryRecord}

theorem refl (r : SupervisorSessionRecoveryRecord) : SameIdentity r r := ⟨rfl, rfl, rfl⟩

theorem trans (h : SameIdentity r r') (h' : SameIdentity r' r'') : SameIdentity r r'' :=
  ⟨h'.lifecycleId.trans h.lifecycleId, h'.workerPid.trans h.workerPid,
    h'.payload.trans h.payload⟩

theorem quarantine (r : SupervisorSessionRecoveryRecord) (stage : EmergencyRecoveryStage)
    (reason : SupervisorRecoveryError) : SameIdentity r (r.quarantine stage reason) :=
  ⟨rfl, rfl, payloadIdentity_quarantine r stage reason⟩

theorem markExited (r : SupervisorSessionRecoveryRecord) (status : ExitStatus) :
    SameIdentity r (markWorkerExitedUnexpectedly r status).2 :=
  ⟨lifecycleId_markExited status, workerPid_markExited status,
    payloadIdentity_markExited r status⟩

theorem recover (r : SupervisorSessionRecoveryRecord) (status : ExitStatus)
    (a : EmergencyAnswers) : SameIdentity r (recoverEmergency r status a).2 :=
  ⟨lifecycleId_recover status a, workerPid_recover status a, payloadIdentity_recover r status a⟩

end SameIdentity

namespace SupervisorLoopState
variable {s : SupervisorLoopState}

section Reservation
variable {c : SeatAdmissionController} {removed : Bool}

/-- The store is asked to remove the record of a binding, and refuses. -/
def removalRefused (binding : Option PreCommitRuntimeBinding) (removed : Bool) : Prop :=
  binding.isSome = true ∧ removed = false

instance (binding : Option PreCommitRuntimeBinding) (removed : Bool) :
    Decidable (removalRefused binding removed) :=
  inferInstanceAs (Decidable (_ ∧ _))

theorem cancel_reserved_of_matches {lease : AdmissionLease} (hm : c.matchesReserved lease = true) :
    c.cancel (.reserved lease) removed =
      if removalRefused lease.precommitRuntime removed then
        (.error .persistentRecoveryUnavailable, c)
      else (.ok (), { c with phase := .free }) := by
  simp only [SeatAdmissionController.cancel, SeatAdmissionController.matchesRollback, hm,
    Bool.not_true, Bool.false_eq_true, if_false, removePrecommitRuntime]
  cases lease.precommitRuntime <;> cases removed <;> rfl

theorem cancel_pending_of_matches {lease : PendingLifecycleLease}
    (hm : c.matchesPending lease = true) :
    c.cancel (.pending lease) removed =
      if removalRefused lease.precommitRuntime removed then
        (.error .persistentRecoveryUnavailable, c)
      else (.ok (), { c with phase := .free }) := by
  simp only [SeatAdmissionController.cancel, SeatAdmissionController.matchesRollback, hm,
    Bool.not_true, Bool.false_eq_true, if_false, removePrecommitRuntime]
  cases lease.precommitRuntime <;> cases removed <;> rfl

theorem cancel_pending_of_not_matches {lease : PendingLifecycleLease}
    (hm : c.matchesPending lease = false) : (c.cancel (.pending lease) removed).2 = c := by
  simp [SeatAdmissionController.cancel, SeatAdmissionController.matchesRollback, hm]

/-- The controller with the seat reserved for a lifecycle. -/
def reservedFor (c : SeatAdmissionController) (lifecycleId : String) : SeatAdmissionController :=
  { c with
    nextAttemptId := max (wrappingAdd c.nextAttemptId 1) 1
    generation := wrappingAdd c.generation 1
    phase := .reserved c.nextAttemptId lifecycleId (wrappingAdd c.generation 1) }

/-- Nothing that a reservation checks speaks against it. -/
structure Reservable (s : SupervisorLoopState) (lifecycleId : String)
    (previousVt : Option PreviousVtIdentity) : Prop where
  terminal : previousVt.isSome = true
  named : lifecycleId.isEmpty = false
  clear : s.recoveryAdmissionState "seat0" = .clear
  phase : s.admission.phase = .free
  lifecycle : s.admission.lifecycle = .free

/-- What a reservation does to the loop, and the lease it hands out. -/
inductive SeatReserved (s : SupervisorLoopState) (lifecycleId : String)
    (previousVt : Option PreviousVtIdentity) (created : Option PreCommitRuntimeBinding) :
    Except SessionError AdmissionLease × SupervisorLoopState → Prop
  | refused (e : SessionError) : SeatReserved s lifecycleId previousVt created (.error e, s)
  | reserved (lease : AdmissionLease) (hreservable : Reservable s lifecycleId previousVt)
    (hlease : (reservedFor s.admission lifecycleId).matchesReserved lease = true) :
    SeatReserved s lifecycleId previousVt created (.ok lease, { s with
      admission := reservedFor s.admission lifecycleId
      history.admitted := lifecycleId :: s.history.admitted })
  | lost (e : SessionError) (hreservable : Reservable s lifecycleId previousVt)
    (hstore : s.precommitStore.isSome = true)
    (hcreated : created.any (·.lifecycleId = lifecycleId) = false) :
    SeatReserved s lifecycleId previousVt created (.error e, { s with
      admission := reservedFor s.admission lifecycleId
      history.admitted := lifecycleId :: s.history.admitted })

theorem reserved_reserveSeat (s : SupervisorLoopState) (lifecycleId : String)
    (previousVt : Option PreviousVtIdentity) (created : Option PreCommitRuntimeBinding) :
    SeatReserved s lifecycleId previousVt created
      (s.reserveSeat lifecycleId previousVt created) := by
  unfold reserveSeat
  split
  · exact .refused _
  · cases previousVt with
    | none => exact .refused _
    | some vt =>
      simp only [SeatAdmissionController.reserve]
      split
      next h =>
        split at h
        · cases h
          exact .refused _
        · cases h
      next lease admission h =>
        split at h
        · cases h
        next hok =>
          simp only [Bool.or_eq_true, decide_eq_true_eq, not_or, not_not] at hok
          obtain ⟨⟨⟨hnamed, hclear⟩, hphase⟩, hlifecycle⟩ := hok
          cases h
          have hreservable : Reservable s lifecycleId (some vt) :=
            ⟨rfl, by simpa using hnamed, hclear, hphase, hlifecycle⟩
          have hlease : ∀ binding, (reservedFor s.admission lifecycleId).matchesReserved
              ⟨s.admission.seat, s.admission.nextAttemptId, lifecycleId,
                wrappingAdd s.admission.generation 1, vt, binding⟩ = true := fun binding => by
            rw [SeatAdmissionController.matchesReserved_iff]
            exact ⟨rfl, rfl, rfl⟩
          split
          next => exact .reserved _ hreservable (hlease none)
          next marks hstore =>
            have hsome : s.precommitStore.isSome = true := by
              rw [show s.precommitStore = some marks from hstore]
              rfl
            cases created with
            | none => exact .lost _ hreservable hsome rfl
            | some binding =>
              dsimp only [AdmissionLease.attachPrecommitRuntime]
              split
              next hne => exact .lost _ hreservable hsome (by simpa using hne)
              next => exact .reserved _ hreservable (hlease _)

/-- The launch is refused before the lease is looked at. -/
def launchInvalid (s : SupervisorLoopState) (lease : AdmissionLease) (worker : SpawnedWorker) :
    Bool :=
  worker.workerPid = 0 || worker.launcherPid ≠ s.processId ||
    s.pending.any (·.record.lifecycleId = lease.lifecycleId)

def promotedLease (lease : AdmissionLease) : PendingLifecycleLease :=
  ⟨lease.seat, lease.attemptId, lease.lifecycleId, lease.generation, lease.precommitRuntime⟩

def spawnedEntry (lease : AdmissionLease) (worker : SpawnedWorker) : PendingWorkerLifecycle where
  record := .workerSpawned lease.lifecycleId worker.workerPid worker.launcherPid worker.session
    lease.previousVt
  childPid := worker.childPid
  release := .notRequested
  generation := 0
  terminalBeforeStarted := false

def launched (s : SupervisorLoopState) (lease : AdmissionLease) (worker : SpawnedWorker) :
    SupervisorLoopState :=
  { s with
    admission := { s.admission with
      phase := .pendingLifecycle lease.attemptId lease.lifecycleId lease.generation }
    pending := s.pending ++ [spawnedEntry lease worker]
    history.accepted := ⟨lease.lifecycleId, worker.workerPid⟩ :: s.history.accepted }

/-- A reserved lease goes back to the controller, or becomes a pending lifecycle. -/
theorem beginPending_of_matches {s : SupervisorLoopState} {lease : AdmissionLease}
    {worker : SpawnedWorker} (hm : s.admission.matchesReserved lease = true)
    (hclear : s.recoveryAdmissionState "seat0" = .clear) :
    s.beginPending lease worker removed =
      if launchInvalid s lease worker then
        (.error .sessionSeatUnavailable, (s.cancelAdmission lease removed).2)
      else (.ok (promotedLease lease), s.launched lease worker) := by
  unfold beginPending launchInvalid
  split
  · rfl
  · simp [SeatAdmissionController.promote, hm, hclear, promotedLease, launched, spawnedEntry]

end Reservation

section Release
variable (s : SupervisorLoopState) (id : String)
  (result : Except SessionError Unit × SeatAdmissionController)

@[simp] theorem releaseSeat_admission : (s.releaseSeat id result).admission = result.2 := by
  rcases result with ⟨_ | _, c⟩ <;> rfl

@[simp] theorem releaseSeat_pending : (s.releaseSeat id result).pending = s.pending := by
  rcases result with ⟨_ | _, c⟩ <;> rfl

@[simp] theorem releaseSeat_children : (s.releaseSeat id result).children = s.children := by
  rcases result with ⟨_ | _, c⟩ <;> rfl

@[simp] theorem releaseSeat_ledger : (s.releaseSeat id result).ledger = s.ledger := by
  rcases result with ⟨_ | _, c⟩ <;> rfl

@[simp] theorem releaseSeat_admitted :
    (s.releaseSeat id result).history.admitted = s.history.admitted := by
  rcases result with ⟨_ | _, c⟩ <;> rfl

end Release

section Abort
variable {lease : PendingLifecycleLease} {entry : PendingWorkerLifecycle} {expectedClean : Bool}
  {status : ExitStatus} {a : AbortAnswers} {recovery : RecoverySeatReceipt}

def finish (s : SupervisorLoopState) (id : String) (ledger : Option PersistentRecoveryLedger) :
    SupervisorLoopState :=
  { s with
    ledger
    admission := { s.admission with phase := .free, lifecycle := .free }
    history.finished := id :: s.history.finished }

/-- The lifecycle is given up and the seat is quarantined. -/
def retain (s : SupervisorLoopState) (record : SupervisorSessionRecoveryRecord)
    (ledger : Option PersistentRecoveryLedger) (stage : EmergencyRecoveryStage)
    (reason : SupervisorRecoveryError) : SupervisorLoopState :=
  { s with
    ledger
    admission := { s.admission with
      phase := .free, lifecycle := .quarantined record.lifecycleId stage reason }
    quarantined := s.quarantined ++ [record] }

/-- How a pending lifecycle ends once its worker is reaped. -/
inductive SettledPending (s : SupervisorLoopState) (lease : PendingLifecycleLease)
    (entry : PendingWorkerLifecycle) (expectedClean : Bool) (a : AbortAnswers) :
    SupervisorLoopState → Prop
  | cleaned (hclean : expectedCleanupVerified entry expectedClean a = true) :
    SettledPending s lease entry expectedClean a
      ((s.persistResolve lease.lifecycleId a.resolve).2.releaseSeat entry.record.lifecycleId
        (s.admission.cancel (.pending lease) a.removed))
  | recovered (ledger : Option PersistentRecoveryLedger)
    (hledger : OnLedgerRecord entry.record.lifecycleId s.ledger ledger)
    (hheld : ledgerHolds ledger entry.record.lifecycleId →
      ledger = s.ledger ∧ ∃ vt, entry.record.state = .workerSpawned vt) :
    SettledPending s lease entry expectedClean a (s.finish entry.record.lifecycleId ledger)
  | unresolved (ledger : Option PersistentRecoveryLedger) (phase : String)
    (reason : WorkerExitClassification)
    (hledger : OnLedgerRecord entry.record.lifecycleId s.ledger ledger)
    (hclean : expectedCleanupVerified entry expectedClean a = false)
    (hpayload : entry.record.payloadIdentity.isSome = true)
    (hrecovered : recoverFromPayload a.emergency = .recovered)
    (hresolve : (resolveIn (transitionIn s.ledger entry.record.lifecycleId
      "emergency_recovery_started" a.started).2 entry.record.lifecycleId a.resolve).1 = false) :
    SettledPending s lease entry expectedClean a { s with
      ledger
      admission := { s.admission with
        phase := .free, lifecycle := .recovering entry.record.lifecycleId phase reason } }
  | quarantined (ledger : Option PersistentRecoveryLedger)
    (record : SupervisorSessionRecoveryRecord) (stage : EmergencyRecoveryStage)
    (reason : SupervisorRecoveryError)
    (hledger : OnLedgerRecord entry.record.lifecycleId s.ledger ledger)
    (hrecord : SameIdentity entry.record record) :
    SettledPending s lease entry expectedClean a (s.retain record ledger stage reason)

theorem recoverEmergency_recovered {r : SupervisorSessionRecoveryRecord} {status : ExitStatus}
    {a : EmergencyAnswers} (h : (recoverEmergency r status a).1 = .recovered) :
    recoverFromPayload a = .recovered := by
  unfold recoverEmergency at h
  split at h
  · cases h
  · exact h

theorem settled_recoverPayloadEntry {base : SupervisorLoopState} {phase : String}
    {reason : WorkerExitClassification} {record : SupervisorSessionRecoveryRecord}
    (hs : s = { base with admission := { base.admission with
      phase := .free, lifecycle := .recovering entry.record.lifecycleId phase reason } })
    (hrecord : SameIdentity entry.record record)
    (hclean : expectedCleanupVerified entry expectedClean a = false)
    (hpayload : entry.record.payloadIdentity.isSome = true) :
    SettledPending base lease entry expectedClean a (s.recoverPayloadEntry { entry with record }
      status ⟨base.admission.seat, entry.record.lifecycleId, base.admission.generation⟩ a).2 := by
  subst hs
  have hstart := onLedgerRecord_transitionIn base.ledger entry.record.lifecycleId
    "emergency_recovery_started" a.started
  simp only [recoverPayloadEntry, hrecord.lifecycleId]
  cases hout : recoverEmergency record status a.emergency with
  | mk outcome final =>
    have hfinal : SameIdentity record final := by
      simpa only [hout] using SameIdentity.recover record status a.emergency
    cases outcome with
    | recovered =>
      dsimp only [persistTransition, persistResolve]
      have hended := onLedgerRecord_resolveIn (transitionIn base.ledger entry.record.lifecycleId
        "emergency_recovery_started" a.started).2 entry.record.lifecycleId a.resolve
      cases hres : resolveIn (transitionIn base.ledger entry.record.lifecycleId
          "emergency_recovery_started" a.started).2 entry.record.lifecycleId a.resolve with
      | mk ok ledger =>
        rw [hres] at hended
        cases ok with
        | false =>
          refine .unresolved ledger phase reason (hstart.trans hended) hclean hpayload
            (recoverEmergency_recovered (by rw [hout])) ?_
          rw [hres]
        | true =>
          have hgone := not_ledgerHolds_resolveIn (l := (transitionIn base.ledger
            entry.record.lifecycleId "emergency_recovery_started" a.started).2) (by rw [hres])
          rw [hres] at hgone
          convert @SettledPending.recovered base lease entry expectedClean a ledger
            (hstart.trans hended) (fun h => absurd h hgone) using 1
          simp [releaseSeat, SeatAdmissionController.releaseAfterA3Finalization,
            SeatAdmissionController.matchesRecovering, finish]
    | quarantined stage cause =>
      -- the busy terminal is recorded before the seat is quarantined
      have hbusy : OnLedgerRecord entry.record.lifecycleId base.ledger
          (if cause = .vtDisallocateBusy then (transitionIn (transitionIn base.ledger
            entry.record.lifecycleId "emergency_recovery_started" a.started).2
            entry.record.lifecycleId "vt_disallocate_failed_busy" a.busy).2
          else (transitionIn base.ledger entry.record.lifecycleId "emergency_recovery_started"
            a.started).2) := by
        split
        · exact hstart.trans (onLedgerRecord_transitionIn _ _ _ _)
        · exact hstart
      convert @SettledPending.quarantined base lease entry expectedClean a _
        (final.quarantine stage cause) stage cause hbusy
        ((hrecord.trans hfinal).trans (.quarantine final stage cause)) using 1
      have hid : ∀ cause, (final.quarantine stage cause).lifecycleId = entry.record.lifecycleId :=
        fun _ => (hrecord.trans hfinal).lifecycleId
      by_cases hcause : cause = .vtDisallocateBusy <;>
        simp [hcause, hid, persistTransition, retain,
          SeatAdmissionController.enterQuarantineFromRecovery,
          SeatAdmissionController.matchesRecovering]

theorem settled_quarantinePrePayload {base : SupervisorLoopState} {phase : String}
    {reason : WorkerExitClassification} {stage : EmergencyRecoveryStage}
    {cause : SupervisorRecoveryError}
    (hs : s = { base with admission := { base.admission with
      phase := .free, lifecycle := .recovering entry.record.lifecycleId phase reason } }) :
    SettledPending base lease entry expectedClean a (s.quarantinePrePayload entry stage cause
      ⟨base.admission.seat, entry.record.lifecycleId, base.admission.generation⟩).2 := by
  subst hs
  convert @SettledPending.quarantined base lease entry expectedClean a base.ledger
    (entry.record.quarantine stage cause) stage cause (.refl _ _) (.quarantine _ stage cause) using 1
  have hid : (entry.record.quarantine stage cause).lifecycleId = entry.record.lifecycleId := rfl
  simp [quarantinePrePayload, hid, retain, SeatAdmissionController.enterQuarantineFromRecovery,
    SeatAdmissionController.matchesRecovering]

theorem settled_recoverPrePayloadEntry {base : SupervisorLoopState} {phase : String}
    {reason : WorkerExitClassification}
    (hs : s = { base with admission := { base.admission with
      phase := .free, lifecycle := .recovering entry.record.lifecycleId phase reason } }) :
    SettledPending base lease entry expectedClean a (s.recoverPrePayloadEntry entry
      ⟨base.admission.seat, entry.record.lifecycleId, base.admission.generation⟩ a).2 := by
  unfold recoverPrePayloadEntry
  split
  next vt hstate =>
    cases a.prePayload with
    | ok _ =>
      subst hs
      convert @SettledPending.recovered base lease entry expectedClean a base.ledger (.refl _ _)
        (fun _ => ⟨rfl, vt, hstate⟩) using 1
      simp [releaseSeat, SeatAdmissionController.releaseAfterA3Finalization,
        SeatAdmissionController.matchesRecovering, finish]
    | error cause => exact settled_quarantinePrePayload hs
  next => exact settled_quarantinePrePayload hs

theorem pendingRecovery_of_matches (hm : s.admission.matchesPending lease = true)
    (hid : entry.record.lifecycleId = lease.lifecycleId) (phase : String)
    (reason : WorkerExitClassification) :
    s.admission.pendingRecovery entry.record.lifecycleId phase reason =
      (.ok ⟨s.admission.seat, entry.record.lifecycleId, s.admission.generation⟩,
        { s.admission with
          phase := .free, lifecycle := .recovering entry.record.lifecycleId phase reason }) := by
  have hphase := ((s.admission.matchesPending_iff lease).mp hm).1
  have hp : s.admission.pendingLifecycleIs entry.record.lifecycleId = true := by
    simp [SeatAdmissionController.pendingLifecycleIs, hphase, hid]
  simp [SeatAdmissionController.pendingRecovery, hp]

theorem settled_settlePending (hm : s.admission.matchesPending lease = true)
    (hid : entry.record.lifecycleId = lease.lifecycleId) :
    SettledPending s lease entry expectedClean a
      (s.settlePending lease entry expectedClean status a).2 := by
  unfold settlePending
  split
  next hclean => exact .cleaned hclean
  next hclean =>
    split
    next hpayload =>
      dsimp only
      rw [pendingRecovery_of_matches hm hid]
      exact settled_recoverPayloadEntry rfl (.markExited entry.record status)
        (by simpa using hclean) hpayload
    next =>
      rw [pendingRecovery_of_matches hm hid]
      exact settled_recoverPrePayloadEntry rfl

/-- What giving up a pending launch does, when its lease is current. -/
inductive PendingAborted (s : SupervisorLoopState) (lease : PendingLifecycleLease)
    (expectedClean : Bool) (exitStatus : Option ExitStatus) (a : AbortAnswers) :
    SupervisorLoopState → Prop
  | missing (hfirst : Slot.first
      (fun e : PendingWorkerLifecycle => e.record.lifecycleId = lease.lifecycleId) s.pending =
        none) :
    PendingAborted s lease expectedClean exitStatus a
      { s with admission := (s.admission.cancel (.pending lease) a.removed).2 }
  | unreaped (slot : Slot PendingWorkerLifecycle) (hfirst : Slot.first
      (fun e : PendingWorkerLifecycle => e.record.lifecycleId = lease.lifecycleId) s.pending =
        some slot)
    (hstatus : exitStatus.or a.reap = none) :
    PendingAborted s lease expectedClean exitStatus a { s with pending := slot.swapRemove }
  | settled (slot : Slot PendingWorkerLifecycle) (s' : SupervisorLoopState)
    (hfirst : Slot.first
      (fun e : PendingWorkerLifecycle => e.record.lifecycleId = lease.lifecycleId) s.pending =
        some slot)
    (hfound : s.pending = slot.all) (hid : slot.entry.record.lifecycleId = lease.lifecycleId)
    (hsettled : SettledPending { s with pending := slot.swapRemove } lease slot.entry
      expectedClean a s') :
    PendingAborted s lease expectedClean exitStatus a s'

theorem aborted_abortPending {exitStatus : Option ExitStatus}
    (hm : s.admission.matchesPending lease = true) :
    PendingAborted s lease expectedClean exitStatus a
      (s.abortPending lease expectedClean exitStatus a).2 := by
  unfold abortPending
  rw [hm]
  simp only [Bool.not_true, Bool.false_eq_true, if_false]
  split
  next hfirst => exact .missing hfirst
  next slot hfirst =>
    obtain ⟨hfound, hid⟩ := Slot.first_eq_some hfirst
    have hid := of_decide_eq_true hid
    split
    next hstatus => exact .unreaped slot hfirst hstatus
    next status hstatus => exact .settled slot _ hfirst hfound hid (settled_settlePending hm hid)

theorem abortPending_of_not_matches {exitStatus : Option ExitStatus}
    (hm : s.admission.matchesPending lease = false) :
    (s.abortPending lease expectedClean exitStatus a).2 = s := by
  simp [abortPending, hm]

end Abort

section Registration
variable {lease : PendingLifecycleLease} {entry : PendingWorkerLifecycle}
  {payload : SupervisorPreparedPayload} {nonce : String} {r : RunningRegistration}
  {a : RegistrationAnswers}

/-- How a registration ends that agrees with the prepared payload. -/
inductive StartedRunning (s : SupervisorLoopState) (entry : PendingWorkerLifecycle)
    (lease : PendingLifecycleLease) (r : RunningRegistration) (a : RegistrationAnswers) :
    SupervisorLoopState → Prop
  | unstarted (hwrite : (transitionIn s.ledger r.workerId "started" a.started).1 = false) :
    StartedRunning s entry lease r a
      { s with ledger := (transitionIn s.ledger r.workerId "started" a.started).2 }
  | committed (hwrite : (transitionIn s.ledger r.workerId "started" a.started).1 = true)
    (hbinding : lease.precommitRuntime.isSome = true)
    (hstore : (∃ e, a.handoff = .error e) ∨ a.removedCommitted = false) :
    StartedRunning s entry lease r a { s with
      ledger := (transitionIn s.ledger r.workerId "started" a.started).2
      admission := { s.admission with
        phase := .launchCommitted lease.attemptId lease.lifecycleId lease.generation } }
  | running (worker : SupervisedWorker)
    (hadmission : worker.admission = ⟨lease.seat, lease.lifecycleId, lease.generation⟩)
    (hrecord : SameIdentity entry.record worker.record) :
    StartedRunning s entry lease r a { s with
      ledger := (transitionIn s.ledger r.workerId "started" a.started).2
      admission := { s.admission with phase := .free, lifecycle := .active lease.lifecycleId }
      children := s.children ++ [worker] }

theorem commit_of_matches {c : SeatAdmissionController} (hm : c.matchesPending lease = true) :
    c.commit lease .clear = (.ok ⟨lease.seat, lease.attemptId, lease.lifecycleId,
      lease.generation, lease.precommitRuntime⟩,
      { c with phase := .launchCommitted lease.attemptId lease.lifecycleId lease.generation }) := by
  simp [SeatAdmissionController.commit, hm]

/-- A transaction whose lease is current is committed unless the store refuses the handoff. -/
theorem transaction_commit_of_matches {t : PendingLaunchTransaction} {c : SeatAdmissionController}
    {removed : Bool} {handoff : Except Unit PreCommitRuntimeBinding}
    (hm : c.matchesPending lease = true) (hphase : t.phase = .prepared)
    (hlease : t.pendingLease = some lease) :
    t.commit c .clear removed handoff =
      let committed := { c with
        phase := .launchCommitted lease.attemptId lease.lifecycleId lease.generation }
      match updateBinding lease.precommitRuntime handoff with
      | (.error e, _) => (.error e, committed)
      | (.ok (), binding) => (.ok ⟨lease.seat, lease.attemptId, lease.lifecycleId,
          lease.generation, binding⟩, committed) := by
  simp only [PendingLaunchTransaction.commit, hphase, hlease, ne_eq, not_true_eq_false, if_false,
    commit_of_matches hm, LaunchCommitReceipt.markPrecommitHandoffCommitted]
  rcases updateBinding lease.precommitRuntime handoff with ⟨result, binding⟩
  cases result <;> rfl

/-- A receipt fresh from its commit is promoted unless the store refuses to remove its record. -/
theorem promote_committed {c : SeatAdmissionController} {receipt : LaunchCommitReceipt}
    {removed : Bool} (hphase : c.phase = .launchCommitted receipt.attemptId receipt.lifecycleId
      receipt.generation) (hseat : receipt.seat = c.seat)
    (hgeneration : receipt.generation = c.generation) :
    c.promoteCommittedToRunning receipt removed =
      if receipt.precommitRuntime.isSome = true ∧ removed = false then
        (.error .persistentRecoveryUnavailable, c)
      else (.ok ⟨receipt.seat, receipt.lifecycleId, receipt.generation⟩,
        { c with phase := .free, lifecycle := .active receipt.lifecycleId }) := by
  have hm : c.matchesCommitted receipt = true := by
    simp [SeatAdmissionController.matchesCommitted, hphase, hseat, ← hgeneration]
  simp only [SeatAdmissionController.promoteCommittedToRunning, hm, Bool.not_true,
    Bool.false_eq_true, if_false, removePrecommitRuntime]
  cases receipt.precommitRuntime <;> cases removed <;> rfl

theorem started_startRunning (hm : s.admission.matchesPending lease = true)
    (hclear : s.recoveryAdmissionState "seat0" = .clear)
    (hphase : r.transaction.phase = .prepared) (hlease : r.transaction.pendingLease = some lease)
    (hstate : entry.record.state = .payloadRegistered payload nonce) :
    StartedRunning s entry lease r a (s.startRunning entry payload r a).2 := by
  obtain ⟨-, hseat, hgeneration⟩ := (s.admission.matchesPending_iff lease).mp hm
  have hclear' : ({ s with ledger := (transitionIn s.ledger r.workerId "started"
      a.started).2 } : SupervisorLoopState).recoveryAdmissionState "seat0" = .clear := by
    rw [← hclear]
    exact recoveryAdmissionState_congr "seat0"
      (onLedgerRecord_transitionIn s.ledger r.workerId "started" a.started) rfl
  simp only [startRunning, persistTransition]
  cases hwrite : (transitionIn s.ledger r.workerId "started" a.started).1 with
  | false => exact .unstarted hwrite
  | true =>
    dsimp only
    rw [hclear', transaction_commit_of_matches hm hphase hlease]
    have hsame : SameIdentity entry.record
        (entry.withState (.started payload r.runtimeId)).record := by
      refine ⟨rfl, rfl, ?_⟩
      simp [PendingWorkerLifecycle.withState, SupervisorSessionRecoveryRecord.payloadIdentity,
        hstate, SupervisorRecoveryState.livePayload]
    -- with a binding the two store calls of the handoff can fail, without one they are not made
    cases hbinding : lease.precommitRuntime with
    | none =>
      simp only [updateBinding]
      rw [promote_committed rfl hseat hgeneration]
      exact .running _ rfl hsame
    | some binding =>
      cases hhandoff : a.handoff with
      | error e => exact .committed hwrite (by rw [hbinding]; rfl) (Or.inl ⟨e, hhandoff⟩)
      | ok updated =>
        simp only [updateBinding]
        rw [promote_committed rfl hseat hgeneration]
        cases hremoved : a.removedCommitted with
        | false => exact .committed hwrite (by rw [hbinding]; rfl) (Or.inr hremoved)
        | true => exact .running _ rfl hsame

/-- The registration and the prepared payload name the same session and leader. -/
def registrationAgrees (r : RunningRegistration) (payload : SupervisorPreparedPayload) : Prop :=
  payload.logind.id = r.logindSessionId ∧ payload.leaderPid = r.sessionPid

/-- What a registration does, when the lease of its transaction is current. -/
inductive RunningRegistered (s : SupervisorLoopState) (lease : PendingLifecycleLease)
    (r : RunningRegistration) (a : RegistrationAnswers) : SupervisorLoopState → Prop
  | mismatched (hid : r.transaction.lifecycleId ≠ r.workerId) : RunningRegistered s lease r a s
  | missing (hid : r.transaction.lifecycleId = r.workerId)
    (hfirst : Slot.first (registrable r) s.pending = none) :
    RunningRegistered s lease r a
      { s with admission := (s.admission.cancel (.pending lease) a.removedPending).2 }
  | rejected (slot : Slot PendingWorkerLifecycle) (record : SupervisorSessionRecoveryRecord)
    (stage : EmergencyRecoveryStage) (reason : SupervisorRecoveryError)
    (hfound : s.pending = slot.all) (hrecord : SameIdentity slot.entry.record record) :
    RunningRegistered s lease r a
      ({ s with pending := slot.swapRemove }.retain record s.ledger stage reason)
  | started (slot : Slot PendingWorkerLifecycle) (payload : SupervisorPreparedPayload)
    (nonce : String) (s' : SupervisorLoopState)
    (hfirst : Slot.first (registrable r) s.pending = some slot) (hfound : s.pending = slot.all)
    (hid : slot.entry.record.lifecycleId = lease.lifecycleId)
    (hstate : slot.entry.record.state = .payloadRegistered payload nonce)
    (hagrees : registrationAgrees r payload)
    (hstarted : StartedRunning { s with pending := slot.swapRemove } slot.entry lease r a s') :
    RunningRegistered s lease r a s'

theorem registrable_iff {e : PendingWorkerLifecycle} (h : registrable r e = true) :
    e.record.lifecycleId = r.workerId ∧ e.terminalBeforeStarted = false ∧
      ∃ payload nonce, e.record.state = .payloadRegistered payload nonce := by
  simp only [registrable, Bool.and_eq_true, decide_eq_true_eq, Bool.not_eq_true'] at h
  obtain ⟨⟨⟨⟨⟨hid, -⟩, -⟩, -⟩, hterminal⟩, hstate⟩ := h
  refine ⟨hid, hterminal, ?_⟩
  split at hstate
  next payload nonce heq => exact ⟨payload, nonce, heq⟩
  next => cases hstate

theorem registered_registerRunning (hm : s.admission.matchesPending lease = true)
    (hclear : s.recoveryAdmissionState "seat0" = .clear)
    (hphase : r.transaction.phase = .prepared) (hlease : r.transaction.pendingLease = some lease)
    (hid : r.transaction.lifecycleId = lease.lifecycleId) :
    RunningRegistered s lease r a (s.registerRunning r a).2 := by
  unfold registerRunning
  split
  next hne => exact .mismatched hne
  next heq =>
    have heq := not_not.mp heq
    split
    next hfirst =>
      simp only [withPendingLease, hlease]
      exact .missing heq hfirst
    next slot hfirst =>
      obtain ⟨hfound, hp⟩ := Slot.first_eq_some hfirst
      obtain ⟨hworker, -, payload, nonce, hstate⟩ := registrable_iff hp
      have hentry : slot.entry.record.lifecycleId = lease.lifecycleId := by
        rw [hworker, ← heq, hid]
      simp only [hstate]
      split
      next hdisagrees =>
        have hsame : SameIdentity slot.entry.record (slot.entry.withState
            (.quarantined .recoveryRecordValidation .invalidRecord (.payload payload))).record := by
          refine ⟨rfl, rfl, ?_⟩
          simp [PendingWorkerLifecycle.withState, SupervisorSessionRecoveryRecord.payloadIdentity,
            hstate, SupervisorRecoveryState.livePayload]
        convert @RunningRegistered.rejected s lease r a slot _ .recoveryRecordValidation
          .invalidRecord hfound hsame using 1
        simp [rejectRegistration, hlease, SeatAdmissionController.enterQuarantineFromPending, hm,
          retain, PendingWorkerLifecycle.withState, hentry]
      next hagrees =>
        simp only [ne_eq, not_or, not_not] at hagrees
        exact .started slot payload nonce _ hfirst hfound hentry hstate hagrees
          (started_startRunning hm hclear hphase hlease hstate)

/-- A transaction whose entries are all past saving leaves the loop as it is. -/
theorem registerRunning_of_stale (hphase : s.admission.phase = .free)
    (hstale : ∀ e ∈ s.pending, e.record.lifecycleId = r.transaction.lifecycleId →
      e.terminalBeforeStarted = true) : (s.registerRunning r a).2 = s := by
  unfold registerRunning
  split
  · rfl
  next heq =>
    have heq := not_not.mp heq
    split
    next hfirst =>
      unfold withPendingLease
      split
      · rfl
      next lease _ =>
        have hm : s.admission.matchesPending lease = false := by
          simp [SeatAdmissionController.matchesPending, hphase]
        dsimp only
        rw [cancel_pending_of_not_matches hm]
    next slot hfirst =>
      obtain ⟨hfound, hp⟩ := Slot.first_eq_some hfirst
      obtain ⟨hworker, hterminal, -⟩ := registrable_iff hp
      have hmem : slot.entry ∈ s.pending := by
        rw [hfound]
        exact Slot.mem_all.mpr (Or.inl rfl)
      rw [hstale slot.entry hmem (hworker.trans heq.symm)] at hterminal
      cases hterminal

end Registration

section Exit
variable {worker : SupervisedWorker} {status : ExitStatus} {a : ExitAnswers}

/-- The emergency recovery of an exited worker frees the seat, and nothing removes its record. -/
def recoversUnresolved (s : SupervisorLoopState) (worker : SupervisedWorker) (status : ExitStatus)
    (a : ExitAnswers) : Bool :=
  !worker.terminalVtReportedBusy &&
    !((finalizeCleanWorkerExit worker.record status a.finalization).isOk &&
      (resolveIn s.ledger worker.record.lifecycleId a.resolve).1) &&
    (recoverEmergency (markWorkerExitedUnexpectedly worker.record status).2 status
      a.emergency).1 = .recovered

inductive ExitedWorker (s : SupervisorLoopState) (worker : SupervisedWorker) (status : ExitStatus)
    (a : ExitAnswers) : SupervisorLoopState → Prop
  | finished (ledger : Option PersistentRecoveryLedger)
    (hledger : OnLedgerRecord worker.record.lifecycleId s.ledger ledger)
    (hheld : ledgerHolds ledger worker.record.lifecycleId →
      ledgerHolds s.ledger worker.record.lifecycleId ∧
        recoversUnresolved s worker status a = true) :
    ExitedWorker s worker status a (s.finish worker.record.lifecycleId ledger)
  | quarantined (ledger : Option PersistentRecoveryLedger)
    (record : SupervisorSessionRecoveryRecord) (stage : EmergencyRecoveryStage)
    (reason : SupervisorRecoveryError)
    (hledger : OnLedgerRecord worker.record.lifecycleId s.ledger ledger)
    (hrecord : SameIdentity worker.record record) :
    ExitedWorker s worker status a (s.retain record ledger stage reason)

theorem exited_recoverExitedWorker {base : SupervisorLoopState}
    {ledger : Option PersistentRecoveryLedger} (hs : s = { base with ledger })
    (hledger : OnLedgerRecord worker.record.lifecycleId base.ledger ledger)
    (hheld : ledgerHolds ledger worker.record.lifecycleId →
      ledgerHolds base.ledger worker.record.lifecycleId)
    (hphase : base.admission.phase = .free)
    (hm : base.admission.matchesRunning worker.admission = true)
    (hid : worker.admission.lifecycleId = worker.record.lifecycleId)
    (hbranch : (recoverEmergency (markWorkerExitedUnexpectedly worker.record status).2 status
        a.emergency).1 = .recovered → recoversUnresolved base worker status a = true) :
    ExitedWorker base worker status a (s.recoverExitedWorker worker status a) := by
  subst hs
  obtain ⟨hlifecycle, hseat, hgeneration⟩ :=
    (base.admission.matchesRunning_iff worker.admission).mp hm
  have hwrite := hledger.trans (onLedgerRecord_transitionIn ledger worker.record.lifecycleId
    "worker_exited_unexpectedly" a.exited)
  have hmark := SameIdentity.markExited worker.record status
  simp only [recoverExitedWorker, persistTransition, SeatAdmissionController.enterRecovery, hm,
    Bool.not_true, Bool.false_eq_true, if_false]
  cases hout : recoverEmergency (markWorkerExitedUnexpectedly worker.record status).2 status
      a.emergency with
  | mk outcome final =>
    have hfinal : SameIdentity (markWorkerExitedUnexpectedly worker.record status).2 final := by
      simpa only [hout] using SameIdentity.recover
        (markWorkerExitedUnexpectedly worker.record status).2 status a.emergency
    -- a recovered session frees the seat, a quarantined one keeps its record
    cases outcome with
    | recovered =>
      convert ExitedWorker.finished (s := base) (a := a) _ hwrite (fun h => ⟨hheld
        ((ledgerHolds_transitionIn _ _ _ _).mp h), hbranch (by rw [hout])⟩) using 1
      simp [releaseSeat, SeatAdmissionController.releaseAfterA3Finalization,
        SeatAdmissionController.matchesRecovering, hseat, hgeneration, finish, hphase]
    | quarantined stage cause =>
      have hbusy : OnLedgerRecord worker.record.lifecycleId base.ledger
          (if cause = .vtDisallocateBusy then (transitionIn (transitionIn ledger
            worker.record.lifecycleId "worker_exited_unexpectedly" a.exited).2
            worker.record.lifecycleId "vt_disallocate_failed_busy" a.busy).2
          else (transitionIn ledger worker.record.lifecycleId "worker_exited_unexpectedly"
            a.exited).2) := by
        split
        · exact hwrite.trans (onLedgerRecord_transitionIn _ _ _ _)
        · exact hwrite
      convert @ExitedWorker.quarantined base worker status a _ (final.quarantine stage cause)
        stage cause hbusy ((hmark.trans hfinal).trans (.quarantine final stage cause)) using 1
      have hfinalId : ∀ cause,
          (final.quarantine stage cause).lifecycleId = worker.record.lifecycleId :=
        fun _ => (hmark.trans hfinal).lifecycleId
      by_cases hcause : cause = .vtDisallocateBusy <;>
        simp [hcause, hfinalId, retain, SeatAdmissionController.enterQuarantineFromRecovery,
          SeatAdmissionController.matchesRecovering, hseat, hgeneration, hphase, hid]

theorem exited_finishExitedWorker {slot : Slot SupervisedWorker} (hphase : s.admission.phase = .free)
    (hm : s.admission.matchesRunning slot.entry.admission = true)
    (hid : slot.entry.admission.lifecycleId = slot.entry.record.lifecycleId) :
    ExitedWorker { s with children := slot.swapRemove } slot.entry status a
      (s.finishExitedWorker slot status a) := by
  have hlifecycle := ((s.admission.matchesRunning_iff slot.entry.admission).mp hm).1
  unfold finishExitedWorker
  dsimp only
  split
  next hbusy =>
    convert @ExitedWorker.quarantined { s with children := slot.swapRemove } slot.entry status a
      s.ledger slot.entry.record .vtRecovery .vtDisallocateBusy (.refl _ _) (.refl _) using 1
    simp [SeatAdmissionController.enterQuarantineFromRunning, hm, retain, hphase, hid]
  next hbusy =>
    split
    next hclean =>
      have hended := onLedgerRecord_resolveIn s.ledger slot.entry.record.lifecycleId a.resolve
      split
      next hresolved =>
        convert @ExitedWorker.finished { s with children := slot.swapRemove } slot.entry status a _
          hended (fun h => absurd h (not_ledgerHolds_resolveIn _ hresolved)) using 1
        simp [persistResolve, releaseSeat,
          SeatAdmissionController.releaseRunningAfterA3Finalization, hm, finish, hphase]
      next hresolved =>
        refine exited_recoverExitedWorker rfl hended (fun h => ledgerHolds_of_resolveIn _ h) hphase
          hm hid fun hrec => ?_
        simp only [recoversUnresolved, hrec]
        simp_all [persistResolve]
    next hclean =>
      have hsame : ({ s with children := slot.swapRemove } : SupervisorLoopState) =
          { s with children := slot.swapRemove, ledger := s.ledger } := rfl
      refine exited_recoverExitedWorker hsame (.refl _ _) id hphase hm hid fun hrec => ?_
      simp only [recoversUnresolved, hrec]
      simp_all

end Exit

section Pending

/-- One entry of the pending table changes where it stands, with one record of the ledger. -/
structure EntryUpdate (s : SupervisorLoopState) (slot : Slot PendingWorkerLifecycle)
    (e : PendingWorkerLifecycle) (ledger : Option PersistentRecoveryLedger) : Prop where
  found : s.pending = slot.all
  lifecycleId : e.record.lifecycleId = slot.entry.record.lifecycleId
  workerPid : e.record.workerPid = slot.entry.record.workerPid
  terminal : slot.entry.terminalBeforeStarted = true → e.terminalBeforeStarted = true
  spawned : ∀ vt, e.record.state = .workerSpawned vt →
    slot.entry.record.state = .workerSpawned vt ∧ ledger = s.ledger
  ledger : OnLedgerRecord slot.entry.record.lifecycleId s.ledger ledger

/-- Every entry of the changed table continues one of the old table. -/
theorem EntryUpdate.carried {slot : Slot PendingWorkerLifecycle} {e : PendingWorkerLifecycle}
    {ledger : Option PersistentRecoveryLedger} (h : EntryUpdate s slot e ledger) :
    ∀ e' ∈ slot.put e, ∃ old ∈ s.pending, e'.record.lifecycleId = old.record.lifecycleId ∧
      (old.terminalBeforeStarted = true → e'.terminalBeforeStarted = true) := by
  intro e' he'
  rw [h.found]
  rcases Slot.mem_put.mp he' with rfl | hother
  · exact ⟨slot.entry, Slot.mem_all.mpr (Or.inl rfl), h.lifecycleId, h.terminal⟩
  · exact ⟨e', Slot.mem_all.mpr (Or.inr hother), rfl, fun h => h⟩

inductive PendingMoved (s : SupervisorLoopState) : SupervisorLoopState → Prop
  | same : PendingMoved s s
  | moved (slot : Slot PendingWorkerLifecycle) (e : PendingWorkerLifecycle)
    (ledger : Option PersistentRecoveryLedger) (hupdate : EntryUpdate s slot e ledger)
    (hpayload : e.record.payloadIdentity = slot.entry.record.payloadIdentity) :
    PendingMoved s { s with pending := slot.put e, ledger }

/-- A pending entry whose state and durable record move on together. -/
theorem moved_persistTransition {slot : Slot PendingWorkerLifecycle} {id name : String}
    {state : SupervisorRecoveryState} {payload : SupervisorPreparedPayload} {answer : WriteAnswer}
    (hfound : s.pending = slot.all) (hid : slot.entry.record.lifecycleId = id)
    (hold : slot.entry.record.state.livePayload = some payload)
    (hnew : state.livePayload = some payload) :
    PendingMoved s ({ s with pending := slot.put (slot.entry.withState state) }.persistTransition
      id name answer).2 := by
  have hwrite := onLedgerRecord_transitionIn s.ledger id name answer
  refine .moved slot (slot.entry.withState state) _
    ⟨hfound, rfl, rfl, fun h => h, fun vt h => ?_, hid ▸ hwrite⟩ ?_
  · simp only [PendingWorkerLifecycle.withState] at h
    rw [h] at hnew
    cases hnew
  · rw [payloadIdentity_of_live hold]
    exact payloadIdentity_of_live hnew

theorem moved_markPayloadRegistered (s : SupervisorLoopState) (workerId : String) (workerPid : Nat)
    (answer : WriteAnswer) :
    PendingMoved s (s.markPayloadRegistered workerId workerPid answer).2 := by
  unfold markPayloadRegistered
  cases hfirst : Slot.first (fun e : PendingWorkerLifecycle =>
      e.record.lifecycleId = workerId && e.record.workerPid = workerPid) s.pending with
  | none => exact .same
  | some slot =>
    obtain ⟨hfound, hp⟩ := Slot.first_eq_some hfirst
    simp only [Bool.and_eq_true, decide_eq_true_eq] at hp
    dsimp only
    split
    next payload nonce hstate =>
      exact moved_persistTransition hfound hp.1 (by rw [hstate]; rfl) rfl
    next => exact .same

theorem moved_beginRelease (s : SupervisorLoopState) (request : ReleaseRequest) :
    PendingMoved s (s.beginRelease request).2 := by
  unfold beginRelease
  split
  · exact .same
  next slot hfirst =>
    split
    · exact .same
    · refine .moved slot _ s.ledger ⟨(Slot.first_eq_some hfirst).1, rfl, rfl, id,
        fun vt h => ⟨h, rfl⟩, .refl _ _⟩ rfl

theorem moved_completeRelease (s : SupervisorLoopState) (token : ReleaseToken)
    (verification : ScopeReleaseVerification) (answer : WriteAnswer) :
    PendingMoved s (s.completeRelease token verification answer).2 := by
  unfold completeRelease
  split
  · exact .same
  next slot hfirst =>
    obtain ⟨hfound, hp⟩ := Slot.first_eq_some hfirst
    have hid : slot.entry.record.lifecycleId = token.workerId := by
      simp only [tokenMatches, Bool.and_eq_true, decide_eq_true_eq] at hp
      exact hp.1.1.1.1.1
    cases verification with
    | recoveryRequired reason =>
      exact .moved slot _ s.ledger ⟨hfound, rfl, rfl, fun _ => rfl, fun vt h => ⟨h, rfl⟩,
        .refl _ _⟩ rfl
    | released =>
      dsimp only
      split
      next payload nonce hstate =>
        exact moved_persistTransition hfound hid (by rw [hstate]; rfl) rfl
      next payload nonce hstate =>
        exact moved_persistTransition hfound hid (by rw [hstate]; rfl) rfl
      next => exact .same

/-- The entry takes no scope any more, or not under this nonce. -/
def scopeRefused (e : PendingWorkerLifecycle) (nonce : String) : Bool :=
  e.terminalBeforeStarted || e.release ≠ .notRequested || !nonceValid nonce

inductive ScopeRecorded (s : SupervisorLoopState) (workerId : String) (workerPid : Nat)
    (nonce : String) (a : PreparedScopeAnswers) : SupervisorLoopState → Prop
  | same : ScopeRecorded s workerId workerPid nonce a s
  | prepared (slot : Slot PendingWorkerLifecycle) (e : PendingWorkerLifecycle)
    (ledger : Option PersistentRecoveryLedger) (payload : SupervisorPreparedPayload)
    (hupdate : EntryUpdate s slot e ledger)
    (hold : slot.entry.record.payloadIdentity = none)
    (hpayload : e.record.payloadIdentity = some payload.identity) :
    ScopeRecorded s workerId workerPid nonce a { s with
      pending := slot.put e
      ledger
      history.payloads :=
        (slot.entry.record.lifecycleId, payload.identity) :: s.history.payloads }
  | unrecorded (slot : Slot PendingWorkerLifecycle) (e : PendingWorkerLifecycle)
    (ledger : Option PersistentRecoveryLedger) (payload : SupervisorPreparedPayload)
    (previousVt : PreviousVtIdentity) (hupdate : EntryUpdate s slot e ledger)
    (hfirst : Slot.first (fun e : PendingWorkerLifecycle =>
      e.record.lifecycleId = workerId && e.record.workerPid = workerPid) s.pending = some slot)
    (htaken : scopeRefused slot.entry nonce = false)
    (hstate : slot.entry.record.state = .workerSpawned previousVt)
    (hpayload : a.preparePayload = .ok payload)
    (hcreate : (createIn s.ledger (.prepared workerId workerPid slot.entry.record.launcherPid
      previousVt payload a.bootId) a.create).1 = false) :
    ScopeRecorded s workerId workerPid nonce a { s with
      pending := slot.put e
      ledger
      history.payloads :=
        (slot.entry.record.lifecycleId, payload.identity) :: s.history.payloads }
  | refused (slot : Slot PendingWorkerLifecycle) (e : PendingWorkerLifecycle)
    (stage : EmergencyRecoveryStage) (reason : SupervisorRecoveryError)
    (hupdate : EntryUpdate s slot e s.ledger) (hid : slot.entry.record.lifecycleId = workerId)
    (hpayload : e.record.payloadIdentity = slot.entry.record.payloadIdentity)
    (hterminal : e.terminalBeforeStarted = true) :
    ScopeRecorded s workerId workerPid nonce a { s with
      pending := slot.put e
      admission := (s.admission.quarantinePendingLifecycle workerId stage reason).2 }

theorem recorded_recordPreparedScope (s : SupervisorLoopState) (workerId : String)
    (workerPid : Nat) (nonce : String) (a : PreparedScopeAnswers) :
    ScopeRecorded s workerId workerPid nonce a
      (s.recordPreparedScope workerId workerPid nonce a).2 := by
  unfold recordPreparedScope
  cases hfirst : Slot.first (fun e : PendingWorkerLifecycle =>
      e.record.lifecycleId = workerId && e.record.workerPid = workerPid) s.pending with
  | none => exact .same
  | some slot =>
    obtain ⟨hfound, hp⟩ := Slot.first_eq_some hfirst
    simp only [Bool.and_eq_true, decide_eq_true_eq] at hp
    obtain ⟨hid, hpid⟩ := hp
    dsimp only
    split
    · exact .same
    next htaken =>
      have htaken : scopeRefused slot.entry nonce = false := by simpa [scopeRefused] using htaken
      split
      next vt hstate =>
        have hold : slot.entry.record.payloadIdentity = none := by
          rw [SupervisorSessionRecoveryRecord.payloadIdentity, hstate]
          rfl
        cases hprepare : a.preparePayload with
        | error e =>
          refine .refused slot _ .payloadIdentityValidation .invalidPayloadIdentity
            ⟨hfound, rfl, rfl, fun _ => rfl, fun _ hvt => (by cases hvt), .refl _ _⟩ hid ?_ rfl
          rw [hold]
          rfl
        | ok payload =>
          have hcreated := onLedgerRecord_createIn s.ledger (.prepared
            slot.entry.record.lifecycleId workerPid slot.entry.record.launcherPid vt payload
            a.bootId) a.create
          dsimp only
          split
          next hok =>
            exact .prepared slot _ _ payload
              ⟨hfound, rfl, rfl, id, fun _ hvt => (by cases hvt), hcreated⟩ hold rfl
          next hok =>
            refine .unrecorded slot _ _ payload vt
              ⟨hfound, rfl, rfl, id, fun _ hvt => (by cases hvt), hcreated⟩ hfirst htaken hstate
              hprepare ?_
            rw [← hid]
            simpa [persistNewRecord] using hok
      next => exact .same

end Pending

section TerminalVt

/-- A message about a running worker's terminal: it writes to a record that is there, and may set
the worker's flag. -/
inductive WorkerTouched (s : SupervisorLoopState) : SupervisorLoopState → Prop
  | same : WorkerTouched s s
  | written (id : String) (ledger : Option PersistentRecoveryLedger)
    (hledger : OnLedgerRecord id s.ledger ledger)
    (hholds : ledgerHolds ledger id ↔ ledgerHolds s.ledger id) :
    WorkerTouched s { s with ledger }
  | flagged (id : String) (ledger : Option PersistentRecoveryLedger)
    (slot : Slot SupervisedWorker) (busy : Bool) (hfound : s.children = slot.all)
    (hledger : OnLedgerRecord id s.ledger ledger)
    (hholds : ledgerHolds ledger id ↔ ledgerHolds s.ledger id) :
    WorkerTouched s { s with
      ledger, children := slot.put { slot.entry with terminalVtReportedBusy := busy } }

theorem ledgerHolds_some (l : PersistentRecoveryLedger) (id : String) :
    ledgerHolds (some l) id ↔ l.holds id := by
  simp [ledgerHolds]

theorem touched_acceptTerminalVtIntent (s : SupervisorLoopState) (workerId : String)
    (workerPid : Nat) (nonce : String) (identity : PayloadScopeIdentity) (answer : WriteAnswer) :
    WorkerTouched s (s.acceptTerminalVtIntent workerId workerPid nonce identity answer).2 := by
  unfold acceptTerminalVtIntent
  split
  · exact .same
  · split
    · exact .same
    · split
      · exact .same
      next l hl =>
        split
        · exact .same
        · split
          · exact .same
          · split
            · exact .same
            next attemptId _ =>
              refine .written workerId _ ?_ ?_
              · rw [hl]
                exact l.onRecord_write workerId _ answer
              · rw [hl, ledgerHolds_some, ledgerHolds_some]
                exact l.holds_write workerId _ answer

theorem touched_acceptTerminalVtResult (s : SupervisorLoopState) (workerId : String)
    (workerPid : Nat) (nonce : String) (attemptId : Nat) (result : TerminalVtCleanupResult)
    (answer : WriteAnswer) : WorkerTouched s
      (s.acceptTerminalVtResult workerId workerPid nonce attemptId result answer).2 := by
  unfold acceptTerminalVtResult
  split
  · exact .same
  · split
    · exact .same
    next slot hfirst =>
      split
      · exact .same
      · split
        · exact .same
        next l hl =>
          split
          · exact .same
          · split
            · exact .same
            · have hledger : OnLedgerRecord workerId s.ledger
                  (some (l.write workerId (.workerVtCleanupResult attemptId result) answer).2) := by
                rw [hl]
                exact l.onRecord_write workerId _ answer
              have hholds : ledgerHolds (some (l.write workerId
                  (.workerVtCleanupResult attemptId result) answer).2) workerId ↔
                  ledgerHolds s.ledger workerId := by
                rw [hl, ledgerHolds_some, ledgerHolds_some]
                exact l.holds_write workerId _ answer
              split
              next l' h =>
                rw [h] at hledger hholds
                exact .written workerId _ hledger hholds
              next l' h =>
                rw [h] at hledger hholds
                exact .flagged workerId _ slot _ (Slot.first_eq_some hfirst).1 hledger hholds

end TerminalVt

section Reap

/-- One visit of the reaping loop to an exited worker. -/
structure Exit where
  index : Nat
  status : ExitStatus
  answers : ExitAnswers

def visit (s : SupervisorLoopState) (exit : Exit) : SupervisorLoopState :=
  match Slot.nth exit.index s.children with
  | none => s
  | some slot => s.finishExitedWorker slot exit.status exit.answers

theorem reapFrom_eq_foldl (visits index : Nat) (answers : List (Option (ExitStatus × ExitAnswers)))
    (s : SupervisorLoopState) : ∃ exits : List Exit, s.reapFrom visits index answers =
      exits.foldl visit s := by
  induction visits generalizing s index answers with
  | zero => exact ⟨[], rfl⟩
  | succ visits ih =>
    cases answers with
    | nil => exact ⟨[], rfl⟩
    | cons answer answers =>
      cases answer with
      | none => exact ih (index + 1) answers s
      | some exited =>
        obtain ⟨status, a⟩ := exited
        simp only [reapFrom]
        cases hslot : Slot.nth index s.children with
        | none => exact ⟨[], rfl⟩
        | some slot =>
          obtain ⟨exits, h⟩ := ih index answers (s.finishExitedWorker slot status a)
          refine ⟨⟨index, status, a⟩ :: exits, h.trans ?_⟩
          simp [visit, hslot]

end Reap

end SupervisorLoopState

end Niralis
