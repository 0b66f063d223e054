import Niralis.SupervisorWorld

namespace Niralis

/-- Everything a message can make of an entry that stays in the table. -/
inductive EntryChange (a : SupervisorAction) (e : PendingWorkerLifecycle) :
    PendingWorkerLifecycle → Prop
  | prepared (workerId : String) (workerPid : Nat) (nonce : String) (x : PreparedScopeAnswers)
      (previousVt : PreviousVtIdentity) (payload : SupervisorPreparedPayload)
      (ha : a = .recordPreparedScope workerId workerPid nonce x)
      (hstate : e.record.state = .workerSpawned previousVt) (hrelease : e.release = .notRequested) :
    EntryChange a e { e.withState (.payloadPrepared payload nonce) with
      generation := wrappingAdd e.generation 1 }
  | unrecorded (workerId : String) (workerPid : Nat) (nonce : String) (x : PreparedScopeAnswers)
      (previousVt : PreviousVtIdentity)
      (ha : a = .recordPreparedScope workerId workerPid nonce x)
      (hstate : e.record.state = .workerSpawned previousVt) (hrelease : e.release = .notRequested) :
    EntryChange a e (e.withState .placeholder)
  | unprepared (workerId : String) (workerPid : Nat) (nonce : String) (x : PreparedScopeAnswers)
      (previousVt : PreviousVtIdentity)
      (ha : a = .recordPreparedScope workerId workerPid nonce x)
      (hstate : e.record.state = .workerSpawned previousVt) (hrelease : e.release = .notRequested) :
    EntryChange a e { e.withState (.quarantined .payloadIdentityValidation .invalidPayloadIdentity
      (.prePayload previousVt)) with terminalBeforeStarted := true }
  | registered (workerId : String) (workerPid : Nat) (x : WriteAnswer)
      (payload : SupervisorPreparedPayload) (nonce : String)
      (ha : a = .markPayloadRegistered workerId workerPid x)
      (hstate : e.record.state = .payloadPrepared payload nonce) :
    EntryChange a e (e.withState (.payloadRegistered payload nonce))
  | begun (request : ReleaseRequest) (ha : a = .beginRelease request)
      (hid : e.record.lifecycleId = request.workerId) (hpid : e.record.workerPid = request.workerPid)
      (hreleasable : releasable e request = true) :
    EntryChange a e { e with
      release := .requested request.releaseNonce
      generation := wrappingAdd e.generation 1 }
  | verdict (token : ReleaseToken) (reason : PayloadScopeRecoveryReason) (x : WriteAnswer)
      (ha : a = .completeRelease token (.recoveryRequired reason) x)
      (htoken : tokenMatches token e = true) :
    EntryChange a e { e with release := .recoveryRequired reason, terminalBeforeStarted := true }
  | released (token : ReleaseToken) (x : WriteAnswer) (payload : SupervisorPreparedPayload)
      (nonce : String) (ha : a = .completeRelease token .released x)
      (htoken : tokenMatches token e = true)
      (hstate : e.record.state = .payloadPrepared payload nonce ∨
        e.record.state = .payloadRegistered payload nonce) :
    EntryChange a e (e.withState (.payloadReleased payload))

def PendingWorkerLifecycle.Fresh (e : PendingWorkerLifecycle) : Prop :=
  (∃ previousVt, e.record.state = .workerSpawned previousVt) ∧ e.release = .notRequested

inductive PendingChange (a : SupervisorAction) (l : List PendingWorkerLifecycle) :
    List PendingWorkerLifecycle → Prop
  | same : PendingChange a l l
  | launched (lease : AdmissionLease) (worker : SpawnedWorker) (removed : Bool)
      (e : PendingWorkerLifecycle) (ha : a = .beginPending lease worker removed)
      (hid : e.record.lifecycleId = lease.lifecycleId)
      (hnew : ∀ old ∈ l, old.record.lifecycleId ≠ lease.lifecycleId) (hfresh : e.Fresh) :
    PendingChange a l (l ++ [e])
  | changed (slot : Slot PendingWorkerLifecycle) (e : PendingWorkerLifecycle) (hfound : l = slot.all)
      (hchange : EntryChange a slot.entry e) : PendingChange a l (slot.put e)
  | removed (slot : Slot PendingWorkerLifecycle) (hfound : l = slot.all)
      (hrunning : ∀ r x, a = .registerRunning r x → registrable r slot.entry = true) :
    PendingChange a l slot.swapRemove

/-- The record is of the same lifecycle and carries what the other knows to recover by. -/
def SupervisorSessionRecoveryRecord.Carries (q r : SupervisorSessionRecoveryRecord) : Prop :=
  q.lifecycleId = r.lifecycleId ∧ q.retainedIdentity = r.retainedIdentity

namespace SupervisorSessionRecoveryRecord
variable {p q r : SupervisorSessionRecoveryRecord}

theorem Carries.refl (r : SupervisorSessionRecoveryRecord) : r.Carries r := ⟨rfl, rfl⟩

theorem Carries.trans (h : q.Carries r) (h' : p.Carries q) : p.Carries r :=
  ⟨h'.1.trans h.1, h'.2.trans h.2⟩

theorem retainedIdentity_of_live {payload : SupervisorPreparedPayload}
    (h : r.state.livePayload = some payload) : r.retainedIdentity = .payload payload := by
  unfold retainedIdentity
  cases hs : r.state <;> rw [hs] at h <;> cases h <;> rfl

theorem quarantine_carries (r : SupervisorSessionRecoveryRecord) (stage : EmergencyRecoveryStage)
    (reason : SupervisorRecoveryError) : (r.quarantine stage reason).Carries r := ⟨rfl, rfl⟩

theorem markExited_carries (r : SupervisorSessionRecoveryRecord) (status : ExitStatus) :
    (markWorkerExitedUnexpectedly r status).2.Carries r := by
  refine ⟨lifecycleId_markExited status, ?_⟩
  simp only [markWorkerExitedUnexpectedly, retainedIdentity]
  cases hs : r.state <;> simp [hs, SupervisorRecoveryState.livePayload]

theorem recover_carries (r : SupervisorSessionRecoveryRecord) (status : ExitStatus)
    (x : EmergencyAnswers) : (recoverEmergency r status x).2.Carries r := by
  refine ⟨lifecycleId_recover status x, ?_⟩
  unfold recoverEmergency
  cases hs : r.state.livePayload with
  | none => rfl
  | some payload => exact (retainedIdentity_of_live hs).symm

end SupervisorSessionRecoveryRecord

/-- What becomes of a record that was taken out of its table: at most it is quarantined. -/
structure Settles (s : SupervisorLoopState) (r : SupervisorSessionRecoveryRecord)
    (t : SupervisorLoopState) : Prop where
  pending : t.pending = s.pending
  children : t.children = s.children
  quarantined : ∀ q ∈ t.quarantined, q ∈ s.quarantined ∨ q.Carries r

namespace Settles
variable {s t : SupervisorLoopState} {q r : SupervisorSessionRecoveryRecord}

theorem of_eq (hpending : t.pending = s.pending) (hchildren : t.children = s.children)
    (hquarantined : t.quarantined = s.quarantined) : Settles s r t :=
  ⟨hpending, hchildren, fun _ hq => Or.inl (hquarantined ▸ hq)⟩

theorem of_push (hpending : t.pending = s.pending) (hchildren : t.children = s.children)
    (hquarantined : t.quarantined = s.quarantined ++ [q]) (hq : q.Carries r) : Settles s r t := by
  refine ⟨hpending, hchildren, fun p hp => ?_⟩
  rw [hquarantined] at hp
  rcases List.mem_append.mp hp with hp | hp
  · exact Or.inl hp
  · rw [List.mem_singleton] at hp
    exact Or.inr (hp ▸ hq)

/-- A record that carries the same and is settled from tables that are the same. -/
theorem congr {s' : SupervisorLoopState} (h : Settles s' q t)
    (hpending : s'.pending = s.pending) (hchildren : s'.children = s.children)
    (hquarantined : s'.quarantined = s.quarantined) (hq : q.Carries r) : Settles s r t := by
  refine ⟨h.pending.trans hpending, h.children.trans hchildren, fun p hp => ?_⟩
  rcases h.quarantined p hp with hp | hp
  · exact Or.inl (hquarantined ▸ hp)
  · exact Or.inr (hq.trans hp)

end Settles

namespace SupervisorLoopState
variable {s : SupervisorLoopState}

theorem persistResolve_eq {id : String} {x : ResolveAnswers} {ok : Bool} {t : SupervisorLoopState}
    (h : s.persistResolve id x = (ok, t)) : ∃ ledger, t = { s with ledger } :=
  ⟨_, (congrArg Prod.snd h).symm⟩

theorem persistTransition_eq {id state : String} {x : WriteAnswer} {ok : Bool}
    {t : SupervisorLoopState} (h : s.persistTransition id state x = (ok, t)) :
    ∃ ledger, t = { s with ledger } :=
  ⟨_, (congrArg Prod.snd h).symm⟩

theorem settles_releaseSeat (id : String) (r : SupervisorSessionRecoveryRecord)
    (result : Except SessionError Unit × SeatAdmissionController) :
    Settles s r (s.releaseSeat id result) := by
  obtain ⟨_ | _, admission⟩ := result <;> exact .of_eq rfl rfl rfl

theorem settles_quarantinePrePayload (entry : PendingWorkerLifecycle)
    (stage : EmergencyRecoveryStage) (reason : SupervisorRecoveryError)
    (recovery : RecoverySeatReceipt) :
    Settles s entry.record (s.quarantinePrePayload entry stage reason recovery).2 := by
  unfold quarantinePrePayload
  split
  · exact .of_eq rfl rfl rfl
  · exact .of_push rfl rfl rfl (entry.record.quarantine_carries stage reason)

theorem settles_recoverPrePayloadEntry (entry : PendingWorkerLifecycle)
    (recovery : RecoverySeatReceipt) (x : AbortAnswers) :
    Settles s entry.record (s.recoverPrePayloadEntry entry recovery x).2 := by
  unfold recoverPrePayloadEntry
  split
  · split
    · exact settles_releaseSeat _ _ _
    · exact settles_quarantinePrePayload _ _ _ _
  · exact settles_quarantinePrePayload _ _ _ _

theorem settles_recoverPayloadEntry (entry : PendingWorkerLifecycle) (status : ExitStatus)
    (recovery : RecoverySeatReceipt) (x : AbortAnswers) :
    Settles s entry.record (s.recoverPayloadEntry entry status recovery x).2 := by
  have hcarries := entry.record.recover_carries status x.emergency
  unfold recoverPayloadEntry
  dsimp only
  split
  · split
    next hresolve =>
      obtain ⟨ledger, rfl⟩ := persistResolve_eq hresolve
      exact .of_eq rfl rfl rfl
    next t hresolve =>
      obtain ⟨ledger, rfl⟩ := persistResolve_eq hresolve
      exact .congr (settles_releaseSeat _ _ _) rfl rfl rfl (.refl _)
  next stage reason record hrecover =>
    rw [hrecover] at hcarries
    split
    · split
      · exact .of_eq rfl rfl rfl
      · exact .of_eq rfl rfl rfl
    · split
      · exact .of_push rfl rfl rfl (hcarries.trans (record.quarantine_carries stage reason))
      · exact .of_push rfl rfl rfl (hcarries.trans (record.quarantine_carries stage reason))

theorem settles_settlePending (lease : PendingLifecycleLease) (entry : PendingWorkerLifecycle)
    (expectedClean : Bool) (status : ExitStatus) (x : AbortAnswers) :
    Settles s entry.record (s.settlePending lease entry expectedClean status x).2 := by
  unfold settlePending
  split
  · exact .congr (settles_releaseSeat _ _ _) rfl rfl rfl (.refl _)
  · split
    · dsimp only
      split
      · exact .of_eq rfl rfl rfl
      · exact .congr (settles_recoverPayloadEntry _ _ _ _) rfl rfl rfl
          (entry.record.markExited_carries status)
    · split
      · exact .of_eq rfl rfl rfl
      · exact .congr (settles_recoverPrePayloadEntry _ _ _) rfl rfl rfl (.refl _)

theorem settles_recoverExitedWorker (worker : SupervisedWorker) (status : ExitStatus)
    (x : ExitAnswers) :
    Settles s worker.record (s.recoverExitedWorker worker status x) := by
  have hmarked := worker.record.markExited_carries status
  have hcarries :=
    (markWorkerExitedUnexpectedly worker.record status).2.recover_carries status x.emergency
  unfold recoverExitedWorker
  dsimp only
  split
  · exact .of_eq rfl rfl rfl
  · split
    · exact .congr (settles_releaseSeat _ _ _) rfl rfl rfl (.refl _)
    next stage reason record hrecover =>
      rw [hrecover] at hcarries
      have hrecord := (hmarked.trans hcarries).trans (record.quarantine_carries stage reason)
      split
      · exact .of_push rfl rfl rfl hrecord
      · exact .of_push rfl rfl rfl hrecord

theorem settles_finishExitedWorker (slot : Slot SupervisedWorker) (status : ExitStatus)
    (x : ExitAnswers) :
    Settles { s with children := slot.swapRemove } slot.entry.record
      (s.finishExitedWorker slot status x) := by
  unfold finishExitedWorker
  dsimp only
  split
  · exact .of_push rfl rfl rfl (.refl _)
  · split
    · split
      · exact .congr (settles_releaseSeat _ _ _) rfl rfl rfl (.refl _)
      · exact .congr (settles_recoverExitedWorker _ _ _) rfl rfl rfl (.refl _)
    · exact settles_recoverExitedWorker _ _ _

/-- The records of workers that left the pending table. -/
def settled (s : SupervisorLoopState) : List SupervisorSessionRecoveryRecord :=
  s.children.map (·.record) ++ s.quarantined

def keptRecords (s : SupervisorLoopState) : List SupervisorSessionRecoveryRecord :=
  s.pending.map (·.record) ++ s.settled

variable {a : SupervisorAction} {t : SupervisorLoopState}

/-- What a message does to the tables: records leave the pending table with what they carry. -/
structure TableChange (a : SupervisorAction) (s t : SupervisorLoopState) : Prop where
  pending : PendingChange a s.pending t.pending
  settled : ∀ r ∈ t.settled, ∃ q ∈ s.keptRecords, r.Carries q

theorem mem_kept_of_pending {e : PendingWorkerLifecycle} (h : e ∈ s.pending) :
    e.record ∈ s.keptRecords :=
  List.mem_append_left _ (List.mem_map_of_mem h)

theorem mem_kept_of_settled {r : SupervisorSessionRecoveryRecord} (h : r ∈ s.settled) :
    r ∈ s.keptRecords := List.mem_append_right _ h

theorem mem_settled_iff {r : SupervisorSessionRecoveryRecord} :
    r ∈ s.settled ↔ (∃ worker ∈ s.children, worker.record = r) ∨ r ∈ s.quarantined := by
  rw [settled, List.mem_append, List.mem_map]

namespace TableChange

theorem of_eq (hpending : PendingChange a s.pending t.pending) (hchildren : t.children = s.children)
    (hquarantined : t.quarantined = s.quarantined) : TableChange a s t := by
  refine ⟨hpending, fun r hr => ⟨r, mem_kept_of_settled ?_, .refl r⟩⟩
  rwa [SupervisorLoopState.settled, hchildren, hquarantined] at hr

theorem same (hpending : t.pending = s.pending) (hchildren : t.children = s.children)
    (hquarantined : t.quarantined = s.quarantined) : TableChange a s t :=
  of_eq (hpending ▸ .same) hchildren hquarantined

/-- A record that was settled after it was taken out of one of the tables. -/
theorem of_settles {base : SupervisorLoopState} {r : SupervisorSessionRecoveryRecord}
    (h : Settles base r t) (hr : r ∈ s.keptRecords)
    (hpending : PendingChange a s.pending base.pending)
    (hchildren : ∀ worker ∈ base.children, worker ∈ s.children)
    (hquarantined : base.quarantined = s.quarantined) : TableChange a s t := by
  refine ⟨h.pending ▸ hpending, fun q hq => ?_⟩
  rcases mem_settled_iff.mp hq with ⟨worker, hworker, rfl⟩ | hq
  · rw [h.children] at hworker
    have hmem := mem_settled_iff.mpr (Or.inl ⟨worker, hchildren worker hworker, rfl⟩)
    exact ⟨_, mem_kept_of_settled hmem, .refl _⟩
  · rcases h.quarantined q hq with hq | hq
    · rw [hquarantined] at hq
      exact ⟨q, mem_kept_of_settled (mem_settled_iff.mpr (Or.inr hq)), .refl q⟩
    · exact ⟨r, hr, hq⟩

end TableChange

theorem mem_pending_of_slot {slot : Slot PendingWorkerLifecycle} (h : s.pending = slot.all) :
    slot.entry ∈ s.pending := by
  rw [h]
  exact Slot.mem_all.mpr (Or.inl rfl)

theorem change_reserveSeat (id : String) (previousVt : Option PreviousVtIdentity)
    (created : Option PreCommitRuntimeBinding) :
    TableChange a s (s.reserveSeat id previousVt created).2 := by
  unfold reserveSeat
  split
  · exact .same rfl rfl rfl
  · split
    · exact .same rfl rfl rfl
    · split
      · exact .same rfl rfl rfl
      · dsimp only
        split
        · exact .same rfl rfl rfl
        · split
          · exact .same rfl rfl rfl
          · exact .same rfl rfl rfl

theorem not_pending_of_any {id : String} (h : s.pending.any (·.record.lifecycleId = id) = false) :
    ∀ e ∈ s.pending, e.record.lifecycleId ≠ id := by
  intro e he hid
  have := List.any_eq_false.mp h e he
  simp [hid] at this

theorem change_beginPending (lease : AdmissionLease) (worker : SpawnedWorker) (removed : Bool) :
    TableChange (.beginPending lease worker removed) s (s.beginPending lease worker removed).2 := by
  unfold beginPending
  split
  · exact .same rfl rfl rfl
  next hvalid =>
    split
    · exact .same rfl rfl rfl
    next pendingLease previousVt admission hpromote =>
      simp only [Bool.or_eq_true, not_or, Bool.not_eq_true] at hvalid
      exact .of_eq (.launched lease worker removed _ rfl rfl (not_pending_of_any hvalid.2)
        ⟨⟨previousVt, rfl⟩, rfl⟩) rfl rfl

theorem change_abortPending (lease : PendingLifecycleLease) (expectedClean : Bool)
    (exitStatus : Option ExitStatus) (x : AbortAnswers)
    (hrunning : ∀ r y, a ≠ .registerRunning r y) :
    TableChange a s (s.abortPending lease expectedClean exitStatus x).2 := by
  unfold abortPending
  split
  · exact .same rfl rfl rfl
  · split
    · exact .same rfl rfl rfl
    next slot hfirst =>
      have hfound := (Slot.first_eq_some hfirst).1
      have hchange : PendingChange a s.pending slot.swapRemove :=
        .removed slot hfound fun r y ha => absurd ha (hrunning r y)
      dsimp only
      split
      · exact .of_eq hchange rfl rfl
      next status hstatus =>
        exact .of_settles (settles_settlePending _ _ _ _ _)
          (mem_kept_of_pending (mem_pending_of_slot hfound)) hchange (fun _ h => h) rfl

theorem started_carries {e : PendingWorkerLifecycle} {payload : SupervisorPreparedPayload}
    {nonce : String} (hstate : e.record.state = .payloadRegistered payload nonce)
    {state : SupervisorRecoveryState}
    (h : (e.withState state).record.retainedIdentity = .payload payload) :
    (e.withState state).record.Carries e.record := by
  refine ⟨rfl, ?_⟩
  rw [h, SupervisorSessionRecoveryRecord.retainedIdentity_of_live (by rw [hstate]; rfl)]

theorem change_startRunning {base : SupervisorLoopState} {entry : PendingWorkerLifecycle}
    {payload : SupervisorPreparedPayload} {nonce : String} (r : RunningRegistration)
    (x : RegistrationAnswers) (hentry : entry ∈ base.pending)
    (hstate : entry.record.state = .payloadRegistered payload nonce)
    (hpending : PendingChange a base.pending s.pending) (hchildren : s.children = base.children)
    (hquarantined : s.quarantined = base.quarantined) :
    TableChange a base (s.startRunning entry payload r x).2 := by
  unfold startRunning
  split
  next htransition =>
    obtain ⟨ledger, rfl⟩ := persistTransition_eq htransition
    exact .of_eq hpending hchildren hquarantined
  next htransition =>
    obtain ⟨ledger, rfl⟩ := persistTransition_eq htransition
    dsimp only
    split
    · exact .of_eq hpending hchildren hquarantined
    · split
      · exact .of_eq hpending hchildren hquarantined
      · refine ⟨hpending, fun q hq => ?_⟩
        rcases mem_settled_iff.mp hq with ⟨worker, hworker, rfl⟩ | hq
        · rcases List.mem_append.mp hworker with hworker | hworker
          · rw [hchildren] at hworker
            have hmem := mem_settled_iff.mpr (Or.inl ⟨worker, hworker, rfl⟩)
            exact ⟨_, mem_kept_of_settled hmem, .refl _⟩
          · rw [List.mem_singleton] at hworker
            subst hworker
            exact ⟨_, mem_kept_of_pending hentry, started_carries hstate rfl⟩
        · have hmem : q ∈ base.quarantined := hquarantined ▸ hq
          exact ⟨q, mem_kept_of_settled (mem_settled_iff.mpr (Or.inr hmem)), .refl q⟩

theorem change_registerRunning (r : RunningRegistration) (x : RegistrationAnswers) :
    TableChange (.registerRunning r x) s (s.registerRunning r x).2 := by
  unfold registerRunning
  split
  · exact .same rfl rfl rfl
  · split
    · unfold withPendingLease
      split
      · exact .same rfl rfl rfl
      · exact .same rfl rfl rfl
    next slot hfirst =>
      obtain ⟨hfound, hregistrable⟩ := Slot.first_eq_some hfirst
      have hchange : PendingChange (.registerRunning r x) s.pending slot.swapRemove := by
        refine .removed slot hfound fun r' y ha => ?_
        cases ha
        exact hregistrable
      have hentry := mem_pending_of_slot hfound
      dsimp only
      split
      next payload nonce hstate =>
        split
        · unfold rejectRegistration
          split
          · exact .of_eq hchange rfl rfl
          next lease hlease =>
            have hsettles : Settles { s with pending := slot.swapRemove } slot.entry.record
                { s with
                  pending := slot.swapRemove
                  admission := (s.admission.enterQuarantineFromPending lease
                    .recoveryRecordValidation .invalidRecord).2
                  quarantined := s.quarantined ++ [(slot.entry.withState (.quarantined
                    .recoveryRecordValidation .invalidRecord (.payload payload))).record] } :=
              .of_push rfl rfl rfl (started_carries hstate rfl)
            exact .of_settles hsettles (mem_kept_of_pending hentry) hchange (fun _ h => h) rfl
        · exact change_startRunning r x hentry hstate hchange rfl rfl
      · exact .of_eq hchange rfl rfl

theorem change_recordPreparedScope (workerId : String) (workerPid : Nat) (nonce : String)
    (x : PreparedScopeAnswers) :
    TableChange (.recordPreparedScope workerId workerPid nonce x) s
      (s.recordPreparedScope workerId workerPid nonce x).2 := by
  unfold recordPreparedScope
  split
  · exact .same rfl rfl rfl
  next slot hfirst =>
    have hfound := (Slot.first_eq_some hfirst).1
    dsimp only
    split
    · exact .same rfl rfl rfl
    next htaken =>
      have hrelease : slot.entry.release = .notRequested := by
        simp only [Bool.or_eq_true, not_or, decide_eq_true_eq, not_not] at htaken
        exact htaken.1.2
      split
      next previousVt hstate =>
        split
        · split
          · exact .of_eq (.changed slot _ hfound (.prepared workerId workerPid nonce x previousVt _ rfl
              hstate hrelease)) rfl rfl
          · exact .of_eq (.changed slot _ hfound (.unrecorded workerId workerPid nonce x previousVt
              rfl hstate hrelease)) rfl rfl
        · exact .of_eq (.changed slot _ hfound (.unprepared workerId workerPid nonce x previousVt
            rfl hstate hrelease)) rfl rfl
      · exact .same rfl rfl rfl

theorem change_markPayloadRegistered (workerId : String) (workerPid : Nat) (x : WriteAnswer) :
    TableChange (.markPayloadRegistered workerId workerPid x) s
      (s.markPayloadRegistered workerId workerPid x).2 := by
  unfold markPayloadRegistered
  split
  · exact .same rfl rfl rfl
  next slot hfirst =>
    have hfound := (Slot.first_eq_some hfirst).1
    split
    next payload nonce hstate =>
      exact .of_eq (.changed slot _ hfound (.registered workerId workerPid x payload nonce rfl
        hstate)) rfl rfl
    · exact .same rfl rfl rfl

theorem change_beginRelease (request : ReleaseRequest) :
    TableChange (.beginRelease request) s (s.beginRelease request).2 := by
  unfold beginRelease
  split
  · exact .same rfl rfl rfl
  next slot hfirst =>
    obtain ⟨hfound, hids⟩ := Slot.first_eq_some hfirst
    simp only [Bool.and_eq_true, decide_eq_true_eq] at hids
    split
    · exact .same rfl rfl rfl
    next hreleasable =>
      exact .of_eq (.changed slot _ hfound (.begun request rfl hids.1 hids.2
        (by simpa using hreleasable))) rfl rfl

theorem change_completeRelease (token : ReleaseToken) (verification : ScopeReleaseVerification)
    (x : WriteAnswer) :
    TableChange (.completeRelease token verification x) s
      (s.completeRelease token verification x).2 := by
  unfold completeRelease
  split
  · exact .same rfl rfl rfl
  next slot hfirst =>
    obtain ⟨hfound, htoken⟩ := Slot.first_eq_some hfirst
    cases verification with
    | recoveryRequired reason =>
      exact .of_eq (.changed slot _ hfound (.verdict token reason x rfl htoken)) rfl rfl
    | released =>
      dsimp only
      split
      next payload nonce hstate =>
        exact .of_eq (.changed slot _ hfound (.released token x payload nonce rfl htoken
          (Or.inl hstate))) rfl rfl
      next payload nonce hstate =>
        exact .of_eq (.changed slot _ hfound (.released token x payload nonce rfl htoken
          (Or.inr hstate))) rfl rfl
      · exact .same rfl rfl rfl

theorem change_acceptTerminalVtIntent (workerId : String) (workerPid : Nat) (nonce : String)
    (identity : PayloadScopeIdentity) (x : WriteAnswer) :
    TableChange a s (s.acceptTerminalVtIntent workerId workerPid nonce identity x).2 := by
  unfold acceptTerminalVtIntent
  split
  · exact .same rfl rfl rfl
  · split
    · exact .same rfl rfl rfl
    · split
      · exact .same rfl rfl rfl
      · split
        · exact .same rfl rfl rfl
        · split
          · exact .same rfl rfl rfl
          · split
            · exact .same rfl rfl rfl
            · exact .same rfl rfl rfl

theorem change_flag {slot : Slot SupervisedWorker} {busy : Bool} {t : SupervisorLoopState}
    (hfound : s.children = slot.all) (hpending : t.pending = s.pending)
    (hchildren : t.children = slot.put { slot.entry with terminalVtReportedBusy := busy })
    (hquarantined : t.quarantined = s.quarantined) : TableChange a s t := by
  refine ⟨hpending ▸ .same, fun r hr => ⟨r, mem_kept_of_settled ?_, .refl r⟩⟩
  rcases mem_settled_iff.mp hr with ⟨worker, hworker, rfl⟩ | hr
  · rw [hchildren] at hworker
    rcases Slot.mem_put.mp hworker with rfl | hother
    · exact mem_settled_iff.mpr (Or.inl ⟨slot.entry, hfound ▸ Slot.mem_all.mpr (Or.inl rfl), rfl⟩)
    · exact mem_settled_iff.mpr (Or.inl ⟨worker, hfound ▸ Slot.mem_all.mpr (Or.inr hother), rfl⟩)
  · exact mem_settled_iff.mpr (Or.inr (hquarantined ▸ hr))

theorem change_acceptTerminalVtResult (workerId : String) (workerPid : Nat) (nonce : String)
    (attemptId : Nat) (result : TerminalVtCleanupResult) (x : WriteAnswer) :
    TableChange a s (s.acceptTerminalVtResult workerId workerPid nonce attemptId result x).2 := by
  unfold acceptTerminalVtResult
  split
  · exact .same rfl rfl rfl
  · split
    · exact .same rfl rfl rfl
    next slot hfirst =>
      have hfound := (Slot.first_eq_some hfirst).1
      split
      · exact .same rfl rfl rfl
      · split
        · exact .same rfl rfl rfl
        · split
          · exact .same rfl rfl rfl
          · split
            · exact .same rfl rfl rfl
            · split
              · exact .same rfl rfl rfl
              · exact change_flag hfound rfl rfl rfl

theorem change_visit (exit : Exit) : TableChange a s (s.visit exit) := by
  unfold visit
  split
  · exact .same rfl rfl rfl
  next slot hslot =>
    have hfound := Slot.nth_eq_some hslot
    have hentry : slot.entry.record ∈ s.keptRecords := by
      refine mem_kept_of_settled (mem_settled_iff.mpr (Or.inl ⟨slot.entry, ?_, rfl⟩))
      rw [hfound]
      exact Slot.mem_all.mpr (Or.inl rfl)
    refine .of_settles (settles_finishExitedWorker slot _ _) hentry .same (fun worker h => ?_) rfl
    rw [hfound]
    exact Slot.mem_all.mpr (Or.inr (Slot.mem_swapRemove.mp h))

end SupervisorLoopState

/-- Everything that a message of anyone does to the supervisor's tables. -/
theorem SupervisorWorld.change_step (w : SupervisorWorld) (a : SupervisorAction) :
    SupervisorLoopState.TableChange a w.loop (w.step a).loop := by
  cases a with
  | reserveSeat id previousVt created =>
    have h := SupervisorLoopState.change_reserveSeat (s := w.loop)
      (a := .reserveSeat id previousVt created) id previousVt created
    unfold step
    dsimp only
    split
    next hreserve => rwa [hreserve] at h
    next hreserve => rwa [hreserve] at h
  | updatePrecommitRuntime lease answer => exact .same rfl rfl rfl
  | cancelAdmission lease removed => exact .same rfl rfl rfl
  | beginPending lease worker removed =>
    have h := SupervisorLoopState.change_beginPending (s := w.loop) lease worker removed
    unfold step
    dsimp only
    split
    next hbegin => rwa [hbegin] at h
    next hbegin => rwa [hbegin] at h
  | recordPreparedScope workerId workerPid nonce x =>
    exact SupervisorLoopState.change_recordPreparedScope _ _ _ _
  | markPayloadRegistered workerId workerPid x =>
    exact SupervisorLoopState.change_markPayloadRegistered _ _ _
  | beginRelease request => exact SupervisorLoopState.change_beginRelease _
  | completeRelease token verification x => exact SupervisorLoopState.change_completeRelease _ _ _
  | abortPending transaction expectedClean exitStatus x =>
    unfold step
    dsimp only
    split
    · exact .same rfl rfl rfl
    · exact SupervisorLoopState.change_abortPending _ _ _ _ fun _ _ h => by cases h
  | registerRunning r x => exact SupervisorLoopState.change_registerRunning _ _
  | terminalVtIntent workerId workerPid nonce identity x =>
    exact SupervisorLoopState.change_acceptTerminalVtIntent _ _ _ _ _
  | terminalVtResult workerId workerPid nonce attemptId result x =>
    exact SupervisorLoopState.change_acceptTerminalVtResult _ _ _ _ _ _
  | workerExited exit => exact SupervisorLoopState.change_visit _

end Niralis
