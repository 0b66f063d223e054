import Niralis.PendingTable

namespace Niralis
open SupervisorLoopState

/-- The later record knows what the earlier one knows, or the payload that was prepared since. -/
def SupervisorSessionRecoveryRecord.Advances (q r : SupervisorSessionRecoveryRecord) : Prop :=
  q.lifecycleId = r.lifecycleId ∧ (q.retainedIdentity = r.retainedIdentity ∨
    ∃ previousVt payload, r.retainedIdentity = .prePayload previousVt ∧
      q.retainedIdentity = .payload payload)

/-- The durable record of a payload that could be prepared is created. -/
def CreatesRecord (w : SupervisorWorld) : SupervisorAction → Prop
  | .recordPreparedScope workerId workerPid nonce x =>
    ∀ slot previousVt payload, Slot.first (fun e : PendingWorkerLifecycle =>
        e.record.lifecycleId = workerId && e.record.workerPid = workerPid) w.loop.pending =
          some slot →
      scopeRefused slot.entry nonce = false →
      slot.entry.record.state = .workerSpawned previousVt → x.preparePayload = .ok payload →
      (createIn w.loop.ledger (.prepared slot.entry.record.lifecycleId workerPid
        slot.entry.record.launcherPid previousVt payload x.bootId) x.create).1 = true
  | _ => True

section Entries
variable {a : SupervisorAction} {e e' : PendingWorkerLifecycle} {w : SupervisorWorld}
  {q r : SupervisorSessionRecoveryRecord}

theorem SupervisorSessionRecoveryRecord.Carries.advances (h : q.Carries r) : q.Advances r :=
  ⟨h.1, Or.inl h.2⟩

theorem retainedIdentity_spawned {previousVt : PreviousVtIdentity}
    (h : r.state = .workerSpawned previousVt) : r.retainedIdentity = .prePayload previousVt := by
  rw [SupervisorSessionRecoveryRecord.retainedIdentity, h]

theorem withState_carries {payload : SupervisorPreparedPayload} {state : SupervisorRecoveryState}
    (hold : e.record.state.livePayload = some payload) (hnew : state.livePayload = some payload) :
    (e.withState state).record.Carries e.record := by
  refine ⟨rfl, ?_⟩
  rw [SupervisorSessionRecoveryRecord.retainedIdentity_of_live hold]
  exact SupervisorSessionRecoveryRecord.retainedIdentity_of_live hnew

theorem advances_put {slot : Slot PendingWorkerLifecycle} {l : List PendingWorkerLifecycle}
    (hfound : l = slot.all) (h : e'.record.Advances slot.entry.record) :
    ∀ x ∈ slot.put e', ∃ y ∈ l, x.record.Advances y.record := by
  intro x hx
  rw [hfound]
  rcases Slot.mem_put.mp hx with rfl | hx
  · exact ⟨slot.entry, Slot.mem_all.mpr (Or.inl rfl), h⟩
  · exact ⟨x, Slot.mem_all.mpr (Or.inr hx), rfl, Or.inl rfl⟩

/-- A prepared scope whose durable record is created leaves no placeholder. -/
theorem advances_recordPreparedScope {workerId : String} {workerPid : Nat} {nonce : String}
    {x : PreparedScopeAnswers} (hok : CreatesRecord w (.recordPreparedScope workerId workerPid nonce x)) :
    ∀ e' ∈ (w.loop.recordPreparedScope workerId workerPid nonce x).2.pending,
      ∃ e ∈ w.loop.pending, e'.record.Advances e.record := by
  have hsame : ∀ e' ∈ w.loop.pending, ∃ e ∈ w.loop.pending, e'.record.Advances e.record :=
    fun e' he' => ⟨e', he', rfl, Or.inl rfl⟩
  unfold recordPreparedScope
  split
  · exact hsame
  next slot hfirst =>
    have hfound := (Slot.first_eq_some hfirst).1
    dsimp only
    split
    · exact hsame
    next htaken =>
      have htaken : scopeRefused slot.entry nonce = false := by simpa [scopeRefused] using htaken
      split
      next previousVt hstate =>
        split
        next payload hprepare =>
          have hcreated : (w.loop.persistNewRecord (.prepared slot.entry.record.lifecycleId
              workerPid slot.entry.record.launcherPid previousVt payload x.bootId) x.create).1 =
                true := hok slot previousVt payload hfirst htaken hstate hprepare
          rw [if_pos hcreated]
          exact advances_put hfound
            ⟨rfl, Or.inr ⟨previousVt, payload, retainedIdentity_spawned hstate, rfl⟩⟩
        · exact advances_put hfound ⟨rfl, Or.inl (retainedIdentity_spawned hstate).symm⟩
      · exact hsame

/-- The entries after a message: each continues one from before, or was launched by it. -/
theorem advances_pending (hok : CreatesRecord w a) :
    ∀ e' ∈ (w.step a).loop.pending, (∃ e ∈ w.loop.pending, e'.record.Advances e.record) ∨
      ∃ lease worker removed, a = .beginPending lease worker removed ∧
        e'.record.lifecycleId = lease.lifecycleId ∧ e'.Fresh := by
  intro e' he'
  by_cases hscope : ∃ workerId workerPid nonce x, a = .recordPreparedScope workerId workerPid nonce x
  · obtain ⟨workerId, workerPid, nonce, x, rfl⟩ := hscope
    exact Or.inl (advances_recordPreparedScope hok e' he')
  have hchange := (w.change_step a).pending
  have hsame : e' ∈ w.loop.pending → ∃ e ∈ w.loop.pending, e'.record.Advances e.record :=
    fun hmem => ⟨e', hmem, rfl, Or.inl rfl⟩
  generalize (w.step a).loop.pending = l' at he' hchange
  cases hchange with
  | same => exact Or.inl (hsame he')
  | launched lease worker removed e ha hid hnew hfresh =>
    rcases List.mem_append.mp he' with he' | he'
    · exact Or.inl (hsame he')
    · rw [List.mem_singleton] at he'
      subst he'
      exact Or.inr ⟨lease, worker, removed, ha, hid, hfresh⟩
  | removed slot hfound hrunning =>
    refine Or.inl (hsame ?_)
    rw [hfound]
    exact Slot.mem_all.mpr (Or.inr (Slot.mem_swapRemove.mp he'))
  | changed slot e hfound hentry =>
    refine Or.inl (advances_put hfound ?_ e' he')
    cases hentry with
    | unrecorded workerId workerPid nonce x previousVt ha =>
      exact absurd ⟨workerId, workerPid, nonce, x, ha⟩ hscope
    | prepared workerId workerPid nonce x previousVt payload ha =>
      exact absurd ⟨workerId, workerPid, nonce, x, ha⟩ hscope
    | unprepared workerId workerPid nonce x previousVt ha =>
      exact absurd ⟨workerId, workerPid, nonce, x, ha⟩ hscope
    | registered workerId workerPid x payload nonce ha hstate =>
      exact (withState_carries (by rw [hstate]; rfl) rfl).advances
    | begun request ha hid hpid hreleasable => exact ⟨rfl, Or.inl rfl⟩
    | verdict token reason x ha htoken => exact ⟨rfl, Or.inl rfl⟩
    | released token x payload nonce ha htoken hstate =>
      have hlive : slot.entry.record.state.livePayload = some payload := by
        rcases hstate with hstate | hstate <;> rw [hstate] <;> rfl
      exact (withState_carries hlive rfl).advances

theorem advances_step (hok : CreatesRecord w a) :
    ∀ q ∈ (w.step a).loop.keptRecords, (∃ r ∈ w.loop.keptRecords, q.Advances r) ∨
      ∃ lease worker removed previousVt, a = .beginPending lease worker removed ∧
        q.lifecycleId = lease.lifecycleId ∧ q.state = .workerSpawned previousVt := by
  intro q hq
  rcases List.mem_append.mp hq with hq | hq
  · obtain ⟨e', he', rfl⟩ := List.mem_map.mp hq
    rcases advances_pending hok e' he' with ⟨e, he, h⟩ | ⟨lease, worker, removed, ha, hid, hfresh⟩
    · exact Or.inl ⟨e.record, mem_kept_of_pending he, h⟩
    · obtain ⟨previousVt, hstate⟩ := hfresh.1
      exact Or.inr ⟨lease, worker, removed, previousVt, ha, hid, hstate⟩
  · obtain ⟨r, hr, h⟩ := (w.change_step a).settled q hq
    exact Or.inl ⟨r, hr, h.advances⟩

end Entries

section Runs

/-- Every record in memory knows a payload or the terminal it came from. -/
def Known (w : SupervisorWorld) : Prop :=
  ∀ r ∈ w.loop.keptRecords, r.retainedIdentity ≠ .unavailable

theorem known_step {w : SupervisorWorld} {a : SupervisorAction} (hw : Known w)
    (hok : CreatesRecord w a) : Known (w.step a) := by
  intro q hq
  rcases advances_step hok q hq with ⟨r, hr, -, hsame | ⟨vt, payload, -, hpayload⟩⟩ |
    ⟨lease, worker, removed, previousVt, -, -, hstate⟩
  · rw [hsame]
    exact hw r hr
  · rw [hpayload]
    exact SupervisorRetainedRecoveryIdentity.noConfusion
  · rw [retainedIdentity_spawned hstate]
    exact SupervisorRetainedRecoveryIdentity.noConfusion

variable (processId : Nat) (ledger : Option PersistentRecoveryLedger)
  (store : Option PreCommitRuntimeMarks) (actions : List SupervisorAction)

def reached (n : Nat) : SupervisorWorld :=
  (actions.take n).foldl SupervisorWorld.step (.new processId ledger store)

variable {processId ledger store actions}

/-- Later records of a lifecycle that is not launched again know what the earlier ones knew. -/
theorem identity_run {i j : Nat} {id : String} {identity : SupervisorRetainedRecoveryIdentity}
    (h : StepsMeet SupervisorWorld.step CreatesRecord (.new processId ledger store) actions)
    (hij : i ≤ j)
    (hlaunch : ∀ k, i ≤ k → k < j → ∀ lease worker removed,
      actions[k]? = some (.beginPending lease worker removed) → lease.lifecycleId ≠ id)
    (hi : ∀ r ∈ (reached processId ledger store actions i).loop.keptRecords,
      r.lifecycleId = id → r.retainedIdentity = identity) :
    ∀ r ∈ (reached processId ledger store actions j).loop.keptRecords, r.lifecycleId = id →
      r.retainedIdentity = identity ∨
      ∃ previousVt payload, identity = .prePayload previousVt ∧
        r.retainedIdentity = .payload payload := by
  induction j, hij using Nat.le_induction with
  | base => exact fun r hr hid => Or.inl (hi r hr hid)
  | succ j hij ih =>
    have ih := ih fun k hik hkj => hlaunch k hik (Nat.lt_succ_of_lt hkj)
    intro q hq hid
    cases ha : actions[j]? with
    | none =>
      have hsame : actions.take (j + 1) = actions.take j := by
        rw [List.take_add_one, ha, Option.toList_none, List.append_nil]
      rw [reached, hsame] at hq
      exact ih q hq hid
    | some a =>
      rw [reached, foldl_take_succ ha] at hq
      have hok := stepsMeet_getElem h ha
      rcases advances_step hok q hq with ⟨r, hr, hrid, hsame | ⟨vt, payload, hold, hnew⟩⟩ |
        ⟨lease, worker, removed, previousVt, rfl, hlease, -⟩
      · rw [hsame]
        exact ih r hr (hrid.symm.trans hid)
      · rcases ih r hr (hrid.symm.trans hid) with hr | ⟨vt', payload', -, hr⟩
        · exact Or.inr ⟨vt, payload, hr.symm.trans hold, hnew⟩
        · cases hr.symm.trans hold
      · exact absurd (hlease.symm.trans hid) (hlaunch j hij (Nat.lt_succ_self j) _ _ _ ha)

/-- In every run in which the durable records of prepared payloads are created, no record in memory
rests as the placeholder, and a record that knows a payload, or before that the previous terminal,
knows it in every later state. -/
theorem recovery_identity_kept
    (h : StepsMeet SupervisorWorld.step CreatesRecord (.new processId ledger store) actions)
    (j : Nat) :
    (∀ r ∈ (reached processId ledger store actions j).loop.keptRecords,
      r.state ≠ .placeholder ∧ r.retainedIdentity ≠ .unavailable) ∧
    ∀ i ≤ j, ∀ id identity,
      (∀ k, i ≤ k → k < j → ∀ lease worker removed,
        actions[k]? = some (.beginPending lease worker removed) → lease.lifecycleId ≠ id) →
      (∀ r ∈ (reached processId ledger store actions i).loop.keptRecords,
        r.lifecycleId = id → r.retainedIdentity = identity) →
      ∀ r ∈ (reached processId ledger store actions j).loop.keptRecords, r.lifecycleId = id →
        r.retainedIdentity = identity ∨
        ∃ previousVt payload, identity = .prePayload previousVt ∧
          r.retainedIdentity = .payload payload := by
  have hknown : Known (reached processId ledger store actions j) :=
    foldl_invariant Known (fun _ _ hw hok => known_step hw hok) _ _
      (fun r hr => absurd hr List.not_mem_nil) (stepsMeet_take h j)
  refine ⟨fun r hr => ⟨fun hstate => ?_, hknown r hr⟩, fun i hij id identity hlaunch hi => ?_⟩
  · refine hknown r hr ?_
    rw [SupervisorSessionRecoveryRecord.retainedIdentity, hstate]
    rfl
  · exact identity_run h hij hlaunch hi

end Runs

theorem preparedWorker_known :
    StepsMeet SupervisorWorld.step CreatesRecord (.new 1 (some {}) none) sampleLogin ∧
    ∀ r ∈ (reached 1 (some {}) none sampleLogin 5).loop.keptRecords,
      r.state ≠ .placeholder ∧ r.retainedIdentity ≠ .unavailable := by
  have hmeets : StepsMeet SupervisorWorld.step CreatesRecord (.new 1 (some {}) none)
      sampleLogin := by
    refine ⟨trivial, trivial, ?_, trivial, trivial, trivial⟩
    intro slot previousVt payload hfirst _ hstate hprepare
    cases hfirst
    cases hstate
    cases hprepare
    rfl
  exact ⟨hmeets, (recovery_identity_kept hmeets 5).1⟩

/-- The durable record of a prepared payload cannot be renamed into place: the worker's record in
memory stays as the placeholder. -/
theorem uncreatedRecord_placeholder :
    let actions := sampleLogin.take 2 ++ [.recordPreparedScope "worker-a" 4711 "nonce"
      { preparePayload := .ok samplePayload, bootId := some "boot", create := .notRenamed }]
    (reached 1 (some {}) none actions 2).loop.keptRecords.map (·.retainedIdentity) =
        [.prePayload ⟨1⟩] ∧
      (reached 1 (some {}) none actions 3).loop.keptRecords.map (·.state) = [.placeholder] := by
  decide

end Niralis
