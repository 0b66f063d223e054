import Mathlib.Data.List.Nodup
import Niralis.PendingTable

namespace Niralis

/-- How far the release of a lifecycle's payload has come, by the messages and their answers. -/
inductive Handshake
  | absent
  | idle
  | requested (token : ReleaseToken)
  | required
  deriving DecidableEq, Repr

namespace Handshake

def after (h : Handshake) (w : SupervisorWorld) (id : String) : SupervisorAction → Handshake
  | .beginPending lease worker removed =>
    if lease.lifecycleId = id ∧ (w.loop.beginPending lease worker removed).1.isOk then idle else h
  | .beginRelease request =>
    match (w.loop.beginRelease request).1 with
    | .ok token => if token.workerId = id then requested token else h
    | .error _ => h
  | .completeRelease token (.recoveryRequired reason) x =>
    if token.workerId = id ∧ (w.loop.completeRelease token (.recoveryRequired reason) x).1.isOk then
      required
    else h
  | _ => h

/-- What the table holds of an entry whose handshake stands so. -/
def Follows (h : Handshake) (e : PendingWorkerLifecycle) : Prop :=
  match h with
  | absent => False
  | idle => e.release = .notRequested
  | requested token =>
    e.release = .requested token.releaseNonce ∧ e.record.lifecycleId = token.workerId ∧
      e.record.workerPid = token.workerPid ∧ e.generation = token.generation ∧
      e.record.payloadIdentity = some token.identity ∧
      (e.record.registrationNonce = some token.registrationNonce ∨
        ∃ payload, e.record.state = .payloadReleased payload)
  | required => ∃ reason, e.release = .recoveryRequired reason

end Handshake

namespace PendingWorkerLifecycle

def Released (e : PendingWorkerLifecycle) : Prop :=
  ∃ payload, e.record.state = .payloadReleased payload

end PendingWorkerLifecycle

section Entry
variable {a : SupervisorAction} {e e' : PendingWorkerLifecycle} {h : Handshake}

theorem EntryChange.lifecycleId (hc : EntryChange a e e') :
    e'.record.lifecycleId = e.record.lifecycleId := by
  cases hc <;> rfl

theorem Handshake.Follows.idle (hf : h.Follows e) (hrelease : e.release = .notRequested) :
    h = .idle := by
  cases h with
  | absent => exact hf.elim
  | idle => rfl
  | requested token => cases hrelease.symm.trans hf.1
  | required =>
    obtain ⟨reason, hreason⟩ := hf
    cases hrelease.symm.trans hreason

theorem Handshake.Follows.token (hf : h.Follows e) {token : ReleaseToken}
    (htoken : tokenMatches token e = true) : h = .requested token := by
  simp only [tokenMatches, Bool.and_eq_true, decide_eq_true_eq] at htoken
  obtain ⟨⟨⟨⟨⟨hid, hpid⟩, hgeneration⟩, hidentity⟩, hnonce⟩, hrelease⟩ := htoken
  cases h with
  | absent => exact hf.elim
  | idle => cases hrelease.symm.trans hf
  | required =>
    obtain ⟨reason, hreason⟩ := hf
    cases hrelease.symm.trans hreason
  | requested issued =>
    obtain ⟨hrelease', hid', hpid', hgeneration', hidentity', hnonce'⟩ := hf
    have hissued : issued.registrationNonce = token.registrationNonce := by
      rcases hnonce' with hnonce' | ⟨payload, hstate⟩
      · exact Option.some.inj (hnonce'.symm.trans hnonce)
      · rw [SupervisorSessionRecoveryRecord.registrationNonce, hstate] at hnonce
        cases hnonce
    have hreleaseNonce : issued.releaseNonce = token.releaseNonce :=
      PendingReleaseState.requested.inj (hrelease'.symm.trans hrelease)
    have hidentical : issued.identity = token.identity :=
      Option.some.inj (hidentity'.symm.trans hidentity)
    cases issued
    cases token
    simp_all

/-- A message that answers nothing about the release keeps the handshake where it stands. -/
theorem EntryChange.follows (hc : EntryChange a e e') (hf : h.Follows e)
    (hbegin : ∀ request, a ≠ .beginRelease request)
    (hverdict : ∀ token reason x, a ≠ .completeRelease token (.recoveryRequired reason) x) :
    h.Follows e' := by
  cases hc with
  | prepared workerId workerPid nonce x previousVt payload ha hstate hrelease =>
    obtain rfl := hf.idle hrelease
    exact hrelease
  | unrecorded workerId workerPid nonce x previousVt ha hstate hrelease =>
    obtain rfl := hf.idle hrelease
    exact hrelease
  | unprepared workerId workerPid nonce x previousVt ha hstate hrelease =>
    obtain rfl := hf.idle hrelease
    exact hrelease
  | begun request ha => exact absurd ha (hbegin request)
  | verdict token reason x ha => exact absurd ha (hverdict token reason x)
  | registered workerId workerPid x payload nonce ha hstate =>
    cases h with
    | absent => exact hf
    | idle => exact hf
    | required => exact hf
    | requested token =>
      obtain ⟨hrelease, hid, hpid, hgeneration, hidentity, hnonce⟩ := hf
      refine ⟨hrelease, hid, hpid, hgeneration, ?_, Or.inl ?_⟩
      · have hlive : e.record.state.livePayload = some payload := by
          rw [hstate]
          rfl
        rw [← hidentity, payloadIdentity_of_live hlive]
        rfl
      · have hold : e.record.registrationNonce = some nonce := by
          rw [SupervisorSessionRecoveryRecord.registrationNonce, hstate]
        rcases hnonce with hnonce | ⟨other, hother⟩
        · exact hold.symm.trans hnonce
        · cases hstate.symm.trans hother
  | released token x payload nonce ha htoken hstate =>
    cases h with
    | absent => exact hf
    | idle => exact hf
    | required => exact hf
    | requested token =>
      obtain ⟨hrelease, hid, hpid, hgeneration, hidentity, -⟩ := hf
      refine ⟨hrelease, hid, hpid, hgeneration, ?_, Or.inr ⟨payload, rfl⟩⟩
      have hlive : e.record.state.livePayload = some payload := by
        rcases hstate with hstate | hstate <;> rw [hstate] <;> rfl
      rw [← hidentity, payloadIdentity_of_live hlive]
      rfl

end Entry

namespace SupervisorLoopState
variable (s : SupervisorLoopState)

/-- A release that is not begun changes nothing; one that is leaves its token's fields. -/
theorem beginRelease_cases (request : ReleaseRequest) :
    s.beginRelease request = (.error .workerProtocolFailed, s) ∨
    ∃ slot : Slot PendingWorkerLifecycle, s.pending = slot.all ∧ slot.entry.record.lifecycleId = request.workerId ∧
      slot.entry.record.workerPid = request.workerPid ∧ releasable slot.entry request = true ∧
      s.beginRelease request = (.ok ⟨request.workerId, request.workerPid, request.registrationNonce,
          request.releaseNonce, request.identity, wrappingAdd slot.entry.generation 1⟩,
        { s with pending := slot.put { slot.entry with
          release := .requested request.releaseNonce
          generation := wrappingAdd slot.entry.generation 1 } }) := by
  unfold beginRelease
  split
  · exact Or.inl rfl
  next slot hfirst =>
    obtain ⟨hfound, hids⟩ := Slot.first_eq_some hfirst
    simp only [Bool.and_eq_true, decide_eq_true_eq] at hids
    split
    · exact Or.inl rfl
    next hreleasable =>
      exact Or.inr ⟨slot, hfound, hids.1, hids.2, by simpa using hreleasable, rfl⟩

theorem completeRelease_recoveryRequired (token : ReleaseToken)
    (reason : PayloadScopeRecoveryReason) (x : WriteAnswer) :
    s.completeRelease token (.recoveryRequired reason) x = (.error .workerProtocolFailed, s) ∨
    ∃ slot : Slot PendingWorkerLifecycle, s.pending = slot.all ∧ tokenMatches token slot.entry = true ∧
      s.completeRelease token (.recoveryRequired reason) x = (.ok (),
        { s with pending := slot.put { slot.entry with
          release := .recoveryRequired reason, terminalBeforeStarted := true } }) := by
  unfold completeRelease
  split
  · exact Or.inl rfl
  next slot hfirst =>
    obtain ⟨hfound, htoken⟩ := Slot.first_eq_some hfirst
    exact Or.inr ⟨slot, hfound, htoken, rfl⟩

theorem beginPending_cases (lease : AdmissionLease) (worker : SpawnedWorker) (removed : Bool) :
    ((s.beginPending lease worker removed).1.isOk = false ∧
      (s.beginPending lease worker removed).2.pending = s.pending) ∨
    (s.beginPending lease worker removed).1.isOk = true ∧
      ∃ e : PendingWorkerLifecycle, e.record.lifecycleId = lease.lifecycleId ∧
        (∀ old ∈ s.pending, old.record.lifecycleId ≠ lease.lifecycleId) ∧ e.Fresh ∧
        (s.beginPending lease worker removed).2.pending = s.pending ++ [e] := by
  unfold beginPending
  split
  · exact Or.inl ⟨rfl, rfl⟩
  next hvalid =>
    split
    · exact Or.inl ⟨rfl, rfl⟩
    next pendingLease previousVt admission hpromote =>
      simp only [Bool.or_eq_true, not_or, Bool.not_eq_true] at hvalid
      exact Or.inr ⟨rfl, _, rfl, not_pending_of_any hvalid.2, ⟨⟨previousVt, rfl⟩, rfl⟩, rfl⟩

end SupervisorLoopState

section Tracking
variable {id : String} {a : SupervisorAction} {h : Handshake}
  {l l' : List PendingWorkerLifecycle}

/-- The entries of one lifecycle stand where the handshake stands. -/
def FollowsAll (id : String) (h : Handshake) (l : List PendingWorkerLifecycle) : Prop :=
  ∀ e ∈ l, e.record.lifecycleId = id → h.Follows e

theorem PendingChange.nodup (hc : PendingChange a l l')
    (hl : (l.map (·.record.lifecycleId)).Nodup) : (l'.map (·.record.lifecycleId)).Nodup := by
  cases hc with
  | same => exact hl
  | launched lease worker removed e ha hid hnew hfresh =>
    rw [List.map_append, List.nodup_append]
    refine ⟨hl, by simp, fun x hx y hy hxy => ?_⟩
    obtain ⟨old, hold, rfl⟩ := List.mem_map.mp hx
    rw [List.map_singleton, List.mem_singleton] at hy
    exact hnew old hold (hxy.trans (hy.trans hid))
  | changed slot e hfound hchange =>
    subst hfound
    rwa [Slot.map_put hchange.lifecycleId]
  | removed slot hfound hrunning =>
    subst hfound
    exact Slot.nodup_swapRemove hl

/-- One entry is put in the place of another of its lifecycle, and may stand elsewhere then. -/
theorem followsAll_put {slot : Slot PendingWorkerLifecycle} {e : PendingWorkerLifecycle}
    {h' : Handshake} (hl : (slot.all.map (·.record.lifecycleId)).Nodup)
    (hid : e.record.lifecycleId = slot.entry.record.lifecycleId) (hf : FollowsAll id h slot.all)
    (hother : slot.entry.record.lifecycleId ≠ id → h' = h)
    (hentry : slot.entry.record.lifecycleId = id → h'.Follows e) :
    FollowsAll id h' (slot.put e) := by
  intro x hx hxid
  rcases Slot.mem_put.mp hx with rfl | hx
  · exact hentry (hid.symm.trans hxid)
  · have hne := Slot.key_ne_of_mem_others hl hx
    rw [hxid] at hne
    rw [hother (Ne.symm hne)]
    exact hf x (Slot.mem_all.mpr (Or.inr hx)) hxid

theorem PendingChange.follows (hc : PendingChange a l l')
    (hl : (l.map (·.record.lifecycleId)).Nodup) (hf : FollowsAll id h l)
    (hlaunch : ∀ lease worker removed, a ≠ .beginPending lease worker removed)
    (hbegin : ∀ request, a ≠ .beginRelease request)
    (hverdict : ∀ token reason x, a ≠ .completeRelease token (.recoveryRequired reason) x) :
    FollowsAll id h l' := by
  cases hc with
  | same => exact hf
  | launched lease worker removed e ha => exact absurd ha (hlaunch lease worker removed)
  | changed slot e hfound hchange =>
    subst hfound
    refine followsAll_put hl hchange.lifecycleId hf (fun _ => rfl) fun hid => ?_
    exact hchange.follows (hf slot.entry (Slot.mem_all.mpr (Or.inl rfl)) hid) hbegin hverdict
  | removed slot hfound hrunning =>
    subst hfound
    intro e he
    exact hf e (Slot.mem_all.mpr (Or.inr (Slot.mem_swapRemove.mp he)))

theorem followsAll_beginPending (w : SupervisorWorld) (lease : AdmissionLease)
    (worker : SpawnedWorker) (removed : Bool) (hf : FollowsAll id h w.loop.pending) :
    FollowsAll id (h.after w id (.beginPending lease worker removed))
      (w.loop.beginPending lease worker removed).2.pending := by
  rcases w.loop.beginPending_cases lease worker removed with
    ⟨herror, hpending⟩ | ⟨hok, e, hid, hnew, hfresh, hpending⟩
  · have hafter : h.after w id (.beginPending lease worker removed) = h := by
      rw [Handshake.after, herror, if_neg (by simp)]
    rwa [hafter, hpending]
  · rw [hpending]
    intro x hx hxid
    by_cases hlease : lease.lifecycleId = id
    · have hafter : h.after w id (.beginPending lease worker removed) = .idle := by
        rw [Handshake.after, if_pos ⟨hlease, hok⟩]
      rw [hafter]
      rcases List.mem_append.mp hx with hx | hx
      · exact absurd (hxid.trans hlease.symm) (hnew x hx)
      · rw [List.mem_singleton] at hx
        exact hx ▸ hfresh.2
    · have hafter : h.after w id (.beginPending lease worker removed) = h := by
        rw [Handshake.after, if_neg fun hboth => hlease hboth.1]
      rw [hafter]
      rcases List.mem_append.mp hx with hx | hx
      · exact hf x hx hxid
      · rw [List.mem_singleton] at hx
        subst hx
        exact absurd (hid.symm.trans hxid) hlease

theorem followsAll_beginRelease (w : SupervisorWorld) (request : ReleaseRequest)
    (hl : (w.loop.pending.map (·.record.lifecycleId)).Nodup)
    (hf : FollowsAll id h w.loop.pending) :
    FollowsAll id (h.after w id (.beginRelease request))
      (w.loop.beginRelease request).2.pending := by
  rcases w.loop.beginRelease_cases request with
    herror | ⟨slot, hfound, hid, hpid, hreleasable, hok⟩
  · have hafter : h.after w id (.beginRelease request) = h := by rw [Handshake.after, herror]
    rwa [hafter, herror]
  · rw [hok]
    rw [hfound] at hl hf
    refine followsAll_put hl rfl hf (fun hne => ?_) fun heq => ?_
    · rw [Handshake.after, hok]
      exact if_neg fun hother => hne (hid.trans hother)
    · have hafter : h.after w id (.beginRelease request) = .requested ⟨request.workerId,
          request.workerPid, request.registrationNonce, request.releaseNonce, request.identity,
          wrappingAdd slot.entry.generation 1⟩ := by
        rw [Handshake.after, hok]
        exact if_pos (hid.symm.trans heq)
      rw [hafter]
      simp only [releasable, Bool.and_eq_true, decide_eq_true_eq] at hreleasable
      exact ⟨rfl, hid, hpid, rfl, hreleasable.1.1.2, Or.inl hreleasable.1.2⟩

theorem followsAll_verdict (w : SupervisorWorld) (token : ReleaseToken)
    (reason : PayloadScopeRecoveryReason) (x : WriteAnswer)
    (hl : (w.loop.pending.map (·.record.lifecycleId)).Nodup)
    (hf : FollowsAll id h w.loop.pending) :
    FollowsAll id (h.after w id (.completeRelease token (.recoveryRequired reason) x))
      (w.loop.completeRelease token (.recoveryRequired reason) x).2.pending := by
  rcases w.loop.completeRelease_recoveryRequired token reason x with
    herror | ⟨slot, hfound, htoken, hok⟩
  · have hafter : h.after w id (.completeRelease token (.recoveryRequired reason) x) = h := by
      rw [Handshake.after, herror, if_neg (by simp [Except.isOk, Except.toBool])]
    rwa [hafter, herror]
  · have hid : slot.entry.record.lifecycleId = token.workerId := by
      simp only [tokenMatches, Bool.and_eq_true, decide_eq_true_eq] at htoken
      exact htoken.1.1.1.1.1
    rw [hok]
    rw [hfound] at hl hf
    refine followsAll_put hl rfl hf (fun hne => ?_) fun heq => ?_
    · rw [Handshake.after, hok, if_neg fun hother => hne (hid.trans hother.1)]
    · rw [Handshake.after, hok, if_pos ⟨hid.symm.trans heq, rfl⟩]
      exact ⟨reason, rfl⟩

/-- The world and the handshake of one lifecycle, message by message. -/
def trackStep (id : String) (p : SupervisorWorld × Handshake) (a : SupervisorAction) :
    SupervisorWorld × Handshake := (p.1.step a, p.2.after p.1 id a)

def Tracked (id : String) (p : SupervisorWorld × Handshake) : Prop :=
  (p.1.loop.pending.map (·.record.lifecycleId)).Nodup ∧ FollowsAll id p.2 p.1.loop.pending

theorem tracked_step {p : SupervisorWorld × Handshake} (hp : Tracked id p) (a : SupervisorAction) :
    Tracked id (trackStep id p a) := by
  obtain ⟨w, h⟩ := p
  obtain ⟨hl, hf⟩ := hp
  have hchange := (w.change_step a).pending
  refine ⟨hchange.nodup hl, ?_⟩
  cases a with
  | beginPending lease worker removed =>
    have hloop : (w.step (.beginPending lease worker removed)).loop =
        (w.loop.beginPending lease worker removed).2 := by
      unfold SupervisorWorld.step
      dsimp only
      split
      next hbegin => rw [hbegin]
      next hbegin => rw [hbegin]
    show FollowsAll id _ (w.step (.beginPending lease worker removed)).loop.pending
    rw [hloop]
    exact followsAll_beginPending w lease worker removed hf
  | beginRelease request => exact followsAll_beginRelease w request hl hf
  | completeRelease token verification x =>
    cases verification with
    | recoveryRequired reason => exact followsAll_verdict w token reason x hl hf
    | released =>
      exact hchange.follows hl hf (fun _ _ _ h => by cases h) (fun _ h => by cases h)
        fun _ _ _ h => by cases h
  | _ =>
    exact hchange.follows hl hf (fun _ _ _ h => by cases h) (fun _ h => by cases h)
      fun _ _ _ h => by cases h

theorem tracked_run (processId : Nat) (ledger : Option PersistentRecoveryLedger)
    (store : Option PreCommitRuntimeMarks) (actions : List SupervisorAction) :
    Tracked id (actions.foldl (trackStep id) (.new processId ledger store, .absent)) := by
  have hmeets : StepsMeet (trackStep id) (fun _ _ => True) (.new processId ledger store, .absent)
      actions := stepsMeet_of_forall (fun _ _ => trivial) _ _
  exact foldl_invariant (Tracked id) (fun _ a hp _ => tracked_step hp a) actions _
    ⟨List.nodup_nil, fun _ he => absurd he List.not_mem_nil⟩ hmeets

variable {w : SupervisorWorld}

theorem released_step (hp : Tracked id (w, h)) {e' : PendingWorkerLifecycle}
    (he' : e' ∈ (w.step a).loop.pending) (hid' : e'.record.lifecycleId = id) (hr : e'.Released) :
    ∃ e ∈ w.loop.pending, e.record.lifecycleId = id ∧ (e.Released ∨
      ∃ token x payload nonce, a = .completeRelease token .released x ∧ h = .requested token ∧
        (e.record.state = .payloadPrepared payload nonce ∨
          e.record.state = .payloadRegistered payload nonce) ∧
        e'.record.state = .payloadReleased payload) := by
  obtain ⟨payload, hstate⟩ := hr
  have hchange := (w.change_step a).pending
  have hsame : e' ∈ w.loop.pending → ∃ e ∈ w.loop.pending, e.record.lifecycleId = id ∧
      (e.Released ∨ ∃ token x payload nonce, a = .completeRelease token .released x ∧
        h = .requested token ∧ (e.record.state = .payloadPrepared payload nonce ∨
          e.record.state = .payloadRegistered payload nonce) ∧
        e'.record.state = .payloadReleased payload) :=
    fun hmem => ⟨e', hmem, hid', Or.inl ⟨payload, hstate⟩⟩
  generalize (w.step a).loop.pending = l' at he' hchange
  -- the entry was released before, unless this step completed its release
  cases hchange with
  | same => exact hsame he'
  | launched lease worker removed e ha hid hnew hfresh =>
    rcases List.mem_append.mp he' with he' | he'
    · exact hsame he'
    · rw [List.mem_singleton] at he'
      obtain ⟨vt, hvt⟩ := hfresh.1
      rw [he', hvt] at hstate
      cases hstate
  | removed slot hfound hrunning =>
    refine hsame ?_
    rw [hfound]
    exact Slot.mem_all.mpr (Or.inr (Slot.mem_swapRemove.mp he'))
  | changed slot e hfound hentry =>
    rcases Slot.mem_put.mp he' with rfl | hother
    · have hmem : slot.entry ∈ w.loop.pending := SupervisorLoopState.mem_pending_of_slot hfound
      have hidold : slot.entry.record.lifecycleId = id := hentry.lifecycleId.symm.trans hid'
      refine ⟨slot.entry, hmem, hidold, ?_⟩
      cases hentry with
      | prepared => cases hstate
      | unrecorded => cases hstate
      | unprepared => cases hstate
      | registered => cases hstate
      | begun => exact Or.inl ⟨payload, hstate⟩
      | verdict => exact Or.inl ⟨payload, hstate⟩
      | released token x found nonce ha htoken hold =>
        exact Or.inr ⟨token, x, found, nonce, ha, (hp.2 slot.entry hmem hidold).token htoken, hold,
          rfl⟩
    · refine hsame ?_
      rw [hfound]
      exact Slot.mem_all.mpr (Or.inr hother)

/-- A released entry stays released as long as it is in the table. -/
theorem released_kept (hl : (w.loop.pending.map (·.record.lifecycleId)).Nodup)
    {e e' : PendingWorkerLifecycle} (he : e ∈ w.loop.pending) (hid : e.record.lifecycleId = id)
    (hr : e.Released) (he' : e' ∈ (w.step a).loop.pending) (hid' : e'.record.lifecycleId = id) :
    e'.Released := by
  have hchange := (w.change_step a).pending
  have hsame : e' ∈ w.loop.pending → e'.Released := by
    intro hmem
    have heq : e' = e := List.inj_on_of_nodup_map hl hmem he (hid'.trans hid.symm)
    exact heq ▸ hr
  generalize (w.step a).loop.pending = l' at he' hchange
  cases hchange with
  | same => exact hsame he'
  | launched lease worker removed new ha hnewid hnew hfresh =>
    rcases List.mem_append.mp he' with he' | he'
    · exact hsame he'
    · rw [List.mem_singleton] at he'
      rw [he'] at hid'
      exact absurd (hid.trans (hid'.symm.trans hnewid)) (hnew e he)
  | removed slot hfound hrunning =>
    refine hsame ?_
    rw [hfound]
    exact Slot.mem_all.mpr (Or.inr (Slot.mem_swapRemove.mp he'))
  | changed slot new hfound hentry =>
    rcases Slot.mem_put.mp he' with rfl | hother
    · have hmem : slot.entry ∈ w.loop.pending := SupervisorLoopState.mem_pending_of_slot hfound
      have heq : slot.entry = e := List.inj_on_of_nodup_map hl hmem he
        ((hentry.lifecycleId.symm.trans hid').trans hid.symm)
      obtain ⟨payload, hstate⟩ := hr
      rw [← heq] at hstate
      cases hentry with
      | prepared _ _ _ _ _ _ _ hold => cases hstate.symm.trans hold
      | unrecorded _ _ _ _ _ _ hold => cases hstate.symm.trans hold
      | unprepared _ _ _ _ _ _ hold => cases hstate.symm.trans hold
      | registered _ _ _ _ _ _ hold => cases hstate.symm.trans hold
      | begun => exact ⟨payload, hstate⟩
      | verdict => exact ⟨payload, hstate⟩
      | released token x found nonce ha htoken hold => exact ⟨found, rfl⟩
    · refine hsame ?_
      rw [hfound]
      exact Slot.mem_all.mpr (Or.inr hother)

theorem registerRunning_refused (s : SupervisorLoopState) {r : RunningRegistration}
    (hfirst : Slot.first (registrable r) s.pending = none) (x : RegistrationAnswers) :
    (s.registerRunning r x).2.pending = s.pending ∧
      (s.registerRunning r x).2.children = s.children := by
  unfold SupervisorLoopState.registerRunning
  rw [hfirst]
  split
  · exact ⟨rfl, rfl⟩
  · dsimp only
    unfold SupervisorLoopState.withPendingLease
    split
    · exact ⟨rfl, rfl⟩
    · exact ⟨rfl, rfl⟩

/-- An entry whose release was requested is not taken by a registration. -/
theorem registerRunning_requested (hp : Tracked id (w, h)) (hidle : h ≠ .idle)
    (r : RunningRegistration) (x : RegistrationAnswers) (hr : r.workerId = id) :
    (w.loop.registerRunning r x).2.pending = w.loop.pending ∧
      (w.loop.registerRunning r x).2.children = w.loop.children := by
  refine registerRunning_refused w.loop ?_ x
  cases hfirst : Slot.first (registrable r) w.loop.pending with
  | none => rfl
  | some slot =>
    obtain ⟨hfound, hregistrable⟩ := Slot.first_eq_some hfirst
    simp only [registrable, Bool.and_eq_true, decide_eq_true_eq] at hregistrable
    obtain ⟨⟨⟨⟨⟨hid, -⟩, -⟩, hrelease⟩, -⟩, -⟩ := hregistrable
    have hmem : slot.entry ∈ w.loop.pending := SupervisorLoopState.mem_pending_of_slot hfound
    exact absurd ((hp.2 slot.entry hmem (hid.trans hr)).idle hrelease) hidle

/-- Between two releases of a lifecycle its entry has left the table. -/
theorem released_run {e : PendingWorkerLifecycle} (more : List SupervisorAction)
    (hl : (w.loop.pending.map (·.record.lifecycleId)).Nodup) (he : e ∈ w.loop.pending)
    (hid : e.record.lifecycleId = id) (hr : e.Released)
    (hthere : ∀ n ≤ more.length, ∃ e ∈ ((more.take n).foldl SupervisorWorld.step w).loop.pending,
      e.record.lifecycleId = id) :
    ∀ e' ∈ (more.foldl SupervisorWorld.step w).loop.pending, e'.record.lifecycleId = id →
      e'.Released := by
  induction more generalizing w e with
  | nil =>
    intro e' he' hid'
    have heq : e' = e := List.inj_on_of_nodup_map hl he' he (hid'.trans hid.symm)
    exact heq ▸ hr
  | cons a more ih =>
    obtain ⟨next, hnext, hnextid⟩ := hthere 1 (by simp)
    have hreleased := released_kept hl he hid hr hnext hnextid
    refine ih ((w.change_step a).pending.nodup hl) hnext hnextid hreleased fun n hn => ?_
    exact hthere (n + 1) (by simpa using hn)

end Tracking

section Rejected
variable (s : SupervisorLoopState)

theorem completeRelease_rejected {token : ReleaseToken} {verification : ScopeReleaseVerification}
    {x : WriteAnswer}
    (h : (s.completeRelease token verification x).1 = .error .workerProtocolFailed) :
    (s.completeRelease token verification x).2 = s := by
  unfold SupervisorLoopState.completeRelease at h ⊢
  split
  · rfl
  next slot hfirst =>
    rw [hfirst] at h
    cases verification with
    | recoveryRequired reason => cases h
    | released =>
      dsimp only at h ⊢
      split at h
      · split at h <;> cases h
      · split at h <;> cases h
      · rfl

theorem markPayloadRegistered_rejected {workerId : String} {workerPid : Nat} {x : WriteAnswer}
    (h : (s.markPayloadRegistered workerId workerPid x).1 = .error .workerProtocolFailed) :
    (s.markPayloadRegistered workerId workerPid x).2 = s := by
  unfold SupervisorLoopState.markPayloadRegistered at h ⊢
  split
  · rfl
  next slot hfirst =>
    rw [hfirst] at h
    dsimp only at h ⊢
    split
    next hstate =>
      rw [hstate] at h
      dsimp only at h
      split at h <;> cases h
    · rfl

/-- A prepared scope is turned away as a whole, or its preparation failed and the entry is
quarantined with the terminal it came from. -/
theorem recordPreparedScope_rejected {workerId : String} {workerPid : Nat} {nonce : String}
    {x : PreparedScopeAnswers}
    (h : (s.recordPreparedScope workerId workerPid nonce x).1 = .error .workerProtocolFailed) :
    (s.recordPreparedScope workerId workerPid nonce x).2 = s ∨
    ∃ (slot : Slot PendingWorkerLifecycle) (previousVt : PreviousVtIdentity)
      (error : SupervisorRecoveryError), s.pending = slot.all ∧ x.preparePayload = .error error ∧
      slot.entry.record.state = .workerSpawned previousVt ∧
      (s.recordPreparedScope workerId workerPid nonce x).2.pending =
        slot.put { slot.entry.withState (.quarantined .payloadIdentityValidation
          .invalidPayloadIdentity (.prePayload previousVt)) with terminalBeforeStarted := true } := by
  unfold SupervisorLoopState.recordPreparedScope at h ⊢
  split
  · exact Or.inl rfl
  next slot hfirst =>
    rw [hfirst] at h
    dsimp only at h ⊢
    split
    · exact Or.inl rfl
    next htaken =>
      rw [if_neg htaken] at h
      split
      next previousVt hstate =>
        rw [hstate] at h
        dsimp only at h
        split
        next payload hprepare =>
          rw [hprepare] at h
          dsimp only at h
          split at h <;> cases h
        next error hprepare =>
          exact Or.inr ⟨slot, previousVt, error, (Slot.first_eq_some hfirst).1, hprepare, hstate, rfl⟩
      · exact Or.inl rfl

end Rejected

/-- In every order of messages, a pending entry is released by the token of its last accepted
request and by nothing else, from a prepared or registered payload that it keeps, once while it is
in the table, not after a verdict; nor does it start running once a release was requested. -/
theorem release_by_last_token (processId : Nat) (ledger : Option PersistentRecoveryLedger)
    (store : Option PreCommitRuntimeMarks) (actions : List SupervisorAction) (id : String) :
    let p := actions.foldl (trackStep id) (.new processId ledger store, .absent)
    let w := p.1
    (∀ a, ∀ e' ∈ (w.step a).loop.pending, e'.record.lifecycleId = id → e'.Released →
      ∃ e ∈ w.loop.pending, e.record.lifecycleId = id ∧ (e.Released ∨
        ∃ token x payload nonce, a = .completeRelease token .released x ∧ p.2 = .requested token ∧
          (e.record.state = .payloadPrepared payload nonce ∨
            e.record.state = .payloadRegistered payload nonce) ∧
          e'.record.state = .payloadReleased payload)) ∧
    (∀ e ∈ w.loop.pending, e.record.lifecycleId = id → e.Released →
      ∀ more : List SupervisorAction,
        (∀ n ≤ more.length, ∃ e ∈ ((more.take n).foldl SupervisorWorld.step w).loop.pending,
          e.record.lifecycleId = id) →
        ∀ e' ∈ (more.foldl SupervisorWorld.step w).loop.pending, e'.record.lifecycleId = id →
          e'.Released) ∧
    (p.2 ≠ .idle → ∀ r x, r.workerId = id →
      (w.step (.registerRunning r x)).loop.pending = w.loop.pending ∧
      (w.step (.registerRunning r x)).loop.children = w.loop.children) ∧
    (∀ request error, (w.loop.beginRelease request).1 = .error error →
      (w.loop.beginRelease request).2 = w.loop) ∧
    (∀ token verification x,
      (w.loop.completeRelease token verification x).1 = .error .workerProtocolFailed →
      (w.loop.completeRelease token verification x).2 = w.loop) ∧
    (∀ workerId workerPid x,
      (w.loop.markPayloadRegistered workerId workerPid x).1 = .error .workerProtocolFailed →
      (w.loop.markPayloadRegistered workerId workerPid x).2 = w.loop) ∧
    (∀ r x, Slot.first (registrable r) w.loop.pending = none →
      (w.loop.registerRunning r x).2.pending = w.loop.pending) ∧
    (∀ lease expectedClean status x, w.loop.admission.matchesPending lease = false →
      (w.loop.abortPending lease expectedClean status x).2 = w.loop) ∧
    ∀ workerId workerPid nonce x,
      (w.loop.recordPreparedScope workerId workerPid nonce x).1 = .error .workerProtocolFailed →
      (w.loop.recordPreparedScope workerId workerPid nonce x).2 = w.loop ∨
      ∃ (slot : Slot PendingWorkerLifecycle) (previousVt : PreviousVtIdentity)
        (error : SupervisorRecoveryError), w.loop.pending = slot.all ∧
        x.preparePayload = .error error ∧ slot.entry.record.state = .workerSpawned previousVt ∧
        (w.loop.recordPreparedScope workerId workerPid nonce x).2.pending =
          slot.put { slot.entry.withState (.quarantined .payloadIdentityValidation
            .invalidPayloadIdentity (.prePayload previousVt)) with
            terminalBeforeStarted := true } := by
  intro p w
  have hp : Tracked id (w, p.2) := tracked_run processId ledger store actions
  refine ⟨fun a e' he' hid' hr => released_step hp he' hid' hr, ?_, ?_, ?_, ?_, ?_, ?_, ?_, ?_⟩
  · intro e he hid hr more hthere
    exact released_run more hp.1 he hid hr hthere
  · intro hidle r x hr
    exact registerRunning_requested hp hidle r x hr
  · intro request error herror
    rcases w.loop.beginRelease_cases request with hsame | ⟨slot, -, -, -, -, hok⟩
    · rw [hsame]
    · rw [hok] at herror
      cases herror
  · intro token verification x h
    exact completeRelease_rejected w.loop h
  · intro workerId workerPid x h
    exact markPayloadRegistered_rejected w.loop h
  · intro r x hfirst
    exact (registerRunning_refused w.loop hfirst x).1
  · intro lease expectedClean status x hstale
    rw [SupervisorLoopState.abortPending, hstale]
    rfl
  · intro workerId workerPid nonce x h
    exact recordPreparedScope_rejected w.loop h

/-- A scope whose payload cannot be prepared is answered with an error, and its entry changes. -/
theorem unprepared_scope_changes_entry :
    let w := [SupervisorAction.reserveSeat "worker-a" (some ⟨1⟩) none,
      .beginPending ⟨"seat0", 1, "worker-a", 1, ⟨1⟩, none⟩ ⟨4711, 1, 4711, ⟨"alice", "plasma"⟩⟩
        true].foldl SupervisorWorld.step (.new 1 none none)
    let answered := w.loop.recordPreparedScope "worker-a" 4711 "nonce"
      { preparePayload := .error .invalidPayloadIdentity, bootId := some "boot" }
    answered.1 = .error .workerProtocolFailed ∧
      w.loop.pending.map (·.record.state) = [.workerSpawned ⟨1⟩] ∧
      answered.2.pending.map (·.record.state) = [.quarantined .payloadIdentityValidation
        .invalidPayloadIdentity (.prePayload ⟨1⟩)] := by
  decide

end Niralis
