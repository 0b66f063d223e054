import Niralis.RecoveryLedger

namespace Niralis

/-- The attempt ids and expected sequences rise together, in whatever order they are listed. -/
def AttemptKeysOrdered (keys : List (Nat × Nat)) : Prop :=
  (∀ k ∈ keys, k.1 ≠ 0 ∧ k.2 ≠ 0) ∧
    keys.Pairwise fun a b => (a.1 < b.1 ∧ a.2 < b.2) ∨ (b.1 < a.1 ∧ b.2 < a.2)

def VtRecoveryAttempt.key (a : VtRecoveryAttempt) : Nat × Nat := (a.attemptId, a.expectedSequence)

theorem vtAttemptsOrdered_iff (r : PersistentRecoveryRecord) :
    VtAttemptsOrdered r ↔ AttemptKeysOrdered (r.vtRecoveryAttempts.map VtRecoveryAttempt.key) := by
  have hperm : (sortedVtAttempts r).Perm r.vtRecoveryAttempts := List.mergeSort_perm _ _
  have hsorted : (sortedVtAttempts r).Pairwise fun a b =>
      decide (a.attemptId ≤ b.attemptId) = true :=
    List.pairwise_mergeSort (by simpa using fun _ _ _ => Nat.le_trans)
      (by simpa using fun _ _ => Nat.le_total _ _) r.vtRecoveryAttempts
  have hpos : (sortedVtAttempts r).any (fun a => a.attemptId = 0 || a.expectedSequence = 0) = false ↔
      ∀ k ∈ r.vtRecoveryAttempts.map VtRecoveryAttempt.key, k.1 ≠ 0 ∧ k.2 ≠ 0 := by
    rw [hperm.any_eq]
    simp [VtRecoveryAttempt.key]
  have hrise : windowsAny (fun a b => decide (b.attemptId ≤ a.attemptId) ||
      decide (b.expectedSequence ≤ a.expectedSequence)) (sortedVtAttempts r) = false ↔
      (sortedVtAttempts r).Pairwise fun a b =>
        a.attemptId < b.attemptId ∧ a.expectedSequence < b.expectedSequence := by
    rw [windowsAny_eq_false]
    simp only [Bool.or_eq_false_iff, decide_eq_false_iff_not, not_le]
    have : IsTrans VtRecoveryAttempt fun a b =>
        a.attemptId < b.attemptId ∧ a.expectedSequence < b.expectedSequence :=
      ⟨fun a b c hab hbc => ⟨hab.1.trans hbc.1, hab.2.trans hbc.2⟩⟩
    exact List.isChain_iff_pairwise
  have hsym : (sortedVtAttempts r).Pairwise (fun a b =>
      a.attemptId < b.attemptId ∧ a.expectedSequence < b.expectedSequence) ↔
      r.vtRecoveryAttempts.Pairwise fun a b =>
        (a.attemptId < b.attemptId ∧ a.expectedSequence < b.expectedSequence) ∨
          (b.attemptId < a.attemptId ∧ b.expectedSequence < a.expectedSequence) := by
    rw [← hperm.pairwise_iff (fun {a b} h => h.symm)]
    constructor
    · exact fun h => h.imp Or.inl
    · intro h
      refine (hsorted.and h).imp fun {a b} hab => ?_
      rcases hab.2 with h | h
      · exact h
      · exact absurd h.1 (Nat.not_lt.mpr (by simpa using hab.1))
  constructor
  · rintro ⟨h1, h2⟩
    exact ⟨hpos.mp h1, List.pairwise_map.mpr (hsym.mp (hrise.mp h2))⟩
  · rintro ⟨h1, h2⟩
    exact ⟨hpos.mpr h1, hrise.mpr (hsym.mpr (List.pairwise_map.mp h2))⟩

/-- The attempt id of `s` lies between those of the operations around `op`. -/
def AttemptFits (l : DurableOperationLedger) (op : DurableOperation) (s : DurableOperationState) :
    Prop :=
  ∀ a, s.attemptId = some a → a ≠ 0 ∧ ∀ op' b, (l.get op').attemptId = some b →
    (validationOrder.idxOf op' < validationOrder.idxOf op → b < a) ∧
      (validationOrder.idxOf op < validationOrder.idxOf op' → a < b)

/-- Resolution and runtime release agree with the state: they are confirmed only in a resolved
record, and a resolved record has no unfinished resolution. -/
structure ResolutionAgrees (l : DurableOperationLedger) (state : String) : Prop where
  release : l.runtimeRelease.isConfirmed = true → state = "record_resolved"
  resolved : state = "record_resolved" → resolutionSettled l.recordResolution = true
  resolution : l.recordResolution.isConfirmed = true → state = "record_resolved"

namespace RecordWrite

def operationChange : RecordWrite → Option (DurableOperation × DurableOperationState)
  | operation op s => some (op, s)
  | transitionWithOperation _ op s => some (op, s)
  | workerVtCleanupIntent attemptId => some (.vtDisallocate, .intentPersisted attemptId)
  | workerVtCleanupResult attemptId .released => some (.vtDisallocate, .confirmed attemptId)
  | workerVtCleanupResult attemptId .vtDisallocateBusy =>
    some (.vtDisallocate, .failed attemptId ebusy)
  | _ => none

def operationsAfter (w : RecordWrite) (l : DurableOperationLedger) : DurableOperationLedger :=
  match w.operationChange with
  | some (op, s) => l.set op s
  | none => l

def attemptsAfter (w : RecordWrite) (l : List VtRecoveryAttempt) :
    Option (List VtRecoveryAttempt) :=
  match w with
  | appendVtRecoveryAttempt attempt => some (appendAttempt attempt l)
  | finishVtRecoveryAttempt attemptId state provenanceAfter =>
    finishAttempt attemptId state provenanceAfter l
  | _ => some l

/-- The state an administrative attempt is given by the write. -/
def attemptState : RecordWrite → Option VtRecoveryAttemptState
  | appendVtRecoveryAttempt attempt => some attempt.state
  | finishVtRecoveryAttempt _ state _ => some state
  | _ => none

end RecordWrite

/-- A write that does not break the relations the validator checks. -/
structure SafeWrite (r : PersistentRecoveryRecord) (w : RecordWrite) : Prop where
  attempt : ∀ op s, w.operationChange = some (op, s) → AttemptFits r.operationLedger op s
  agrees : ResolutionAgrees (w.operationsAfter r.operationLedger) (w.target r)
  vtKept : ∀ s, w.operationChange = some (.vtDisallocate, s) → s.hasResult = false →
    ∀ a ∈ r.vtRecoveryAttempts, a.state.hasResult = false
  vtFinished : ∀ state, w.attemptState = some state → state.hasResult = true →
    r.operationLedger.vtDisallocate.hasResult = true
  vtAppended : ∀ attempt, w = .appendVtRecoveryAttempt attempt →
    AttemptKeysOrdered ((appendAttempt attempt r.vtRecoveryAttempts).map VtRecoveryAttempt.key)

theorem finishAttempt_eq_some {attemptId : Nat} {state : VtRecoveryAttemptState}
    {provenanceAfter : Option VtBusyProvenance} {l l' : List VtRecoveryAttempt}
    (h : finishAttempt attemptId state provenanceAfter l = some l') :
    l'.map VtRecoveryAttempt.key = l.map VtRecoveryAttempt.key ∧
      (∃ a ∈ l', a.state = state) ∧ ∀ a ∈ l', a ∈ l ∨ a.state = state := by
  induction l generalizing l' with
  | nil => cases h
  | cons a rest ih =>
    unfold finishAttempt at h
    split at h
    next rest' hrest =>
      cases h
      obtain ⟨hk, ⟨b, hb, hbs⟩, hall⟩ := ih hrest
      refine ⟨by rw [List.map_cons, List.map_cons, hk], ⟨b, List.mem_cons_of_mem _ hb, hbs⟩, ?_⟩
      intro c hc
      rcases List.mem_cons.mp hc with rfl | hc
      · exact Or.inl List.mem_cons_self
      · exact (hall c hc).imp (List.mem_cons_of_mem _) id
    next =>
      split at h
      · cases h
      · split at h
        · cases h
          refine ⟨rfl, ⟨_, List.mem_cons_self, rfl⟩, fun c hc => ?_⟩
          rcases List.mem_cons.mp hc with rfl | hc
          · exact Or.inr rfl
          · exact Or.inl (List.mem_cons_of_mem _ hc)
        · cases h

def keptAttempts (l : List VtRecoveryAttempt) : List VtRecoveryAttempt :=
  if maxVtRecoveryAttempts ≤ l.length then l.drop 1 else l

theorem appendAttempt_eq (attempt : VtRecoveryAttempt) (l : List VtRecoveryAttempt) :
    appendAttempt attempt l = keptAttempts l ++ [attempt] := by
  unfold appendAttempt keptAttempts
  dsimp only
  rw [List.length_append, List.length_singleton]
  split
  next h =>
    have hfull : maxVtRecoveryAttempts ≤ l.length := Nat.le_of_lt_succ h
    rw [if_pos hfull]
    exact List.drop_append_of_le_length (Nat.le_trans (by decide) hfull)
  next h => rw [if_neg fun hfull => h (Nat.lt_succ_of_le hfull)]

theorem keptAttempts_sublist (l : List VtRecoveryAttempt) : (keptAttempts l).Sublist l := by
  unfold keptAttempts
  split
  · exact List.drop_sublist 1 l
  · exact List.Sublist.refl l

theorem mem_appendAttempt {attempt a : VtRecoveryAttempt} {l : List VtRecoveryAttempt}
    (h : a ∈ appendAttempt attempt l) : a ∈ l ∨ a = attempt := by
  rw [appendAttempt_eq] at h
  rcases List.mem_append.mp h with hkept | hnew
  · exact Or.inl ((keptAttempts_sublist l).subset hkept)
  · exact Or.inr (List.mem_singleton.mp hnew)

theorem mem_appendAttempt_self (attempt : VtRecoveryAttempt) (l : List VtRecoveryAttempt) :
    attempt ∈ appendAttempt attempt l := by
  rw [appendAttempt_eq]
  exact List.mem_append_right _ List.mem_cons_self

theorem attemptKeysOrdered_append_iff {attempt : VtRecoveryAttempt} {l : List VtRecoveryAttempt}
    (hl : AttemptKeysOrdered (l.map VtRecoveryAttempt.key)) (hid : attempt.attemptId ≠ 0)
    (hsequence : attempt.expectedSequence ≠ 0) :
    AttemptKeysOrdered ((appendAttempt attempt l).map VtRecoveryAttempt.key) ↔
      ∀ a ∈ keptAttempts l,
        (a.attemptId < attempt.attemptId ∧ a.expectedSequence < attempt.expectedSequence) ∨
          (attempt.attemptId < a.attemptId ∧ attempt.expectedSequence < a.expectedSequence) := by
  have hsub := (keptAttempts_sublist l).map VtRecoveryAttempt.key
  rw [appendAttempt_eq, List.map_append]
  constructor
  · rintro ⟨-, hpairs⟩ a ha
    exact (List.pairwise_append.mp hpairs).2.2 a.key (List.mem_map_of_mem ha) attempt.key
      List.mem_cons_self
  · intro hfits
    refine ⟨fun k hk => ?_, List.pairwise_append.mpr ⟨hl.2.sublist hsub, List.pairwise_singleton _ _,
      fun k hk k' hk' => ?_⟩⟩
    · rcases List.mem_append.mp hk with hkept | hnew
      · exact hl.1 k (hsub.subset hkept)
      · rw [List.mem_singleton.mp hnew]
        exact ⟨hid, hsequence⟩
    · obtain ⟨a, ha, rfl⟩ := List.mem_map.mp hk
      rw [List.mem_singleton.mp hk']
      exact hfits a ha

theorem finishAttempt_isSome {attempt : VtRecoveryAttempt} {l : List VtRecoveryAttempt}
    (state : VtRecoveryAttemptState) (after : Option VtBusyProvenance)
    (hlast : l.getLast? = some attempt) (hopen : attempt.state = .intentPersisted) :
    (finishAttempt attempt.attemptId state after l).isSome = true := by
  induction l with
  | nil => cases hlast
  | cons a rest ih =>
    unfold finishAttempt
    cases rest with
    | nil =>
      have heq : a = attempt := by simpa using hlast
      subst heq
      simp [finishAttempt, hopen]
    | cons b rest' =>
      obtain ⟨l', hl'⟩ := Option.isSome_iff_exists.mp (ih hlast)
      rw [hl']
      rfl

section AttemptsAfter
variable {w : RecordWrite} {l l' : List VtRecoveryAttempt}

theorem attemptsAfter_of_none (hw : w.attemptState = none) (h : w.attemptsAfter l = some l') :
    l' = l := by
  cases w with
  | appendVtRecoveryAttempt attempt => cases hw
  | finishVtRecoveryAttempt attemptId state provenanceAfter => cases hw
  | _ => cases h; rfl

theorem operationChange_of_attemptState {state : VtRecoveryAttemptState}
    (h : w.attemptState = some state) : w.operationChange = none := by
  cases w with
  | appendVtRecoveryAttempt attempt => rfl
  | finishVtRecoveryAttempt attemptId state provenanceAfter => rfl
  | _ => cases h

theorem mem_attemptsAfter {state : VtRecoveryAttemptState} (hw : w.attemptState = some state)
    (h : w.attemptsAfter l = some l') :
    (∃ a ∈ l', a.state = state) ∧ ∀ a ∈ l', a ∈ l ∨ a.state = state := by
  cases w with
  | appendVtRecoveryAttempt attempt =>
    cases hw
    cases h
    refine ⟨⟨attempt, mem_appendAttempt_self attempt l, rfl⟩, fun a ha => ?_⟩
    exact (mem_appendAttempt ha).imp id fun h => by rw [h]
  | finishVtRecoveryAttempt attemptId state' provenanceAfter =>
    cases hw
    exact (finishAttempt_eq_some h).2
  | _ => cases hw

theorem attemptsAfter_ordered_iff (h : w.attemptsAfter l = some l')
    (hl : AttemptKeysOrdered (l.map VtRecoveryAttempt.key)) :
    AttemptKeysOrdered (l'.map VtRecoveryAttempt.key) ↔
      ∀ attempt, w = .appendVtRecoveryAttempt attempt →
        AttemptKeysOrdered ((appendAttempt attempt l).map VtRecoveryAttempt.key) := by
  cases w with
  | appendVtRecoveryAttempt attempt =>
    cases h
    exact ⟨fun h _ heq => (by cases heq; exact h), fun h => h attempt rfl⟩
  | finishVtRecoveryAttempt attemptId state provenanceAfter =>
    rw [(finishAttempt_eq_some h).1]
    exact ⟨fun _ _ heq => (by cases heq), fun _ => hl⟩
  | _ =>
    cases h
    exact ⟨fun _ _ heq => (by cases heq), fun _ => hl⟩

end AttemptsAfter

theorem attempts_set_iff {l : DurableOperationLedger} {op : DurableOperation}
    {s : DurableOperationState} (hpos : ∀ op, (l.get op).attemptId ≠ some 0)
    (hrise : AttemptsRise l) :
    ((∀ op', ((l.set op s).get op').attemptId ≠ some 0) ∧ AttemptsRise (l.set op s)) ↔
      AttemptFits l op s := by
  simp only [AttemptsRise, DurableOperationLedger.get_set]
  constructor
  · rintro ⟨hp, hr⟩ a ha
    have hself := hp op
    rw [if_pos rfl, ha] at hself
    refine ⟨fun h0 => hself (by rw [h0]), fun op' b hb => ⟨fun hlt => ?_, fun hlt => ?_⟩⟩
    · have hne : op' ≠ op := fun h => absurd hlt (by rw [h]; exact lt_irrefl _)
      exact hr op' op hlt b a (by rw [if_neg hne, hb]) (by rw [if_pos rfl, ha])
    · have hne : op' ≠ op := fun h => absurd hlt (by rw [h]; exact lt_irrefl _)
      exact hr op op' hlt a b (by rw [if_pos rfl, ha]) (by rw [if_neg hne, hb])
  · intro hfits
    refine ⟨fun op' => ?_, fun op₁ op₂ hlt a b ha hb => ?_⟩
    · split
      · exact fun h => (hfits 0 h).1 rfl
      · exact hpos op'
    · split at ha
      next h₁ =>
        split at hb
        next h₂ => exact absurd hlt (by rw [h₁, h₂]; exact lt_irrefl _)
        next h₂ => exact ((hfits a ha).2 op₂ b hb).2 (h₁ ▸ hlt)
      next h₁ =>
        split at hb
        next h₂ => exact ((hfits b hb).2 op₁ a ha).1 (h₂ ▸ hlt)
        next h₂ => exact hrise op₁ op₂ hlt a b ha hb

structure WriteResult (r : PersistentRecoveryRecord) (w : RecordWrite)
    (next : PersistentRecoveryRecord) : Prop where
  lifecycleId : next.lifecycleId = r.lifecycleId
  seat : next.seat = r.seat
  sequence : next.sequence = r.sequence + 1
  createdBoot : next.createdBootId = r.createdBootId
  state : next.state = w.target r
  operations : next.operationLedger = w.operationsAfter r.operationLedger
  vtAttempts : w.attemptsAfter r.vtRecoveryAttempts = some next.vtRecoveryAttempts

theorem writeResult_of_apply {r next : PersistentRecoveryRecord} {w : RecordWrite}
    {bootId : Option String} (h : w.apply r bootId = some next) : WriteResult r w next := by
  obtain ⟨edited, hedit, htransition⟩ := Option.bind_eq_some_iff.mp h
  obtain ⟨boot, -, rfl⟩ := transition_eq_some htransition
  cases w with
  | operation op s =>
    cases hedit
    exact ⟨rfl, rfl, rfl, rfl, rfl, rfl, rfl⟩
  | transition state =>
    cases hedit
    exact ⟨rfl, rfl, rfl, rfl, rfl, rfl, rfl⟩
  | transitionWithOperation state op s =>
    simp only [RecordWrite.edit] at hedit
    split at hedit
    · cases hedit
      exact ⟨rfl, rfl, rfl, rfl, rfl, rfl, rfl⟩
    · cases hedit
  | quarantine reason =>
    cases hedit
    exact ⟨rfl, rfl, rfl, rfl, rfl, rfl, rfl⟩
  | vtBusyProvenance provenance =>
    cases hedit
    exact ⟨rfl, rfl, rfl, rfl, rfl, rfl, rfl⟩
  | appendVtRecoveryAttempt attempt =>
    cases hedit
    exact ⟨rfl, rfl, rfl, rfl, rfl, rfl, rfl⟩
  | finishVtRecoveryAttempt attemptId state provenanceAfter =>
    obtain ⟨attempts, hfinish, rfl⟩ := Option.map_eq_some_iff.mp hedit
    exact ⟨rfl, rfl, rfl, rfl, rfl, rfl, hfinish⟩
  | workerVtCleanupIntent attemptId =>
    cases hedit
    exact ⟨rfl, rfl, rfl, rfl, rfl, rfl, rfl⟩
  | workerVtCleanupResult attemptId result =>
    cases result <;> cases hedit <;> exact ⟨rfl, rfl, rfl, rfl, rfl, rfl, rfl⟩

theorem operationsAfter_attempts_iff {l : DurableOperationLedger} (w : RecordWrite)
    (hpos : ∀ op, (l.get op).attemptId ≠ some 0) (hrise : AttemptsRise l) :
    ((∀ op, ((w.operationsAfter l).get op).attemptId ≠ some 0) ∧
      AttemptsRise (w.operationsAfter l)) ↔
      ∀ op s, w.operationChange = some (op, s) → AttemptFits l op s := by
  unfold RecordWrite.operationsAfter
  split
  next op s hc =>
    rw [attempts_set_iff hpos hrise]
    simp [hc]
  next hc => simpa [hc] using ⟨hpos, hrise⟩

theorem operationsAfter_vtDisallocate (w : RecordWrite) (l : DurableOperationLedger) :
    (w.operationsAfter l).vtDisallocate = l.vtDisallocate ∨
      ∃ s, w.operationChange = some (.vtDisallocate, s) ∧
        (w.operationsAfter l).vtDisallocate = s := by
  unfold RecordWrite.operationsAfter
  split
  next op s hc =>
    rw [hc]
    cases op <;> simp [DurableOperationLedger.set]
  next hc => exact Or.inl rfl

/-- The results of the administrative attempts after a write still rest on one of the operation. -/
theorem vtResults_iff {r next : PersistentRecoveryRecord} {w : RecordWrite}
    (hres : ∀ a ∈ r.vtRecoveryAttempts, a.state.hasResult = true →
      r.operationLedger.vtDisallocate.hasResult = true) (hw : WriteResult r w next) :
    (∀ a ∈ next.vtRecoveryAttempts, a.state.hasResult = true →
      next.operationLedger.vtDisallocate.hasResult = true) ↔
      (∀ s, w.operationChange = some (.vtDisallocate, s) → s.hasResult = false →
        ∀ a ∈ r.vtRecoveryAttempts, a.state.hasResult = false) ∧
      ∀ state, w.attemptState = some state → state.hasResult = true →
        r.operationLedger.vtDisallocate.hasResult = true := by
  rw [hw.operations]
  cases hstate : w.attemptState with
  | none =>
    rw [attemptsAfter_of_none hstate hw.vtAttempts]
    constructor
    · intro h
      refine ⟨fun s hs hnone a ha => ?_, fun state hw' => by cases hw'⟩
      rcases operationsAfter_vtDisallocate w r.operationLedger with hkeep | ⟨s', hs', hnew⟩
      · unfold RecordWrite.operationsAfter at hkeep
        rw [hs] at hkeep
        have hs : s = r.operationLedger.vtDisallocate := hkeep
        by_contra hcon
        rw [hs, hres a ha (by simpa using hcon)] at hnone
        cases hnone
      · rw [hs] at hs'
        cases hs'
        by_contra hcon
        have := h a ha (by simpa using hcon)
        rw [hnew, hnone] at this
        cases this
    · rintro ⟨hkept, -⟩ a ha hresult
      rcases operationsAfter_vtDisallocate w r.operationLedger with hkeep | ⟨s, hs, hnew⟩
      · rw [hkeep]
        exact hres a ha hresult
      · rw [hnew]
        by_contra hcon
        rw [hkept s hs (by simpa using hcon) a ha] at hresult
        cases hresult
  | some state =>
    obtain ⟨⟨b, hb, hbs⟩, hall⟩ := mem_attemptsAfter hstate hw.vtAttempts
    have hchange := operationChange_of_attemptState hstate
    have hops : w.operationsAfter r.operationLedger = r.operationLedger := by
      simp only [RecordWrite.operationsAfter, hchange]
    rw [hops, hchange]
    constructor
    · intro h
      refine ⟨fun s hs => (by cases hs), fun state' heq hresult => ?_⟩
      cases heq
      exact h b hb (by rw [hbs, hresult])
    · rintro ⟨-, hfin⟩ a ha hresult
      rcases hall a ha with hold | hnew
      · exact hres a hold hresult
      · exact hfin state rfl (hnew ▸ hresult)

/-- A readable record stays readable under exactly the safe writes. -/
theorem readable_apply_iff {r next : PersistentRecoveryRecord} {w : RecordWrite}
    {bootId : Option String} (hr : ReadableRecord r) (h : w.apply r bootId = some next)
    (hboot : bootIdentityValid next.lastUpdatedBootId = true) :
    ReadableRecord next ↔ SafeWrite r w := by
  have hw := writeResult_of_apply h
  have hvt := attemptsAfter_ordered_iff hw.vtAttempts
    ((vtAttemptsOrdered_iff r).mp hr.vtAttempts)
  rw [← vtAttemptsOrdered_iff] at hvt
  have hattempts := operationsAfter_attempts_iff w hr.positive hr.rise
  rw [← hw.operations] at hattempts
  have hagrees : ResolutionAgrees (w.operationsAfter r.operationLedger) (w.target r) ↔
      ResolutionAgrees next.operationLedger next.state := by rw [hw.operations, hw.state]
  have hresults := vtResults_iff hr.vtResults hw
  constructor
  · intro hn
    exact ⟨hattempts.mp ⟨hn.positive, hn.rise⟩,
      hagrees.mpr ⟨hn.release, hn.resolved, hn.resolution⟩, (hresults.mp hn.vtResults).1,
      (hresults.mp hn.vtResults).2, hvt.mp hn.vtAttempts⟩
  · intro hs
    have hsequence : next.sequence ≠ 0 := by rw [hw.sequence]; omega
    have hcreated : bootIdentityValid next.createdBootId = true := by
      rw [hw.createdBoot]; exact hr.createdBoot
    have ha := hagrees.mp hs.agrees
    exact ⟨hsequence, hcreated, hboot, (hattempts.mpr hs.attempt).1, (hattempts.mpr hs.attempt).2,
      ha.release, ha.resolved, ha.resolution, hvt.mpr hs.vtAppended,
      hresults.mpr ⟨hs.vtKept, hs.vtFinished⟩⟩

section Operations
variable {r next : PersistentRecoveryRecord} {op : DurableOperation} {l : DurableOperationLedger}

def RecordWrite.Reaches (write : RecordWrite) (r next : PersistentRecoveryRecord) : Prop :=
  ∃ boot, write.apply r (some boot) = some next ∧ validateRecord next = true

theorem reaches_of_apply {write : RecordWrite} {boot : Option String}
    (happly : write.apply r boot = some next) (hvalid : validateRecord next = true) :
    write.Reaches r next := by
  obtain ⟨edited, -, htransition⟩ := Option.bind_eq_some_iff.mp happly
  obtain ⟨boot, rfl, -⟩ := transition_eq_some htransition
  exact ⟨boot, happly, hvalid⟩

/-- `transition` takes the text as the state of a record. -/
def stateTextValid (state : String) : Bool :=
  !(state = "" || state.utf8ByteSize > 64 || state.toList.contains '\x00')

def PersistentRecoveryRecord.HasRoom (r : PersistentRecoveryRecord) (k : Nat) : Prop :=
  r.sequence + k < u64Bound

/-- `k` more writes can leave the state as it is. -/
def PersistentRecoveryRecord.Takes (r : PersistentRecoveryRecord) (k : Nat) : Prop :=
  r.HasRoom k ∧ stateTextValid r.state = true

def PersistentRecoveryRecord.advanced (r : PersistentRecoveryRecord) (k : Nat)
    (operationLedger : DurableOperationLedger) (lastUpdatedBootId : String) :
    PersistentRecoveryRecord :=
  { r with sequence := r.sequence + k, operationLedger, lastUpdatedBootId }

theorem PersistentRecoveryRecord.advanced_hasRoom {k j : Nat} {boot : String} :
    (r.advanced k l boot).HasRoom j ↔ r.HasRoom (k + j) := by
  unfold HasRoom advanced
  rw [Nat.add_assoc]

theorem PersistentRecoveryRecord.advanced_takes {k j : Nat} {boot : String} :
    (r.advanced k l boot).Takes j ↔ r.Takes (k + j) :=
  and_congr_left fun _ => advanced_hasRoom

theorem transition_iff {state : String} {bootId : Option String} :
    r.transition state bootId = some next ↔ stateTextValid state = true ∧ r.HasRoom 1 ∧
      ∃ boot, bootId = some boot ∧
        next = { r with sequence := r.sequence + 1, state, lastUpdatedBootId := boot } := by
  constructor
  · intro h
    refine ⟨?_, ?_, transition_eq_some h⟩
    · by_contra hinvalid
      have hnot : (state = "" || state.utf8ByteSize > 64 || state.toList.contains '\x00') = true := by
        simpa only [stateTextValid, Bool.not_eq_true', Bool.not_eq_false] using hinvalid
      unfold PersistentRecoveryRecord.transition at h
      rw [if_pos hnot] at h
      cases h
    · unfold PersistentRecoveryRecord.transition at h
      split at h
      · cases h
      · obtain ⟨sequence, hs, -⟩ := Option.bind_eq_some_iff.mp h
        exact (checkedAdd_eq_some.mp hs).1
  · rintro ⟨hstate, hroom, boot, rfl, rfl⟩
    have hnot : (state = "" || state.utf8ByteSize > 64 || state.toList.contains '\x00') = false := by
      simpa only [stateTextValid, Bool.not_eq_true'] using hstate
    unfold PersistentRecoveryRecord.transition
    rw [if_neg (by rw [hnot]; exact Bool.false_ne_true), checkedAdd_eq_some.mpr ⟨hroom, rfl⟩]
    rfl

theorem validateRecord_advanced {k : Nat} {boot : String} (hvalid : validateRecord r = true)
    (hboot : bootIdentityValid boot = true) : validateRecord (r.advanced k l boot) = true := by
  simp only [validateRecord, Bool.and_eq_true, Bool.or_eq_true, decide_eq_true_eq] at hvalid ⊢
  obtain ⟨⟨⟨⟨⟨⟨⟨⟨⟨⟨hformat, hid⟩, hsequence⟩, hcreated⟩, hstate⟩, hseat⟩, hworker⟩, hlauncher⟩,
    hcreatedBoot⟩, -⟩, hname⟩ := hvalid
  have hrises : r.sequence + k ≠ 0 := by omega
  exact ⟨⟨⟨⟨⟨⟨⟨⟨⟨⟨hformat, hid⟩, hrises⟩, hcreated⟩, hstate⟩, hseat⟩, hworker⟩, hlauncher⟩,
    hcreatedBoot⟩, hboot⟩, hname⟩

theorem validateRecord_withState {state : String} (hvalid : validateRecord r = true)
    (hstate : state ≠ "") : validateRecord { r with state := state } = true := by
  have htext : decide (state ≠ "") = true := decide_eq_true hstate
  simp only [validateRecord, Bool.and_eq_true] at hvalid ⊢
  obtain ⟨⟨⟨⟨⟨⟨⟨hformat, -⟩, hseat⟩, hworker⟩, hlauncher⟩, hcreated⟩, hupdated⟩, hname⟩ := hvalid
  exact ⟨⟨⟨⟨⟨⟨⟨hformat, htext⟩, hseat⟩, hworker⟩, hlauncher⟩, hcreated⟩, hupdated⟩, hname⟩

/-- A write of one operation goes through if the sequence has room and the state's text does. -/
theorem operation_reaches_iff {s : DurableOperationState} (hvalid : validateRecord r = true) :
    (RecordWrite.operation op s).Reaches r next ↔ r.Takes 1 ∧ ∃ boot,
      bootIdentityValid boot = true ∧
        next = r.advanced 1 (r.operationLedger.set op s) boot := by
  have happly : ∀ boot, (RecordWrite.operation op s).apply r boot =
      { r with operationLedger := r.operationLedger.set op s }.transition r.state boot :=
    fun _ => rfl
  constructor
  · rintro ⟨boot, hnext, hvalidNext⟩
    rw [happly, transition_iff] at hnext
    obtain ⟨hstate, hroom, _, ⟨⟩, rfl⟩ := hnext
    exact ⟨⟨hroom, hstate⟩, boot, lastUpdatedBoot_of_valid hvalidNext, rfl⟩
  · rintro ⟨⟨hroom, hstate⟩, boot, hboot, rfl⟩
    refine ⟨boot, ?_, validateRecord_advanced hvalid hboot⟩
    rw [happly, transition_iff]
    exact ⟨hstate, hroom, boot, rfl, rfl⟩

/-- The record after an update of its attempts or its provenance. -/
def PersistentRecoveryRecord.rewritten (r : PersistentRecoveryRecord) (boot : String)
    (vtRecoveryAttempts : List VtRecoveryAttempt) (vtBusyProvenance : Option VtBusyProvenance) :
    PersistentRecoveryRecord :=
  { r with
    sequence := r.sequence + 1
    lastUpdatedBootId := boot
    vtRecoveryAttempts
    vtBusyProvenance }

/-- The write updates nothing but the attempts and the provenance. -/
def RecordWrite.Rewrites (write : RecordWrite) (r : PersistentRecoveryRecord)
    (attempts : List VtRecoveryAttempt) (provenance : Option VtBusyProvenance) : Prop :=
  ∀ boot, write.apply r boot = { r with
    vtRecoveryAttempts := attempts
    vtBusyProvenance := provenance }.transition r.state boot

theorem rewrite_reaches_iff {write : RecordWrite} {attempts : List VtRecoveryAttempt}
    {provenance : Option VtBusyProvenance} (hwrite : write.Rewrites r attempts provenance)
    (hvalid : validateRecord r = true) :
    write.Reaches r next ↔ r.Takes 1 ∧ ∃ boot, bootIdentityValid boot = true ∧
      next = r.rewritten boot attempts provenance := by
  constructor
  · rintro ⟨boot, hnext, hvalidNext⟩
    rw [hwrite, transition_iff] at hnext
    obtain ⟨hstate, hroom, _, ⟨⟩, rfl⟩ := hnext
    exact ⟨⟨hroom, hstate⟩, boot, lastUpdatedBoot_of_valid hvalidNext, rfl⟩
  · rintro ⟨⟨hroom, hstate⟩, boot, hboot, rfl⟩
    refine ⟨boot, ?_, ?_⟩
    · rw [hwrite, transition_iff]
      exact ⟨hstate, hroom, boot, rfl, rfl⟩
    · have hadvanced : validateRecord (r.advanced 1 r.operationLedger boot) = true :=
        validateRecord_advanced hvalid hboot
      exact hadvanced

theorem rewrites_append (attempt : VtRecoveryAttempt) :
    (RecordWrite.appendVtRecoveryAttempt attempt).Rewrites r
      (appendAttempt attempt r.vtRecoveryAttempts) r.vtBusyProvenance := fun _ => rfl

theorem rewrites_provenance (provenance : VtBusyProvenance) :
    (RecordWrite.vtBusyProvenance provenance).Rewrites r r.vtRecoveryAttempts provenance :=
  fun _ => rfl

theorem rewrites_finish {attempt : VtRecoveryAttempt} (state : VtRecoveryAttemptState)
    (after : Option VtBusyProvenance) (hlast : r.vtRecoveryAttempts.getLast? = some attempt)
    (hopen : attempt.state = .intentPersisted) :
    ∃ attempts, (RecordWrite.finishVtRecoveryAttempt attempt.attemptId state after).Rewrites r
      attempts r.vtBusyProvenance := by
  obtain ⟨attempts, hfinish⟩ := Option.isSome_iff_exists.mp
    (finishAttempt_isSome state after hlast hopen)
  refine ⟨attempts, fun boot => ?_⟩
  simp only [RecordWrite.apply, RecordWrite.edit, RecordWrite.target, hfinish, Option.map_some,
    Option.bind_some]

theorem safeWrite_append_iff {attempt : VtRecoveryAttempt} (hread : ReadableRecord r)
    (hstate : attempt.state.hasResult = false) :
    SafeWrite r (.appendVtRecoveryAttempt attempt) ↔ AttemptKeysOrdered
      ((appendAttempt attempt r.vtRecoveryAttempts).map VtRecoveryAttempt.key) := by
  constructor
  · exact fun h => h.vtAppended attempt rfl
  · intro hordered
    exact {
      attempt := fun _ _ hchange => by cases hchange
      agrees := ⟨hread.release, hread.resolved, hread.resolution⟩
      vtKept := fun _ hchange => by cases hchange
      vtFinished := fun state hgiven hresult => by
        cases hgiven
        rw [hstate] at hresult
        cases hresult
      vtAppended := fun _ happend => by cases happend; exact hordered }

theorem safeWrite_finish_iff {attemptId : Nat} {state : VtRecoveryAttemptState}
    {after : Option VtBusyProvenance} (hread : ReadableRecord r) (hstate : state.hasResult = true) :
    SafeWrite r (.finishVtRecoveryAttempt attemptId state after) ↔
      r.operationLedger.vtDisallocate.hasResult = true := by
  constructor
  · exact fun h => h.vtFinished state rfl hstate
  · intro hresult
    exact {
      attempt := fun _ _ hchange => by cases hchange
      agrees := ⟨hread.release, hread.resolved, hread.resolution⟩
      vtKept := fun _ hchange => by cases hchange
      vtFinished := fun _ _ _ => hresult
      vtAppended := fun _ happend => by cases happend }

theorem safeWrite_provenance {provenance : VtBusyProvenance} (hread : ReadableRecord r) :
    SafeWrite r (.vtBusyProvenance provenance) where
  attempt := fun _ _ hchange => by cases hchange
  agrees := ⟨hread.release, hread.resolved, hread.resolution⟩
  vtKept := fun _ hchange => by cases hchange
  vtFinished := fun _ hgiven => by cases hgiven
  vtAppended := fun _ happend => by cases happend

/-- Apart from the operations in `done`, the id is above those recorded for the operations before
`op` and below those recorded for the ones after it. -/
def IdFits (l : DurableOperationLedger) (done : List DurableOperation) (op : DurableOperation)
    (a : Nat) : Prop :=
  ∀ op' ∉ done, ∀ b, (l.get op').attemptId = some b →
    (validationOrder.idxOf op' < validationOrder.idxOf op → b < a) ∧
      (validationOrder.idxOf op < validationOrder.idxOf op' → a < b)

theorem attemptFits_iff {s : DurableOperationState} {a : Nat} (hs : s.attemptId = some a)
    (ha : a ≠ 0) : AttemptFits l op s ↔ IdFits l [] op a := by
  constructor
  · intro h op' _
    exact (h a hs).2 op'
  · intro h a' ha'
    cases hs.symm.trans ha'
    exact ⟨ha, fun op' => h op' List.not_mem_nil⟩

/-- An operation that comes before, with a smaller id, is in nobody's way. -/
theorem idFits_set {done : List DurableOperation} {op₀ : DurableOperation}
    {s : DurableOperationState} {a₀ a : Nat} (hs : s.attemptId = some a₀) (hlt : a₀ < a)
    (hbefore : validationOrder.idxOf op₀ < validationOrder.idxOf op) :
    IdFits (l.set op₀ s) done op a ↔ IdFits l (op₀ :: done) op a := by
  constructor
  · intro h op' hnot b hb
    have ⟨hne, hdone⟩ : op' ≠ op₀ ∧ op' ∉ done := by simpa using hnot
    refine h op' hdone b ?_
    rwa [DurableOperationLedger.get_set, if_neg hne]
  · intro h op' hdone b hb
    rw [DurableOperationLedger.get_set] at hb
    split at hb
    next heq =>
      subst heq
      cases hs.symm.trans hb
      exact ⟨fun _ => hlt, fun hafter => absurd hafter (Nat.lt_asymm hbefore)⟩
    next hne =>
      refine h op' ?_ b hb
      simpa using ⟨hne, hdone⟩

/-- Without a confirmation, the resolution and the release agree with an unresolved state. -/
theorem resolutionAgrees_set {s : DurableOperationState} (hread : ReadableRecord r)
    (hstate : op = .runtimeRelease ∨ op = .recordResolution → s.isConfirmed = false ∧
      r.state ≠ "record_resolved") : ResolutionAgrees (r.operationLedger.set op s) r.state := by
  cases op with
  | runtimeRelease =>
    have hnot := (hstate (Or.inl rfl)).1
    exact ⟨fun h => absurd h (Bool.eq_false_iff.mp hnot), hread.resolved, hread.resolution⟩
  | recordResolution =>
    have ⟨hnot, hother⟩ := hstate (Or.inr rfl)
    exact ⟨hread.release, fun h => absurd h hother, fun h => absurd h (Bool.eq_false_iff.mp hnot)⟩
  | _ => exact ⟨hread.release, hread.resolved, hread.resolution⟩

theorem safeWrite_operation_iff {s : DurableOperationState} {a : Nat} (hread : ReadableRecord r)
    (hs : s.attemptId = some a) (ha : a ≠ 0)
    (hagrees : ResolutionAgrees (r.operationLedger.set op s) r.state)
    (hvt : op = .vtDisallocate → s.hasResult = false →
      r.operationLedger.vtDisallocate = .notStarted) :
    SafeWrite r (.operation op s) ↔ IdFits r.operationLedger [] op a := by
  rw [← attemptFits_iff hs ha]
  constructor
  · exact fun h => h.attempt op s rfl
  · intro hfits
    exact {
      attempt := fun op' s' hchange => by cases hchange; exact hfits
      agrees := hagrees
      vtKept := fun s' hchange hnone b hb => by
        cases hchange
        by_contra hresult
        have := hread.vtResults b hb (by simpa using hresult)
        rw [hvt rfl hnone] at this
        cases this
      vtFinished := fun _ hgiven => by cases hgiven
      vtAppended := fun _ happend => by cases happend }

theorem safeWrite_intent_iff {a : Nat} (hread : ReadableRecord r) (ha : a ≠ 0)
    (hstate : op = .recordResolution → r.state ≠ "record_resolved")
    (hvt : op = .vtDisallocate → r.operationLedger.vtDisallocate = .notStarted) :
    SafeWrite r (.operation op (.intentPersisted a)) ↔ IdFits r.operationLedger [] op a := by
  have hagrees : ResolutionAgrees (r.operationLedger.set op (.intentPersisted a)) r.state := by
    cases op with
    | runtimeRelease => exact ⟨fun h => (by cases h), hread.resolved, hread.resolution⟩
    | recordResolution =>
      exact ⟨hread.release, fun h => absurd h (hstate rfl), fun h => (by cases h)⟩
    | _ => exact ⟨hread.release, hread.resolved, hread.resolution⟩
  exact safeWrite_operation_iff hread rfl ha hagrees fun hop _ => hvt hop

theorem safeWrite_result {s : DurableOperationState} (hread : ReadableRecord r)
    (hid : (r.operationLedger.get op).attemptId = s.attemptId) (hresult : s.hasResult = true)
    (hagrees : ResolutionAgrees (r.operationLedger.set op s) r.state) :
    SafeWrite r (.operation op s) where
  attempt := by
    rintro op' s' ⟨⟩ a ha
    have hrecorded : (r.operationLedger.get op).attemptId = some a := hid.trans ha
    refine ⟨fun hzero => hread.positive op (hzero ▸ hrecorded), fun op' b hb => ?_⟩
    exact ⟨fun hlt => hread.rise op' op hlt b a hb hrecorded,
      fun hlt => hread.rise op op' hlt a b hrecorded hb⟩
  agrees := hagrees
  vtKept := fun s' hchange hnone => by
    cases hchange
    rw [hresult] at hnone
    cases hnone
  vtFinished := fun _ hgiven => by cases hgiven
  vtAppended := fun _ happend => by cases happend

end Operations

end Niralis
