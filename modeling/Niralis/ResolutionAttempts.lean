import Niralis.LedgerRuns
import Niralis.PreviousBootRequests
import Niralis.PreviousBootSafety
import Niralis.ReadableRuns

namespace Niralis
open PersistentRecoveryLedger

/-- The finalization records a resolution under a new attempt id. -/
def NeedsResolutionAttempt (r : PersistentRecoveryRecord) : Prop :=
  r.state = "previous_boot_resolution_intent" ∨ r.state = "record_resolved" →
    r.operationLedger.recordResolution = .notStarted

/-- A new attempt id is above all others, but that of a runtime release must stay above it. -/
def ResolutionFits (r : PersistentRecoveryRecord) : Prop :=
  NeedsResolutionAttempt r → r.operationLedger.runtimeRelease = .notStarted

theorem attemptId_eq_none {s : DurableOperationState} : s.attemptId = none ↔ s = .notStarted := by
  cases s <;> simp [DurableOperationState.attemptId]

section Attempts
variable {r : PersistentRecoveryRecord} {op : DurableOperation} {s : DurableOperationState}
  {attempt : Nat}

theorem attemptFits_kept (h : ReadableRecord r)
    (hs : s.attemptId = (r.operationLedger.get op).attemptId) :
    AttemptFits r.operationLedger op s := by
  intro a ha
  rw [hs] at ha
  refine ⟨fun h0 => h.positive op (h0 ▸ ha), fun op' b hb => ⟨fun hlt => ?_, fun hlt => ?_⟩⟩
  · exact h.rise op' op hlt b a hb ha
  · exact h.rise op op' hlt a b ha hb

theorem lt_nextOperationAttemptId (h : nextOperationAttemptId r = some attempt) {b : Nat}
    (hb : (r.operationLedger.get op).attemptId = some b) : b < attempt := by
  obtain ⟨-, rfl⟩ := checkedAdd_eq_some.mp h
  have hmem : b ∈ recordedAttempts r.operationLedger :=
    List.mem_filterMap.mpr ⟨op, mem_validationOrder op, hb⟩
  have hle := ((foldl_max_le_iff (recordedAttempts r.operationLedger) 0 _).mp (le_refl _)).2 b hmem
  omega

/-- It fits an operation exactly if no later one in the validator's order has an attempt. -/
theorem attemptFits_next_iff (h : nextOperationAttemptId r = some attempt)
    (hs : s.attemptId = some attempt) :
    AttemptFits r.operationLedger op s ↔
      ∀ op', validationOrder.idxOf op < validationOrder.idxOf op' →
        r.operationLedger.get op' = .notStarted := by
  constructor
  · intro hfits op' hlater
    rw [← attemptId_eq_none]
    by_contra hsome
    obtain ⟨b, hb⟩ := Option.ne_none_iff_exists'.mp hsome
    have hlt := lt_nextOperationAttemptId h hb
    have hgt := ((hfits attempt hs).2 op' b hb).2 hlater
    omega
  · intro hnone a ha
    rw [hs] at ha
    cases ha
    have hpos : attempt ≠ 0 := by
      obtain ⟨-, rfl⟩ := checkedAdd_eq_some.mp h
      omega
    refine ⟨hpos, fun op' b hb => ⟨fun _ => lt_nextOperationAttemptId h hb, fun hlater => ?_⟩⟩
    rw [hnone op' hlater] at hb
    cases hb

theorem safeWrite_closing_iff {state : String}
    (hop : op = .recordResolution ∨ op = .runtimeRelease) :
    SafeWrite r (.transitionWithOperation state op s) ↔ AttemptFits r.operationLedger op s ∧
      ResolutionAgrees (r.operationLedger.set op s) state := by
  have hvt : op ≠ .vtDisallocate := by
    rintro rfl
    simp at hop
  constructor
  · exact fun h => ⟨h.attempt op s rfl, h.agrees⟩
  · rintro ⟨hfits, hagrees⟩
    refine ⟨fun op' s' h => ?_, hagrees, fun s' h => ?_, fun state' h => ?_, fun attempt h => ?_⟩
    · cases h
      exact hfits
    · cases h
      exact absurd rfl hvt
    · cases h
    · cases h

theorem later_recordResolution_iff {l : DurableOperationLedger} :
    (∀ op', validationOrder.idxOf .recordResolution < validationOrder.idxOf op' →
      l.get op' = .notStarted) ↔ l.runtimeRelease = .notStarted := by
  constructor
  · exact fun h => h .runtimeRelease (by decide)
  · intro h op' hlater
    cases op' with
    | runtimeRelease => exact h
    | _ => exact absurd hlater (by decide)

theorem safeWrite_resolutionIntent_iff (h : ReadableRecord r) (hstate : r.state ≠ "record_resolved")
    (hnext : nextOperationAttemptId r = some attempt) :
    SafeWrite r (.transitionWithOperation "previous_boot_resolution_intent" .recordResolution
      (.intentPersisted attempt)) ↔ r.operationLedger.runtimeRelease = .notStarted := by
  rw [safeWrite_closing_iff (Or.inl rfl), attemptFits_next_iff hnext rfl,
    later_recordResolution_iff]
  refine and_iff_left ⟨fun hrelease => ?_, nofun, nofun⟩
  exact absurd (h.release hrelease) hstate

theorem safeWrite_resolved_iff (h : ReadableRecord r)
    (hattempt : resolutionAttempt r = .ok attempt) :
    SafeWrite r
        (.transitionWithOperation "record_resolved" .recordResolution (.confirmed attempt)) ↔
      (r.operationLedger.recordResolution = .notStarted →
        r.operationLedger.runtimeRelease = .notStarted) := by
  have hagrees : ResolutionAgrees
      (r.operationLedger.set .recordResolution (.confirmed attempt)) "record_resolved" :=
    ⟨fun _ => rfl, fun _ => rfl, fun _ => rfl⟩
  rw [safeWrite_closing_iff (Or.inl rfl), and_iff_left hagrees]
  unfold resolutionAttempt at hattempt
  split at hattempt
  next kept hkept =>
    cases hattempt
    refine iff_of_true (attemptFits_kept h ?_) fun hnone => ?_
    · show _ = r.operationLedger.recordResolution.attemptId
      rw [hkept]
      rfl
    · rw [hkept] at hnone
      cases hnone
  next hnone =>
    split at hattempt
    next hnext =>
      cases hattempt
      rw [attemptFits_next_iff hnext rfl, later_recordResolution_iff]
      exact ⟨fun hrelease _ => hrelease, fun himp => himp hnone⟩
    · cases hattempt
  · cases hattempt
  · cases hattempt
  · cases hattempt

theorem safeWrite_runtimeRelease (h : ReadableRecord r) (hstate : r.state = "record_resolved")
    (hs : s.attemptId = r.operationLedger.runtimeRelease.attemptId ∨
      nextOperationAttemptId r = some attempt ∧ s.attemptId = some attempt) :
    SafeWrite r (.transitionWithOperation "record_resolved" .runtimeRelease s) := by
  refine (safeWrite_closing_iff (Or.inr rfl)).mpr ⟨?_, fun _ => rfl, fun _ => h.resolved hstate,
    fun _ => rfl⟩
  rcases hs with hkept | ⟨hnext, hnew⟩
  · exact attemptFits_kept h hkept
  · refine (attemptFits_next_iff hnext hnew).mpr fun op' hlater => ?_
    cases op' <;> exact absurd hlater (by decide)

end Attempts

/-- A write of the record is safe exactly under the condition. -/
def SafeWhen (id : String) (c : Prop) (w : StartupWorld) : StartupRequest → Prop
  | .write id' write => id' = id → ∀ r, w.ledger.get id = some r → (SafeWrite r write ↔ c)
  | _ => True

/-- The record in memory is this one, and it can be read back. -/
structure HoldsReadable (id : String) (r : PersistentRecoveryRecord) (w : StartupWorld) : Prop where
  memory : w.ledger.get id = some r
  readable : ReadableRecord r

section Programs
variable {id : String} {c : Prop} {r : PersistentRecoveryRecord} {w : StartupWorld} {β : Type}
  {host : PreviousBootHost} {a : PreviousBootFinalizationAuthority}
  {journal : HistoricalFinalizationJournal} {entry : HistoricalFinalizationEntry}

/-- While no unsafe write reaches the disk, the writes of the record are safe exactly under the
condition, and success ends as `post` says. -/
abbrev DecidedSat (id : String) (c : Prop) (p : PreviousBootM β) (w : StartupWorld)
    (post : β → StartupWorld → Prop) : Prop :=
  p.Sat StartupWorld.perform (SafeStep id) (SafeWhen id c) w post

theorem decided_persistEntry : DecidedSat id c (persistEntry journal entry) w fun _ w' =>
    w'.ledger.get id = w.ledger.get id := by
  have hstore : DecidedSat id c (.perform (.persistJournal (journal.upsert entry)) .io) w
      fun _ w' => w'.ledger.get id = w.ledger.get id := by
    refine Attempt.sat_perform trivial fun x _ _ => ?_
    simp only [StartupWorld.perform, StartupWorld.onLedger]
    rcases w.ledger.persistJournal_cases (journal.upsert entry) x.journal with hp | ⟨-, -, -, hp⟩
    · rw [hp]
    · rw [hp]
      rfl
  exact hstore.bind fun _ _ hw => hw

theorem HoldsReadable.congr {w' : StartupWorld} (h : HoldsReadable id r w)
    (hw : w'.ledger.get id = w.ledger.get id) : HoldsReadable id r w' :=
  ⟨hw.trans h.memory, h.readable⟩

/-- A commit that succeeds was safe, so that the condition holds and the new record can be read
back. -/
theorem decided_commitAdvance {write : RecordWrite} (h : HoldsReadable id r w)
    (ha : a.recordId = id) (hsafe : SafeWrite r write ↔ c) :
    DecidedSat id c (commitAdvance a write) w fun a' w' => c ∧ a'.recordId = id ∧
      ∃ next, HoldsReadable id next w' ∧ WriteResult r write next := by
  subst ha
  have hwrite : DecidedSat a.recordId c (persist a.recordId write .io) w fun _ w' =>
      c ∧ ∃ next, HoldsReadable a.recordId next w' ∧ WriteResult r write next := by
    refine Attempt.sat_perform (fun _ r' hr' => ?_) fun x hx hok => ?_
    · rw [h.memory] at hr'
      cases hr'
      exact hsafe
    · simp only [StartupWorld.perform, StartupWorld.onLedger] at hok ⊢
      rcases write_cases w.ledger a.recordId write x.write with
        hw | ⟨r', next, hget, happly, hvalid, hcommit, hw⟩
      · rw [hw] at hok
        cases hok
      · cases h.memory.symm.trans hget
        have hsafeWrite : SafeWrite r write := hx write r next rfl hget happly hvalid hcommit
        have hboot := lastUpdatedBoot_of_valid hvalid
        have hresult := writeResult_of_apply happly
        refine ⟨hsafe.mp hsafeWrite, next, ⟨?_, ?_⟩, hresult⟩
        · rw [hw] at hok ⊢
          split at hok
          next hsynced =>
            rw [if_pos hsynced, get_putRecord, if_pos]
            rw [hresult.lifecycleId, lifecycleId_of_get hget]
          · cases hok
        · exact (readable_apply_iff h.readable happly hboot).mpr hsafeWrite
  refine hwrite.bind fun _ w' hafter => sat_currentRecord_bind trivial fun next file _ => ?_
  exact ⟨hafter.1, rfl, hafter.2⟩

theorem decided_openEntry {existing : Option HistoricalFinalizationStage} :
    DecidedSat id c (openEntry journal entry existing) w fun _ w' =>
      w'.ledger.get id = w.ledger.get id := by
  unfold openEntry
  split
  · refine decided_persistEntry.bind fun journal₁ w₁ hw₁ => ?_
    exact decided_persistEntry.bind fun journal₂ w₂ hw₂ => hw₂.trans hw₁
  · exact rfl

/-- The record as it is before its resolution is confirmed: its resolution has an attempt, or the
condition says that a new one fits. -/
structure AwaitsResolution (id : String) (c : Prop) (r : PersistentRecoveryRecord)
    (w : StartupWorld) : Prop extends HoldsReadable id r w where
  decides : (r.operationLedger.recordResolution = .notStarted →
    r.operationLedger.runtimeRelease = .notStarted) ↔ c

theorem decided_reachResolutionIntent (h : HoldsReadable id r w) (ha : a.recordId = id)
    (hstate : r.state ≠ "record_resolved") :
    DecidedSat id (ResolutionFits r) (reachResolutionIntent host a r) w fun a' w' =>
      a'.recordId = id ∧ ∃ r', AwaitsResolution id (ResolutionFits r) r' w' ∧
        r'.state ≠ "record_resolved" := by
  unfold reachResolutionIntent
  split
  next hintent =>
    refine ⟨ha, r, ⟨h, fun himp hneeds => ?_, fun hfits hnone => ?_⟩, hstate⟩
    · exact himp (hneeds (Or.inl hintent))
    · exact hfits fun _ => hnone
  next hintent =>
    have hneeds : NeedsResolutionAttempt r := fun hstates =>
      hstates.elim (absurd · hintent) (absurd · hstate)
    refine sat_guardCurrentBoot_bind trivial ?_
    refine sat_currentRecord_bind trivial fun current file hget => ?_
    rw [ha, h.memory] at hget
    cases hget
    refine Attempt.Sat.require_bind fun _ => Attempt.Sat.okOr_bind fun attempt hnext => ?_
    have hsafe := safeWrite_resolutionIntent_iff h.readable hstate hnext
    refine (decided_commitAdvance h ha (hsafe.trans ⟨fun hrelease _ => hrelease, fun hfits =>
      hfits hneeds⟩)).mono fun a' w' ⟨hc, ha', next, hnextRecord, hresult⟩ => ?_
    refine ⟨ha', next, ⟨hnextRecord, iff_of_true (fun hnone => ?_) hc⟩, ?_⟩
    · rw [hresult.operations] at hnone
      cases hnone
    · rw [hresult.state]
      show "previous_boot_resolution_intent" ≠ "record_resolved"
      decide

theorem decided_advanceRecordResolved (h : AwaitsResolution id c r w) (ha : a.recordId = id) :
    DecidedSat id c (advanceRecordResolved a) w fun a' w' =>
      c ∧ a'.recordId = id ∧ ∃ r', HoldsReadable id r' w' := by
  refine sat_currentRecord_bind trivial fun current file hget => ?_
  rw [ha, h.memory] at hget
  cases hget
  refine Attempt.Sat.require_bind fun _ => Attempt.Sat.check_bind fun attempt hattempt => ?_
  have hsafe := safeWrite_resolved_iff h.readable hattempt
  refine (decided_commitAdvance h.toHoldsReadable ha (hsafe.trans h.decides)).mono ?_
  exact fun a' w' ⟨hc, ha', next, hnext, _⟩ => ⟨hc, ha', next, hnext⟩

theorem decided_reachRecordResolved (h : AwaitsResolution id c r w) (ha : a.recordId = id)
    (hstate : r.state ≠ "record_resolved") :
    DecidedSat id c (reachRecordResolved host a) w fun a' w' =>
      c ∧ a'.recordId = id ∧ ∃ r', HoldsReadable id r' w' := by
  refine sat_readRecord_gives trivial fun current hget => ?_
  rw [ha, h.memory] at hget
  cases hget
  rw [if_neg hstate]
  exact sat_guardCurrentBoot_bind trivial (decided_advanceRecordResolved h ha)

theorem decided_advanceRuntimeRelease (attempt : Nat) {s : DurableOperationState}
    (h : HoldsReadable id r w) (ha : a.recordId = id) (hc : c)
    (hs : s.attemptId = r.operationLedger.runtimeRelease.attemptId ∨
      nextOperationAttemptId r = some attempt ∧ s.attemptId = some attempt) :
    DecidedSat id c (advanceRuntimeRelease a s) w fun a' w' => a'.recordId = id ∧
      ∃ r', HoldsReadable id r' w' ∧ r'.operationLedger.runtimeRelease = s := by
  refine sat_currentRecord_bind trivial fun current file hget => ?_
  rw [ha, h.memory] at hget
  cases hget
  refine Attempt.Sat.require_bind fun hcurrent => ?_
  have hstate : r.state = "record_resolved" := by
    simp only [Bool.and_eq_true, decide_eq_true_eq] at hcurrent
    exact hcurrent.2
  have hsafe := iff_of_true (safeWrite_runtimeRelease h.readable hstate hs) hc
  refine (decided_commitAdvance h ha hsafe).mono ?_
  intro a' w' ⟨_, ha', next, hnext, hresult⟩
  refine ⟨ha', next, hnext, ?_⟩
  rw [hresult.operations]
  rfl

theorem decided_runtimeReleaseIntent (h : HoldsReadable id r w) (ha : a.recordId = id) (hc : c) :
    DecidedSat id c (runtimeReleaseIntent a journal entry r) w fun result w' =>
      result.1.recordId = id ∧ ∃ r', HoldsReadable id r' w' ∧
        r'.operationLedger.runtimeRelease.attemptId = some result.2.1 := by
  unfold runtimeReleaseIntent
  split
  · refine Attempt.Sat.okOr_bind fun attempt hnext => ?_
    refine (decided_advanceRuntimeRelease attempt h ha hc (Or.inr ⟨hnext, rfl⟩)).bind
      fun next w₁ ⟨hid, r₁, h₁, hrelease⟩ => ?_
    refine decided_persistEntry.bind fun journal₂ w₂ hw₂ => ?_
    have h₂ := h₁.congr hw₂
    refine sat_readRecord_gives trivial fun record hget => ?_
    rw [hid, h₂.memory] at hget
    cases hget
    rw [hrelease]
    exact ⟨hid, r₁, h₂, by rw [hrelease]; rfl⟩
  next attempt hintent => exact ⟨ha, r, h, by rw [hintent]; rfl⟩
  next attempt hconfirmed => exact ⟨ha, r, h, by rw [hconfirmed]; rfl⟩
  · exact Attempt.sat_fail _ _ _
  · exact Attempt.sat_fail _ _ _

theorem decided_runtimeReleaseConfirmed {attempt : Nat} (h : HoldsReadable id r w)
    (ha : a.recordId = id) (hc : c)
    (hattempt : r.operationLedger.runtimeRelease.attemptId = some attempt) :
    DecidedSat id c (runtimeReleaseConfirmed a attempt) w fun _ _ => True := by
  refine sat_readRecord_gives trivial fun record hget => ?_
  rw [ha, h.memory] at hget
  cases hget
  split
  · trivial
  · have hkept : (DurableOperationState.confirmed attempt).attemptId =
        r.operationLedger.runtimeRelease.attemptId := hattempt.symm
    exact (decided_advanceRuntimeRelease attempt h ha hc (Or.inl hkept)).mono
      fun _ _ _ => trivial

theorem decided_removeAndPublish :
    DecidedSat id c (removeAndPublish host a journal entry) w fun _ _ => True := by
  have hremove : ∀ w, DecidedSat id c (.perform (.removeRecordExact a.recordId a.file) .io) w
      fun _ _ => True := fun w => Attempt.sat_perform trivial fun _ _ _ => trivial
  have hclear : ∀ w, DecidedSat id c
      (.perform (.clearSeatStartupQuarantine a.seat (.record a.recordId)) .io) w fun _ _ => True :=
    fun w => Attempt.sat_perform trivial fun _ _ _ => trivial
  refine decided_persistEntry.bind fun journal₁ w₁ _ => ?_
  refine decided_persistEntry.bind fun journal₂ w₂ _ => sat_guardCurrentBoot_bind trivial ?_
  refine (hremove w₂).bind fun _ w₃ _ => decided_persistEntry.bind fun journal₄ w₄ _ => ?_
  refine (hclear w₄).bind fun _ w₅ _ => decided_persistEntry.bind fun _ _ _ => ?_
  trivial

theorem decided_authorityForRuntime (h : HoldsReadable id r w) (ha : a.recordId = id) (hc : c) :
    DecidedSat id c (authorityForRuntime host a journal entry) w fun _ _ => True := by
  refine sat_readRecord_gives trivial fun current hget => ?_
  rw [ha, h.memory] at hget
  cases hget
  refine (decided_runtimeReleaseIntent h ha hc).bind
    fun (intent, attempt, journal₁) w₁ ⟨hid, r₁, h₁, hattempt⟩ => ?_
  refine sat_guardCurrentBoot_bind trivial ?_
  refine (decided_runtimeReleaseConfirmed h₁ hid hc hattempt).bind fun confirmed w₂ _ => ?_
  exact decided_removeAndPublish

theorem decided_resolveHistoricalRecord {existing : Option HistoricalFinalizationStage}
    (h : HoldsReadable id r w) (ha : a.recordId = id) (hstate : r.state ≠ "record_resolved") :
    DecidedSat id (ResolutionFits r) (resolveHistoricalRecord host a journal entry existing r) w
      fun _ _ => True := by
  refine decided_openEntry.bind fun (journal₁, entry₁) w₁ hw₁ => ?_
  refine (decided_reachResolutionIntent (h.congr hw₁) ha hstate).bind
    fun a₂ w₂ ⟨ha₂, r₂, h₂, hstate₂⟩ => ?_
  refine decided_persistEntry.bind fun journal₃ w₃ hw₃ => ?_
  have h₃ : AwaitsResolution id (ResolutionFits r) r₂ w₃ :=
    ⟨h₂.toHoldsReadable.congr hw₃, h₂.decides⟩
  refine (decided_reachRecordResolved h₃ ha₂ hstate₂).bind fun a₄ w₄ ⟨hc, ha₄, r₄, h₄⟩ => ?_
  refine decided_persistEntry.bind fun journal₅ w₅ hw₅ => ?_
  exact decided_authorityForRuntime (h₄.congr hw₅) ha₄ hc

theorem decided_finalizeAlreadyResolvedRecord (h : HoldsReadable id r w) (ha : a.recordId = id)
    (hstate : r.state = "record_resolved") :
    DecidedSat id (ResolutionFits r) (finalizeAlreadyResolvedRecord host a journal entry) w
      fun _ _ => True := by
  refine sat_readRecord_gives trivial fun current hget => ?_
  rw [ha, h.memory] at hget
  cases hget
  split
  next hnone =>
    have hawaits : AwaitsResolution id (ResolutionFits r) r w := by
      refine ⟨h, fun himp _ => himp hnone, fun hfits _ => hfits fun _ => hnone⟩
    exact (decided_advanceRecordResolved hawaits ha).bind
      fun a' w' ⟨hc, ha', r', h'⟩ => decided_authorityForRuntime h' ha' hc
  next hsettled =>
    have hfits : ResolutionFits r := fun hneeds => absurd (hneeds (Or.inr hstate)) hsettled
    exact decided_authorityForRuntime h ha hfits

/-- Every record write of a finalization is safe exactly if the resolution fits the record that it
starts from. -/
theorem decided_executePreviousBootPlan {boot : String} {facts : PreviousBootCurrentFacts}
    {plan : PreviousBootRecoveryPlan} (h : HoldsReadable r.lifecycleId r w) :
    DecidedSat r.lifecycleId (ResolutionFits r) (executePreviousBootPlan host r boot facts plan) w
      fun _ _ => True := by
  unfold executePreviousBootPlan
  split
  · trivial
  next hplans =>
    refine sat_readLedger_gives trivial (Attempt.Sat.okOr_bind fun file _ => ?_)
    refine sat_revalidate_bind trivial fun a original hid _ hget hplan => ?_
    cases h.memory.symm.trans hget
    refine sat_readLedger_gives trivial (Attempt.Sat.okOr_bind fun journal _ => ?_)
    refine Attempt.Sat.check_bind fun _ hvalid => ?_
    refine sat_readRecord_gives trivial fun current hget => ?_
    rw [hid, h.memory] at hget
    cases hget
    have hvalidated : journal.validateAgainstLedger w.ledger = none := by
      split at hvalid
      · cases hvalid
      next hnone => exact hnone
    have hstates : plan = .resolveHistoricalRecord ∧ r.state ≠ "record_resolved" ∨
        plan = .finalizeAlreadyResolvedRecord ∧ r.state = "record_resolved" := by
      by_cases hresolve : plan = .resolveHistoricalRecord
      · exact Or.inl ⟨hresolve, state_of_resolveHistoricalRecord (hplan.symm.trans hresolve)⟩
      · have hfinalize : plan = .finalizeAlreadyResolvedRecord := by
          by_contra hother
          exact hplans ⟨hresolve, hother⟩
        have hstate := state_of_finalizeAlreadyResolvedRecord (hplan.symm.trans hfinalize)
        exact Or.inr ⟨hfinalize, hstate⟩
    rcases hstates with ⟨rfl, hstate⟩ | ⟨rfl, hstate⟩
    · -- a journal that agrees with the record does not say that it is resolved already
      have hdone := resolutionDone_eq_false hvalidated (hid ▸ h.memory) hstate
      rw [if_pos ⟨rfl, hdone⟩]
      exact decided_resolveHistoricalRecord h hid hstate
    · rw [if_neg (fun hboth => nomatch hboth.1)]
      exact decided_finalizeAlreadyResolvedRecord h hid hstate

end Programs

section Runs
variable (w : StartupWorld) (host : PreviousBootHost) (r : PersistentRecoveryRecord) (boot : String)
  (facts : PreviousBootCurrentFacts) (plan : PreviousBootRecoveryPlan)

/-- Nothing has been committed for the record: where it still is, it is as it was. -/
structure Untouched (r : PersistentRecoveryRecord) (l : PersistentRecoveryLedger) : Prop where
  memory : ∀ r', l.get r.lifecycleId = some r' → r' = r
  disk : ∀ f, l.file r.lifecycleId = some f → f.record = r

variable {w r} in
theorem untouched_perform (h : Untouched r w.ledger) {request : StartupRequest} {x : StartupAnswer}
    (hdenied : SafeWhen r.lifecycleId False w request)
    (hsafe : SafeStep r.lifecycleId w request x) : Untouched r (w.perform request x).2.ledger := by
  by_cases hwrite : ∃ write, request = .write r.lifecycleId write
  · obtain ⟨write, rfl⟩ := hwrite
    have hsame : (w.ledger.write r.lifecycleId write x.write).2 = w.ledger := by
      rcases write_cases w.ledger r.lifecycleId write x.write with
        hw | ⟨current, next, hget, happly, hvalid, hcommit, -⟩
      · rw [hw]
      · have hsafeWrite := hsafe write current next rfl hget happly hvalid hcommit
        exact ((hdenied rfl current hget).mp hsafeWrite).elim
    simp only [StartupWorld.perform, StartupWorld.onLedger, hsame]
    exact h
  · have hkept : RecordKept r.lifecycleId w.ledger (w.perform request x).2.ledger :=
      recordKept_perform w request x fun write hw => hwrite ⟨write, hw⟩
    constructor
    · intro r' hr'
      rcases hkept.memory with hm | hm
      · exact h.memory r' (hm ▸ hr')
      · rw [hm] at hr'
        cases hr'
    · intro f hf
      rcases hkept.disk with hd | hd
      · exact h.disk f (hd ▸ hf)
      · rw [hd] at hf
        cases hf

/-- Every record that a finalization commits can be read back exactly if none needs a resolution
attempt while its runtime release has one; a finalization that commits nothing shows nothing. -/
theorem committed_readable_iff (h : LoadedRecord w.ledger r) (answers : List StartupAnswer) :
    let reached := (Finalizing.begin host w r boot facts plan).after answers
    (∀ n f, (reached n).1.ledger.file r.lifecycleId = some f →
      validateHistoricalRecord f.record = []) ↔
      ((∃ n f, (reached n).1.ledger.file r.lifecycleId = some f ∧ f.record ≠ r) →
        ResolutionFits r) := by
  intro reached
  have hread := (validateHistoricalRecord_eq_nil r).mp h.noViolation
  have hsat : DecidedSat r.lifecycleId (ResolutionFits r)
      (executePreviousBootPlan host r boot facts plan) w fun _ _ => True :=
    decided_executePreviousBootPlan ⟨h.memory, hread⟩
  have hiff := (safeStep_admitsReadable r.lifecycleId).run_iff
    (s := Finalizing.begin host w r boot facts plan) h.readable answers
  simp only [validateHistoricalRecord_eq_nil]
  constructor
  · intro hall ⟨n, f, hf, hne⟩
    have hmeets := hiff.mp hall
    by_contra hfits
    -- no write of the record is safe, so that none reached the disk
    have huntouched : Untouched r (reached n).1.ledger := by
      refine hsat.steps_invariant (fun w => Untouched r w.ledger)
        (fun w request x hw hgood hx => ?_) ?_ (stepsMeet_take hmeets n)
      · refine untouched_perform hw ?_ hx
        rwa [iff_false_intro hfits] at hgood
      · refine ⟨fun r' hr' => ?_, h.disk⟩
        exact (Option.some.inj (h.memory.symm.trans hr')).symm
    exact hne (huntouched.disk f hf)
  · intro hcommits
    by_cases hfits : ResolutionFits r
    · refine hiff.mpr (Program.Sat.stepsMeet hsat (fun w request x hgood => ?_) answers)
      rintro write current next rfl hget - - -
      exact (hgood rfl current hget).mpr hfits
    · intro n f hf
      have hsame : f.record = r := by
        by_contra hne
        exact hfits (hcommits ⟨n, f, hf, hne⟩)
      rw [hsame]
      exact hread

end Runs

section Sample

theorem leftRecord_loaded : LoadedRecord leftWorld.ledger leftRecord := by
  refine ⟨rfl, fun f hf => ?_, by decide +kernel⟩
  have hfile : f = ⟨1, leftRecord⟩ := (Option.some.inj hf).symm
  rw [hfile]

/-- The left-over login is resolved, and what is committed on the way can be read back. -/
theorem leftRecord_readable :
    (∃ n f, (leftFinalizing.after allSynced n).1.ledger.file "worker-1" = some f ∧
      f.record ≠ leftRecord) ∧
    ∀ n f, (leftFinalizing.after allSynced n).1.ledger.file "worker-1" = some f →
      validateHistoricalRecord f.record = [] := by
  have hcommitted : ((leftFinalizing.after allSynced 10).1.ledger.file "worker-1").map
      (fun f => f.record.sequence) = some 4 := by decide +kernel
  refine ⟨?_, ?_⟩
  · obtain ⟨f, hf, hsequence⟩ := Option.map_eq_some_iff.mp hcommitted
    refine ⟨10, f, hf, fun hsame => ?_⟩
    rw [hsame] at hsequence
    cases hsequence
  · exact (committed_readable_iff leftWorld clearHost leftRecord "boot-1" clearFacts
      .resolveHistoricalRecord leftRecord_loaded allSynced).mpr fun _ _ => rfl

/-- The supervisor had come back and asked the worker to go, when the power failed. -/
def releasingRecord : PersistentRecoveryRecord :=
  { leftRecord with sequence := 4, operationLedger := { runtimeRelease := .intentPersisted 4 } }

def releasingWorld : StartupWorld where
  ledger := { records := [releasingRecord], files := [⟨1, releasingRecord⟩]
              startupQuarantinedSeats := ["seat0"] }

def releasingFinalizing : Finalizing :=
  .begin clearHost releasingWorld releasingRecord "boot-1" clearFacts .resolveHistoricalRecord

theorem releasingRecord_loaded : LoadedRecord releasingWorld.ledger releasingRecord := by
  refine ⟨rfl, fun f hf => ?_, (validateHistoricalRecord_eq_nil _).mpr ?_⟩
  · have hfile : f = ⟨1, releasingRecord⟩ := (Option.some.inj hf).symm
    rw [hfile]
  · have hother : ∀ op, op ≠ .runtimeRelease →
        (releasingRecord.operationLedger.get op).attemptId = none := by
      intro op hop
      cases op <;> first | rfl | exact absurd rfl hop
    refine ⟨by decide, by decide, by decide, fun op => ?_, fun op op' hlt a b ha hb => ?_,
      fun h => absurd h (by decide), fun h => absurd h (by decide), fun h => absurd h (by decide),
      ⟨by decide +kernel, by decide +kernel⟩, fun a ha => absurd ha List.not_mem_nil⟩
    · cases op <;> decide
    · by_cases hop : op = .runtimeRelease
      · -- nothing comes after the runtime release
        subst hop
        cases op' <;> exact absurd hlt (by decide)
      · rw [hother op hop] at ha
        cases ha

/-- Its resolution takes the id after that of the runtime release. -/
theorem late_resolution_regresses :
    planPreviousBootReconciliation releasingRecord clearFacts = .resolveHistoricalRecord ∧
    validateHistoricalRecord releasingRecord = [] ∧
    ∃ f, (releasingFinalizing.after allSynced 10).1.ledger.file "worker-1" = some f ∧
      f.record.operationLedger.recordResolution = .intentPersisted 5 ∧
      f.record.operationLedger.runtimeRelease = .intentPersisted 4 ∧
      validateHistoricalRecord f.record ≠ [] := by
  refine ⟨by decide +kernel, releasingRecord_loaded.noViolation, ?_⟩
  have hcommitted : ((releasingFinalizing.after allSynced 10).1.ledger.file "worker-1").map
      (fun f => (f.record.operationLedger.recordResolution,
        f.record.operationLedger.runtimeRelease)) =
          some (.intentPersisted 5, .intentPersisted 4) := by
    decide +kernel
  obtain ⟨f, hf, hattempts⟩ := Option.map_eq_some_iff.mp hcommitted
  obtain ⟨hresolution, hrelease⟩ := Prod.mk.inj hattempts
  refine ⟨f, hf, hresolution, hrelease, fun hvalid => ?_⟩
  have hread := (validateHistoricalRecord_eq_nil _).mp hvalid
  have hlt : 5 < 4 := by
    refine hread.rise .recordResolution .runtimeRelease (by decide) 5 4 ?_ ?_
    · show f.record.operationLedger.recordResolution.attemptId = some 5
      rw [hresolution]
      rfl
    · show f.record.operationLedger.runtimeRelease.attemptId = some 4
      rw [hrelease]
      rfl
  omega

end Sample

end Niralis
