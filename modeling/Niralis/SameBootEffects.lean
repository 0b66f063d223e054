import Niralis.LedgerOpen
import Niralis.ReadableRuns
import Niralis.StartupRequests

namespace Niralis
open PersistentRecoveryLedger

/-- The two operations whose intent is written without a look at the recorded one. -/
def uncheckedOperation : DurableOperation → Bool
  | .supervisorUnref => true
  | .logindTermination => true
  | _ => false

/-- No intent of an unchecked operation is written over one whose outcome is unknown. -/
def IntentsChecked (id : String) (w : StartupWorld) (request : StartupRequest)
    (answer : StartupAnswer) : Prop :=
  ∀ op attempt r, request = .write id (.operation op (.intentPersisted attempt)) →
    uncheckedOperation op = true → w.ledger.get id = some r →
    (w.perform request answer).1 = true → (r.operationLedger.get op).isUndecided = false

/-- An effect is asked for only if the loaded record has no undecided intent for it. -/
def EffectDecided (r : PersistentRecoveryRecord) (_ : StartupWorld) (request : StartupRequest) :
    Prop :=
  ∀ effect id, request = .effect effect id →
    id = r.lifecycleId ∧ (r.operationLedger.get effect.operation).isUndecided = false

section Requests

def PersistentRecoveryRecord.undecided (r : PersistentRecoveryRecord) (effect : ExternalEffect) :
    Bool :=
  (r.operationLedger.get effect.operation).isUndecided

def finishedState (state : String) : Bool :=
  state = "record_resolved" || state = "cleared_by_boot_boundary"

/-- The request removes the record or counts it as free. -/
def StartupRequest.frees (id : String) : StartupRequest → Bool
  | .removeResolved i => i = id
  | .removeRecordExact i _ => i = id
  | .countFree i => i = id
  | _ => false

def StartupRequest.counts : StartupRequest → Bool
  | .countFree _ => true
  | .countQuarantined _ => true
  | .addToSummary _ _ => true
  | _ => false

end Requests

section Careful
variable (r : PersistentRecoveryRecord) (seen : ExternalEffect → Prop)

/-- The effects with an unknown outcome were all observed to be over. -/
def AllSeen : Prop := ∀ effect, r.undecided effect = true → seen effect

/-- No effect with an unknown outcome is repeated, and the record is finished only when each of them
was seen to be over. -/
structure Careful (w : StartupWorld) (request : StartupRequest) : Prop where
  effect : EffectDecided r w request
  finishes : ∀ write current, request = .write r.lifecycleId write →
    w.ledger.get r.lifecycleId = some current → finishedState (write.target current) = true →
    AllSeen r seen ∧ ∀ effect : ExternalEffect,
      ((write.operationsAfter current.operationLedger).get effect.operation).isUndecided = true →
        r.undecided effect = true
  frees : request.frees r.lifecycleId = true → AllSeen r seen

def CarefulUncounted (w : StartupWorld) (request : StartupRequest) : Prop :=
  Careful r seen w request ∧ request.counts = false

end Careful

/-- Apart from the operations in `touched`, the record in memory is the loaded one, and apart from
those in `underway` none of its effects has become undecided. -/
structure RecordAgrees (r : PersistentRecoveryRecord) (touched underway : List DurableOperation)
    (current : PersistentRecoveryRecord) : Prop where
  unfinished : finishedState current.state = false
  operations : ∀ op, op ∉ touched → current.operationLedger.get op = r.operationLedger.get op
  decided : ∀ effect : ExternalEffect, effect.operation ∉ underway →
    current.undecided effect = true → r.undecided effect = true

def MemoryAgrees (r : PersistentRecoveryRecord) (touched underway : List DurableOperation)
    (w : StartupWorld) : Prop :=
  ∃ current, w.ledger.get r.lifecycleId = some current ∧ RecordAgrees r touched underway current

structure SnapshotAgrees (r : PersistentRecoveryRecord) (touched : List DurableOperation)
    (snapshot : RecoveryStateSnapshot) : Prop where
  lifecycleId : snapshot.record.lifecycleId = r.lifecycleId
  operations : ∀ op, op ∉ touched →
    snapshot.record.operationLedger.get op = r.operationLedger.get op

theorem MemoryAgrees.mono {r : PersistentRecoveryRecord}
    {touched touched' underway underway' : List DurableOperation}
    {w : StartupWorld} (h : MemoryAgrees r touched underway w) (hsub : touched ⊆ touched')
    (hsub' : underway ⊆ underway') : MemoryAgrees r touched' underway' w := by
  obtain ⟨current, hget, hcurrent⟩ := h
  exact ⟨current, hget, hcurrent.unfinished,
    fun op hop => hcurrent.operations op fun hmem => hop (hsub hmem),
    fun effect hop => hcurrent.decided effect fun hmem => hop (hsub' hmem)⟩

theorem SnapshotAgrees.mono {r : PersistentRecoveryRecord}
    {touched touched' : List DurableOperation} {snapshot : RecoveryStateSnapshot}
    (h : SnapshotAgrees r touched snapshot) (hsub : touched ⊆ touched') :
    SnapshotAgrees r touched' snapshot :=
  ⟨h.lifecycleId, fun op hop => h.operations op fun hmem => hop (hsub hmem)⟩

section Programs
variable (r : PersistentRecoveryRecord) (seen : ExternalEffect → Prop) {ε α : Type}

/-- The program is careful about the effects of the loaded record and ends as `post` says. -/
abbrev EffectSat (p : Attempt StartupWorld StartupRequest ε α) (w : StartupWorld)
    (post : α → StartupWorld → Prop) : Prop :=
  p.Sat StartupWorld.perform (IntentsChecked r.lifecycleId) (CarefulUncounted r seen) w post

variable {r seen} {touched underway : List DurableOperation} {w : StartupWorld}

theorem effectDecided_of_quiet {request : StartupRequest} (h : request.isEffect = false) :
    EffectDecided r w request := by
  rintro e id rfl
  cases h

theorem careful_inspect : CarefulUncounted r seen w .inspect :=
  ⟨⟨effectDecided_of_quiet rfl, fun _ _ h => StartupRequest.noConfusion h, fun h => by cases h⟩, rfl⟩

theorem careful_write {id : String} {write : RecordWrite}
    (h : ∀ current, w.ledger.get r.lifecycleId = some current →
      finishedState (write.target current) = false) :
    CarefulUncounted r seen w (.write id write) := by
  refine ⟨⟨effectDecided_of_quiet rfl, ?_, fun hfrees => by cases hfrees⟩, rfl⟩
  rintro _ current ⟨⟩ hget hfinished
  rw [h current hget] at hfinished
  cases hfinished

/-- The writes of a reconciliation leave the state or start the record anew. -/
def KeepsOpen (write : RecordWrite) : Prop :=
  ∀ current, write.target current = current.state ∨ write.target current = "started"

theorem careful_keepsOpen {write : RecordWrite} (hopen : KeepsOpen write)
    (hm : MemoryAgrees r touched underway w) :
    CarefulUncounted r seen w (.write r.lifecycleId write) := by
  obtain ⟨current, hget, hcurrent⟩ := hm
  refine careful_write fun current' hget' => ?_
  cases hget.symm.trans hget'
  rcases hopen current with hstate | hstate
  · rw [hstate]
    exact hcurrent.unfinished
  · rw [hstate]
    decide

theorem get_of_write {id : String} {write : RecordWrite} {answer : StartupAnswer}
    (h : (w.perform (.write id write) answer).1 = true) :
    ∃ current next, w.ledger.get id = some current ∧
      write.apply current answer.write.bootId = some next ∧
      (w.perform (.write id write) answer).2.ledger.get id = some next := by
  rcases write_cases w.ledger id write answer.write with hw | ⟨r, next, hget, happly, -, -, hw⟩
  · have : (w.ledger.write id write answer.write).1 = true := h
    rw [hw] at this
    cases this
  · refine ⟨r, next, hget, happly, ?_⟩
    have hid : id = next.lifecycleId := by
      rw [(writeResult_of_apply happly).lifecycleId, lifecycleId_of_get hget]
    have hok : (w.ledger.write id write answer.write).1 = true := h
    show (w.ledger.write id write answer.write).2.get id = some next
    rw [hw] at hok ⊢
    split at hok
    next hc => rw [if_pos hc, get_putRecord, if_pos hid]
    next hc => cases hok

theorem memoryAgrees_write {op : DurableOperation} {s : DurableOperationState} {write : RecordWrite}
    {underway' : List DurableOperation} {answer : StartupAnswer}
    (hchange : write.operationChange = some (op, s)) (hopen : KeepsOpen write)
    (hsub : underway ⊆ op :: underway')
    (hs : ∀ effect : ExternalEffect, effect.operation = op →
      s.isUndecided = false ∨ op ∈ underway')
    (hm : MemoryAgrees r touched underway w)
    (h : (w.perform (.write r.lifecycleId write) answer).1 = true) :
    MemoryAgrees r (op :: touched) underway'
      (w.perform (.write r.lifecycleId write) answer).2 := by
  obtain ⟨current, hget, hcurrent⟩ := hm
  obtain ⟨current', next, hget', happly, hnext⟩ := get_of_write h
  cases hget.symm.trans hget'
  have hwrite := writeResult_of_apply happly
  have hafter : ∀ op', next.operationLedger.get op' =
      if op' = op then s else current.operationLedger.get op' := fun op' => by
    rw [hwrite.operations]
    unfold RecordWrite.operationsAfter
    rw [hchange]
    exact DurableOperationLedger.get_set _ _ _ _
  refine ⟨next, hnext, ?_, fun op' hop' => ?_, fun effect hnot hundecided => ?_⟩
  · rw [hwrite.state]
    rcases hopen current with hsame | hstarted
    · rw [hsame]
      exact hcurrent.unfinished
    · rw [hstarted]
      decide
  · have ⟨hne, hkept⟩ : op' ≠ op ∧ op' ∉ touched := by simpa using hop'
    rw [hafter, if_neg hne]
    exact hcurrent.operations op' hkept
  · unfold PersistentRecoveryRecord.undecided at hundecided
    rw [hafter] at hundecided
    by_cases heq : effect.operation = op
    · rw [if_pos heq] at hundecided
      rcases hs effect heq with hdecided | hmem
      · rw [hdecided] at hundecided
        cases hundecided
      · exact absurd (heq ▸ hmem) hnot
    · rw [if_neg heq] at hundecided
      refine hcurrent.decided effect (fun hmem => ?_) hundecided
      rcases List.mem_cons.mp (hsub hmem) with hop | hmem'
      · exact heq hop
      · exact hnot hmem'

theorem sat_persist {op : DurableOperation} {s : DurableOperationState} {write : RecordWrite}
    {underway' : List DurableOperation} {e : ε} (hchange : write.operationChange = some (op, s))
    (hopen : KeepsOpen write) (hsub : underway ⊆ op :: underway')
    (hs : ∀ effect : ExternalEffect, effect.operation = op →
      s.isUndecided = false ∨ op ∈ underway')
    (hm : MemoryAgrees r touched underway w) :
    EffectSat r seen (persist r.lifecycleId write e) w
      fun _ w' => MemoryAgrees r (op :: touched) underway' w' :=
  Attempt.sat_perform (careful_keepsOpen hopen hm)
    fun _ _ h => memoryAgrees_write hchange hopen hsub hs hm h

theorem sat_persist_settled {op : DurableOperation} {s : DurableOperationState} {e : ε}
    (hop : op ∈ touched) (hs : s.isUndecided = false) (hm : MemoryAgrees r touched (op :: underway) w) :
    EffectSat r seen (persist r.lifecycleId (.operation op s) e) w
      fun _ w' => MemoryAgrees r touched underway w' :=
  (sat_persist rfl (fun _ => Or.inl rfl) (List.Subset.refl _) (fun _ _ => Or.inl hs) hm).mono
    fun _ _ h => h.mono (List.cons_subset.mpr ⟨hop, List.Subset.refl touched⟩)
      (List.Subset.refl underway)

theorem sat_readRecord {e : ε} (hm : MemoryAgrees r touched underway w) :
    EffectSat r seen (readRecord r.lifecycleId e) w fun current w' =>
      w' = w ∧ current.lifecycleId = r.lifecycleId ∧
        ∀ op, op ∉ touched → current.operationLedger.get op = r.operationLedger.get op := by
  obtain ⟨current, hget, hcurrent⟩ := hm
  refine ⟨careful_inspect, fun x _ => ?_⟩
  show (Attempt.okOr (w.ledger.get r.lifecycleId) e).Sat _ _ _ w _
  rw [hget]
  exact ⟨rfl, lifecycleId_of_get hget, hcurrent.operations⟩

theorem sat_freshSnapshot {boot id : String} (hid : id = r.lifecycleId)
    (hm : MemoryAgrees r touched underway w) :
    EffectSat r seen (do
        let record ← readRecord id ()
        Attempt.okOr (RecoveryStateSnapshot.fromRecord boot record) ()) w
      fun snapshot w' => MemoryAgrees r touched underway w' ∧
        SnapshotAgrees r touched snapshot := by
  subst hid
  refine (sat_readRecord hm).bind fun current w' hcurrent => ?_
  obtain ⟨rfl, hid, hops⟩ := hcurrent
  refine (Attempt.sat_okOr _ _ _).mono fun snapshot w' hs => ?_
  obtain ⟨rfl, hsome⟩ := hs
  unfold RecoveryStateSnapshot.fromRecord at hsome
  split at hsome
  · cases hsome
    exact ⟨hm, hid, hops⟩
  · cases hsome

theorem sat_refreshRecoverySnapshot {snapshot : RecoveryStateSnapshot}
    (hid : snapshot.record.lifecycleId = r.lifecycleId) (hm : MemoryAgrees r touched underway w) :
    EffectSat r seen (refreshRecoverySnapshot snapshot) w
      fun next w' => MemoryAgrees r touched underway w' ∧ SnapshotAgrees r touched next :=
  Attempt.Sat.require_bind fun _ => sat_freshSnapshot hid hm

theorem sat_persistRecoveryIntent {snapshot : RecoveryStateSnapshot} {op : DurableOperation}
    {attempt : Nat} (hid : snapshot.record.lifecycleId = r.lifecycleId)
    (hm : MemoryAgrees r touched underway w) :
    EffectSat r seen (persistRecoveryIntentFromSnapshot snapshot op attempt) w fun next w' =>
      MemoryAgrees r (op :: touched) (op :: underway) w' ∧ SnapshotAgrees r (op :: touched) next ∧
        (uncheckedOperation op = true → op ∉ touched →
          (r.operationLedger.get op).isUndecided = false) := by
  refine Attempt.Sat.require_bind fun _ => ?_
  rw [hid]
  have hopen : KeepsOpen (.operation op (.intentPersisted attempt)) := fun _ => Or.inl rfl
  have hwrite : EffectSat r seen (persist r.lifecycleId
      (.operation op (.intentPersisted attempt)) ()) w fun _ w' =>
      MemoryAgrees r (op :: touched) (op :: underway) w' ∧ (uncheckedOperation op = true →
        op ∉ touched → (r.operationLedger.get op).isUndecided = false) := by
    refine Attempt.sat_perform (careful_keepsOpen hopen hm) fun x hx h => ⟨?_, fun hun hnot => ?_⟩
    · refine memoryAgrees_write rfl hopen ?_ (fun _ _ => Or.inr List.mem_cons_self) hm h
      exact fun x hmem => List.mem_cons_of_mem _ (List.mem_cons_of_mem _ hmem)
    · obtain ⟨current, hget, hcurrent⟩ := hm
      rw [← hcurrent.operations op hnot]
      exact hx op attempt current rfl hun hget h
  refine hwrite.bind fun _ w' hw' => ?_
  exact (sat_freshSnapshot rfl hw'.1).mono fun next w'' hn => ⟨hn.1, hn.2, hw'.2⟩

theorem sat_issue_bind {effect : ExternalEffect} {id : String} {f : Unit → Attempt StartupWorld
    StartupRequest ε α} {post : α → StartupWorld → Prop} (hid : id = r.lifecycleId)
    (hdecided : (r.operationLedger.get effect.operation).isUndecided = false)
    (hm : MemoryAgrees r touched underway w)
    (hf : ∀ w', MemoryAgrees r touched underway w' → EffectSat r seen (f ()) w' post) :
    EffectSat r seen (issue effect id >>= f) w post := by
  refine ⟨⟨⟨fun e id' h => ?_, fun _ _ h => StartupRequest.noConfusion h, fun h => by cases h⟩, rfl⟩,
    fun x _ => hf _ hm⟩
  cases h
  exact ⟨hid, hdecided⟩

variable {host : SameBootHost}

/-- Past the payload the unref intent is written whatever the record says; that no undecided one
is overwritten is what the condition on the run gives. -/
theorem sat_releasePin {snapshot : RecoveryStateSnapshot} {pin : RecoveryPinnedInvocationUnit}
    {proof : RecoveryBoundaryEmptyProof}
    (hs : SnapshotAgrees r [.payloadKill, .runtimeRelease] snapshot)
    (hm : MemoryAgrees r [.payloadKill, .runtimeRelease] [] w) :
    EffectSat r seen (releasePin host snapshot pin proof) w fun result w' =>
      MemoryAgrees r [.supervisorUnref, .payloadKill, .runtimeRelease] [] w' ∧
        SnapshotAgrees r [.supervisorUnref, .payloadKill, .runtimeRelease] result.1 ∧
        r.undecided .supervisorUnref = false := by
  have hintent : EffectSat r seen (persistRecoveryUnrefIntent snapshot proof
      (saturatingAdd snapshot.record.sequence 1)) w fun result w' =>
      MemoryAgrees r [.supervisorUnref, .payloadKill, .runtimeRelease] [.supervisorUnref] w' ∧
        SnapshotAgrees r [.supervisorUnref, .payloadKill, .runtimeRelease] result.1 ∧
        r.operationLedger.supervisorUnref.isUndecided = false := by
    refine Attempt.Sat.require_bind fun _ => ?_
    refine (sat_persistRecoveryIntent hs.lifecycleId hm).bind fun next w₁ h₁ => ?_
    exact ⟨h₁.1, h₁.2.1, h₁.2.2 rfl (by decide)⟩
  refine hintent.mapErr.bind ?_
  rintro ⟨next, authorized⟩ w₁ ⟨hm₁, hs₁, hdecided⟩
  refine Attempt.Sat.okOr_bind fun pin₁ _ => ?_
  have hrelease : EffectSat r seen (releaseRecovery host pin₁ next authorized) w₁
      fun _ w' => MemoryAgrees r [.supervisorUnref, .payloadKill, .runtimeRelease]
        [.supervisorUnref] w' := by
    refine Attempt.Sat.require_bind fun _ => Attempt.Sat.require_bind fun _ => ?_
    split
    · exact Attempt.sat_fail _ _ _
    · refine sat_issue_bind hs₁.lifecycleId hdecided hm₁ fun w' hm' => ?_
      exact (Attempt.sat_check _ _).mono fun _ _ h => h.1 ▸ hm'
  refine hrelease.bind fun _ w₂ hm₂ => ?_
  have hid : next.record.lifecycleId = r.lifecycleId := hs₁.lifecycleId
  rw [hid]
  refine (sat_persist_settled List.mem_cons_self rfl hm₂).bind fun _ w₃ hm₃ => ?_
  refine (sat_refreshRecoverySnapshot hid hm₃).mapErr.bind fun snapshot₄ w₄ h₄ => ?_
  exact ⟨h₄.1, h₄.2, hdecided⟩

/-- Either every effect with an unknown outcome was seen to be over, or the record has been counted
as quarantined. -/
def Settled (r : PersistentRecoveryRecord) (seen : ExternalEffect → Prop) (w : StartupWorld) :
    Prop :=
  AllSeen r seen ∨ w.summary = ⟨0, 1⟩

end Programs
end Niralis
