import Niralis.ReadableRuns
import Niralis.SameBootRecovery

namespace Niralis
open PersistentRecoveryLedger

def PersistentRecoveryRecord.snapshot (r : PersistentRecoveryRecord) : RecoveryStateSnapshot :=
  ⟨r, r.createdBootId⟩

/-- The pin of the record's unit, with the control group that systemd reports for it. -/
def PersistentRecoveryRecord.pinOn (r : PersistentRecoveryRecord) (group : String) :
    RecoveryPinnedInvocationUnit :=
  ⟨r.lifecycleId, r.sequence, r.invocationId.getD "", group⟩

/-- The record `k` writes later, with the outcome of the operations in `done`. -/
structure Advanced (r : PersistentRecoveryRecord) (k : Nat) (done : List DurableOperation)
    (current : PersistentRecoveryRecord) : Prop where
  record : current = r.advanced k current.operationLedger current.lastUpdatedBootId
  kept : ∀ op, op ∉ done → current.operationLedger.get op = r.operationLedger.get op
  recent : ∀ op ∈ done, ∀ a, (current.operationLedger.get op).attemptId = some a →
    a ≤ r.sequence + k

section Progress
variable {r current : PersistentRecoveryRecord} {k : Nat} {done : List DurableOperation}
  {op : DurableOperation} {a : Nat}

theorem Advanced.refl (r : PersistentRecoveryRecord) : Advanced r 0 [] r where
  record := rfl
  kept := fun _ _ => rfl
  recent := nofun

theorem Advanced.sequence (h : Advanced r k done current) :
    current.sequence = r.sequence + k := by
  rw [h.record]
  rfl

theorem Advanced.takes (h : Advanced r k done current) (j : Nat) :
    current.Takes j ↔ r.Takes (k + j) := by
  rw [h.record]
  exact PersistentRecoveryRecord.advanced_takes

theorem saturatingAdd_of_lt {n j : Nat} (h : n + j < u64Bound) : saturatingAdd n j = n + j := by
  unfold saturatingAdd
  omega

theorem lt_saturatingAdd {n j : Nat} (h : n + 1 < u64Bound) (hj : 0 < j) :
    n < saturatingAdd n j := by
  unfold saturatingAdd
  omega

theorem saturatingAdd_le (n j : Nat) : saturatingAdd n j ≤ n + j := Nat.min_le_left _ _

/-- An attempt id taken from the sequence is new, unless the sequence has no room for its write. -/
theorem Advanced.attempt_new {j : Nat} (h : Advanced r k done current) (hj : 0 < j) :
    r.sequence + k < saturatingAdd current.sequence j ∨ ¬ r.Takes (k + 1) := by
  by_cases htakes : r.Takes (k + 1)
  · have hroom := ((h.takes 1).mpr htakes).1
    exact Or.inl (h.sequence ▸ lt_saturatingAdd hroom hj)
  · exact Or.inr htakes

/-- An id above everything recorded by now fits among what was recorded at the start. -/
theorem Advanced.idFits (h : Advanced r k done current)
    (hbefore : ∀ op' ∈ done, validationOrder.idxOf op' < validationOrder.idxOf op)
    (ha : r.sequence + k < a) :
    IdFits current.operationLedger [] op a ↔ IdFits r.operationLedger done op a := by
  constructor
  · intro hfits op' hnot b hb
    rw [← h.kept op' hnot] at hb
    exact hfits op' List.not_mem_nil b hb
  · intro hfits op' _ b hb
    by_cases hdone : op' ∈ done
    · have hb' := h.recent op' hdone b hb
      exact ⟨fun _ => by omega, fun hafter => absurd hafter (Nat.lt_asymm (hbefore op' hdone))⟩
    · rw [h.kept op' hdone] at hb
      exact hfits op' hdone b hb

theorem Advanced.attempt {s t : DurableOperationState} {boot boot' : String}
    (h : Advanced r k done current) (ht : t.attemptId = some a) (ha : a ≤ r.sequence + k + 2) :
    Advanced r (k + 2) (op :: done) ((current.advanced 1 (current.operationLedger.set op s)
      boot).advanced 1 ((current.operationLedger.set op s).set op t) boot') where
  record := by
    rw [h.record]
    rfl
  kept := fun op' hnot => by
    have ⟨hne, hdone⟩ : op' ≠ op ∧ op' ∉ done := by simpa using hnot
    show (((current.operationLedger.set op s).set op t).get op') = _
    rw [DurableOperationLedger.get_set, if_neg hne, DurableOperationLedger.get_set, if_neg hne]
    exact h.kept op' hdone
  recent := fun op' hmem b hb => by
    have hb' : (((current.operationLedger.set op s).set op t).get op').attemptId = some b := hb
    rw [DurableOperationLedger.get_set] at hb'
    split at hb'
    · cases ht.symm.trans hb'
      omega
    next hne =>
      rw [DurableOperationLedger.get_set, if_neg hne] at hb'
      have hdone : op' ∈ done := (List.mem_cons.mp hmem).resolve_left hne
      have := h.recent op' hdone b hb'
      omega

end Progress

section Stages
variable {id : String} {r current : PersistentRecoveryRecord} {w : StartupWorld} {k : Nat}
  {done : List DurableOperation} {op : DurableOperation} {a : Nat} {ε α : Type} {e : ε}
  {host : SameBootHost}

theorem readableSat_newSnapshot_iff {result : Except Unit RecoveryStateSnapshot → StartupWorld → Prop}
    (hget : w.ledger.get id = some r) (hread : ReadableRecord r) :
    ReadableSat id (do
        let record ← readRecord id ()
        Attempt.okOr (RecoveryStateSnapshot.fromRecord r.createdBootId record) ()
          : IoResult RecoveryStateSnapshot) w result ↔ result (.ok r.snapshot) w := by
  rw [readableSat_readRecord_iff hget]
  have hsome : RecoveryStateSnapshot.fromRecord r.createdBootId r = some r.snapshot :=
    if_pos hread.createdBoot
  rw [hsome]
  exact Iff.rfl

theorem snapshot_validates (r : PersistentRecoveryRecord) : r.snapshot.validates = true :=
  decide_eq_true rfl

theorem readableSat_refresh_iff {result : Except Unit RecoveryStateSnapshot → StartupWorld → Prop}
    {previous : PersistentRecoveryRecord} (hget : w.ledger.get id = some r)
    (hread : ReadableRecord r) (hid : previous.lifecycleId = id)
    (hboot : previous.createdBootId = r.createdBootId) :
    ReadableSat id (refreshRecoverySnapshot previous.snapshot) w result ↔
      result (.ok r.snapshot) w := by
  refine (Attempt.sat_require_of_true (snapshot_validates previous)).trans ?_
  have hprogram : (do
      let record ← readRecord previous.snapshot.record.lifecycleId ()
      Attempt.okOr (RecoveryStateSnapshot.fromRecord previous.snapshot.currentBoot record) ()
        : IoResult RecoveryStateSnapshot) = (do
      let record ← readRecord id ()
      Attempt.okOr (RecoveryStateSnapshot.fromRecord r.createdBootId record) ()) := by
    rw [show previous.snapshot.record.lifecycleId = id from hid,
      show previous.snapshot.currentBoot = r.createdBootId from hboot]
  rw [hprogram]
  exact readableSat_newSnapshot_iff hget hread

theorem readableSat_persistIntent_iff {result : Except Unit RecoveryStateSnapshot → StartupWorld → Prop}
    (rest : Prop) (h : OpenRecord id current w) (hadv : Advanced r k done current)
    (hresult : FailsSafely id result) (ha : r.sequence + k < a ∨ ¬ r.Takes (k + 1))
    (hbefore : ∀ op' ∈ done, validationOrder.idxOf op' < validationOrder.idxOf op)
    (hvt : op = .vtDisallocate → current.operationLedger.vtDisallocate = .notStarted)
    (hdone : ∀ boot w', OpenRecord id (current.advanced 1
        (current.operationLedger.set op (.intentPersisted a)) boot) w' →
      (result (.ok (current.advanced 1
        (current.operationLedger.set op (.intentPersisted a)) boot).snapshot) w' ↔ rest)) :
    ReadableSat id (persistRecoveryIntentFromSnapshot current.snapshot op a) w result ↔
      (r.Takes (k + 1) → IdFits r.operationLedger done op a ∧ rest) := by
  obtain rfl := h.lifecycleId_eq
  unfold persistRecoveryIntentFromSnapshot
  rw [readableSat_require_iff h hresult, forall_prop_of_true (snapshot_validates current),
    readableSat_bind_iff]
  have hintent : r.Takes (k + 1) → (SafeWrite current (.operation op (.intentPersisted a)) ↔
      IdFits r.operationLedger done op a) := fun htakes => by
    have ha' := ha.resolve_right (not_not_intro htakes)
    rw [safeWrite_intent_iff h.readable (by omega) (fun _ => h.unresolved) hvt]
    exact hadv.idFits hbefore ha'
  refine (readableSat_operation_iff rest h (failsSafely_following hresult)
    fun boot w' hw' => ?_).trans ?_
  · exact (readableSat_newSnapshot_iff hw'.memory hw'.readable).trans (hdone boot w' hw')
  · rw [hadv.takes 1]
    exact forall_congr' fun htakes => and_congr_left fun _ => hintent htakes

/-- The outcome of an intent goes through, if it is not that of the resolution or of the runtime
release. -/
theorem readableSat_outcome_iff {result : Except ε Unit → StartupWorld → Prop}
    {t : DurableOperationState} {boot : String} (rest : Prop) (hadv : Advanced r k done current)
    (h : OpenRecord id (current.advanced 1
      (current.operationLedger.set op (.intentPersisted a)) boot) w)
    (hresult : FailsSafely id result) (hid : t.attemptId = some a) (hknown : t.hasResult = true)
    (hop : op ≠ .runtimeRelease ∧ op ≠ .recordResolution)
    (hdone : ∀ boot' w', OpenRecord id ((current.advanced 1
        (current.operationLedger.set op (.intentPersisted a)) boot).advanced 1
        ((current.operationLedger.set op (.intentPersisted a)).set op t) boot') w' →
      (result (.ok ()) w' ↔ rest)) :
    ReadableSat id (persist id (.operation op t) e) w result ↔ (r.Takes (k + 2) → rest) := by
  refine (readableSat_operation_iff rest h hresult hdone).trans ?_
  rw [PersistentRecoveryRecord.advanced_takes, hadv.takes (1 + 1)]
  refine forall_congr' fun _ => and_iff_right (safeWrite_result h.readable ?_ hknown
    (resolutionAgrees_set h.readable ?_))
  · show ((current.operationLedger.set op (.intentPersisted a)).get op).attemptId = t.attemptId
    rw [DurableOperationLedger.get_set, if_pos rfl, hid]
    rfl
  · rintro (heq | heq)
    · exact absurd heq hop.1
    · exact absurd heq hop.2

/-- The operations come before the resolution in the validator's order. -/
abbrev BeforeResolution (done : List DurableOperation) : Prop :=
  ∀ op ∈ done, validationOrder.idxOf op < validationOrder.idxOf DurableOperation.recordResolution

/-- The record's resolution, `k` writes after the start: its id has to fit, and the second of its
two writes must not come. -/
def ResolutionSound (r : PersistentRecoveryRecord) (k : Nat) (done : List DurableOperation) :
    Prop :=
  r.operationLedger.recordResolution = .notStarted → r.Takes (k + 1) →
    IdFits r.operationLedger done .recordResolution (r.sequence + k + 1) ∧ ¬ r.Takes (k + 2)

theorem readableSat_confirmResolution_iff {result : Except Unit Unit → StartupWorld → Prop}
    (h : OpenRecord id current w) (hadv : Advanced r k done current)
    (hresult : FailsSafely id result)
    (hbefore : BeforeResolution done) :
    ReadableSat id (confirmRecordResolution id (saturatingAdd current.sequence 1)
      current.operationLedger.recordResolution) w result ↔ ResolutionSound r k done := by
  have hkept : current.operationLedger.recordResolution = r.operationLedger.recordResolution :=
    hadv.kept .recordResolution fun hmem => absurd (hbefore _ hmem) (Nat.lt_irrefl _)
  unfold ResolutionSound
  rw [← hkept]
  cases hstate : current.operationLedger.recordResolution with
  | confirmed b =>
    -- a readable record that is not resolved has no confirmed resolution
    have hconfirmed : current.operationLedger.recordResolution.isConfirmed = true := by
      rw [hstate]
      rfl
    exact absurd (h.readable.resolution hconfirmed) h.unresolved
  -- an operation that was begun before is not begun again: the record goes to the quarantine
  | intentPersisted b => exact ⟨fun _ hnone => (by cases hnone), fun _ => hresult _ _ _ h⟩
  | failed b c => exact ⟨fun _ hnone => (by cases hnone), fun _ => hresult _ _ _ h⟩
  | indeterminate b c => exact ⟨fun _ hnone => (by cases hnone), fun _ => hresult _ _ _ h⟩
  | notStarted =>
    rw [forall_prop_of_true rfl]
    refine readableSat_bind_iff.trans ((readableSat_operation_iff (¬ r.Takes (k + 2)) h
      (failsSafely_following hresult) fun boot w' hw' => ?_).trans ?_)
    · -- the confirmation comes one write before the state
      refine (readableSat_operation_iff False hw' hresult fun boot' w'' hw'' => ?_).trans ?_
      · exact absurd (hw''.readable.resolution rfl) hw''.unresolved
      · rw [PersistentRecoveryRecord.advanced_takes, hadv.takes (1 + 1), and_false]
    · rw [hadv.takes 1]
      refine forall_congr' fun htakes => and_congr_left fun _ => ?_
      have hroom : current.sequence + 1 < u64Bound := ((hadv.takes 1).mpr htakes).1
      have hid : saturatingAdd current.sequence 1 = r.sequence + k + 1 := by
        rw [saturatingAdd_of_lt hroom, hadv.sequence]
      rw [hid, safeWrite_intent_iff h.readable (by omega) (fun _ => h.unresolved)
        (fun hop => (by cases hop))]
      exact hadv.idFits hbefore (by omega)

theorem readableSat_markRecordResolved_iff
    {result : Except Unit RecoveryStateSnapshot → StartupWorld → Prop}
    (h : OpenRecord id current w) (hadv : Advanced r k done current)
    (hresult : FailsSafely id result)
    (hbefore : BeforeResolution done) :
    ReadableSat id (markRecordResolvedTyped current.snapshot) w result ↔
      ResolutionSound r k done := by
  obtain rfl := h.lifecycleId_eq
  unfold markRecordResolvedTyped
  rw [readableSat_require_iff h hresult, forall_prop_of_true (snapshot_validates current)]
  refine (readableSat_readRecord_iff h.memory).trans ?_
  refine (readableSat_require_iff h hresult).trans ?_
  rw [forall_prop_of_true (decide_eq_true ⟨rfl, rfl, rfl⟩)]
  exact readableSat_bind_iff.trans
    (readableSat_confirmResolution_iff h hadv (failsSafely_following hresult) hbefore)

/-- A record that has not been released yet is resolved first. -/
def FinalizationSound (r : PersistentRecoveryRecord) (k : Nat) (done : List DurableOperation) :
    Prop := r.operationLedger.runtimeRelease = .notStarted → ResolutionSound r k done

/-- After the reconciliation: the finalization, or the quarantine that follows a failure. -/
def finalizeStartup (id : String) : Except StartupRecoveryFailure Unit → StartupWorld → Prop
  | .ok _, w => ReadableSat id (finalizeOrQuarantine id) w fun _ _ => True
  | .error reason, w => ReadableSat id (quarantineStartupRecord id reason) w fun _ _ => True

theorem failsSafely_finalizeStartup : FailsSafely id (finalizeStartup id) :=
  fun _ _ _ h => readableSat_quarantine h.memory h.readable h.unresolved

/-- What the finalization of a record ends in. -/
def finalizeResolved (id : String) : Except Unit Unit → StartupWorld → Prop
  | .ok _, w => ReadableSat id (.ask (.countFree id) fun _ _ => .done ()) w fun _ _ => True
  | .error _, w =>
    ReadableSat id (quarantineStartupRecord id .unsupportedRehydration) w fun _ _ => True

theorem readableSat_finalizeStartupRecord_iff :
    ReadableSat id (finalizeOrQuarantine id) w (fun _ _ => True) ↔
      ReadableSat id (finalizeStartupRecord id) w (finalizeResolved id) := by
  refine Program.sat_bind_iff.trans ⟨fun h => h.mono ?_, fun h => h.mono ?_⟩
  · rintro (e | a) w' hr
    · exact hr
    · exact hr
  · rintro (e | a) w' hr
    · exact hr
    · exact hr

theorem failsSafely_finalizeResolved : FailsSafely id (finalizeResolved id) :=
  fun _ _ _ h => readableSat_quarantine h.memory h.readable h.unresolved

theorem readableSat_finalizeOrQuarantine_iff (h : OpenRecord id current w)
    (hadv : Advanced r k done current)
    (hbefore : BeforeResolution done) :
    ReadableSat id (finalizeOrQuarantine id) w (fun _ _ => True) ↔ FinalizationSound r k done := by
  have hkept : current.operationLedger.runtimeRelease = r.operationLedger.runtimeRelease :=
    hadv.kept .runtimeRelease fun hmem => absurd (hbefore _ hmem) (by decide)
  -- so the check before the resolution is whether the release was begun at all
  have hnot : current.operationLedger.runtimeRelease.isConfirmed = false :=
    Bool.eq_false_iff.mpr fun hconfirmed => h.unresolved (h.readable.release hconfirmed)
  have hresult : FailsSafely id (finalizeResolved id) := failsSafely_finalizeResolved
  refine readableSat_finalizeStartupRecord_iff.trans ((readableSat_readRecord_iff h.memory).trans ?_)
  refine (readableSat_require_iff h hresult).trans ?_
  unfold FinalizationSound
  rw [hnot, ← hkept, Bool.or_false, decide_eq_true_eq]
  refine forall_congr' fun _ => ?_
  have hsome : RecoveryStateSnapshot.fromRecord current.createdBootId current =
      some current.snapshot := if_pos h.readable.createdBoot
  rw [hsome]
  refine (readableSat_okOr_iff h hresult).trans ?_
  simp only [Option.some.injEq, forall_eq']
  refine readableSat_bind_iff.trans ?_
  unfold resolveForFinalization
  rw [if_neg (show current.snapshot.record.state ≠ "record_resolved" from h.unresolved)]
  exact readableSat_markRecordResolved_iff h hadv (failsSafely_following hresult) hbefore

theorem readableSat_issue_iff {result : Except ε α → StartupWorld → Prop} {effect : ExternalEffect}
    {i : String} {f : Unit → Attempt StartupWorld StartupRequest ε α} (rest : Prop)
    (h : OpenRecord id r w)
    (hf : ∀ w', OpenRecord id r w' → (ReadableSat id (f ()) w' result ↔ rest)) :
    ReadableSat id (issue effect i >>= f : Attempt StartupWorld StartupRequest ε α) w result ↔
      rest := by
  have hafter : ∀ x, OpenRecord id r (w.perform (.effect effect i) x).2 :=
    fun _ => ⟨h.memory, h.readable, h.valid, h.unresolved⟩
  have hask : ∀ write, StartupRequest.effect effect i ≠ .write id write :=
    fun _ hask => StartupRequest.noConfusion hask
  refine (readableSat_ask_iff hask).trans ?_
  constructor
  · intro hall
    have x : StartupAnswer := { write := ⟨none, .synced⟩ }
    exact (hf _ (hafter x)).mp (hall x)
  · exact fun hrest x => (hf _ (hafter x)).mpr hrest

theorem readableSat_checked_iff {result : Except ε α → StartupWorld → Prop} {ε' β : Type}
    {answer : Except ε' β} {g : ε' → ε} {f : β → Attempt StartupWorld StartupRequest ε α}
    (h : OpenRecord id r w) (hresult : FailsSafely id result) :
    ReadableSat id (.check (answer.mapError g) >>= f : Attempt StartupWorld StartupRequest ε α) w
      result ↔ ∀ a, answer = .ok a → ReadableSat id (f a) w result := by
  rw [readableSat_check_iff h hresult]
  cases answer with
  | ok a =>
    constructor
    · rintro hall _ ⟨⟩
      exact hall a rfl
    · rintro hall _ ⟨⟩
      exact hall a rfl
  | error e => exact ⟨fun _ a hok => (by cases hok), fun _ a hok => (by cases hok)⟩

section Worker

def SameBootHost.workerExits (host : SameBootHost) : Bool :=
  match host.workerAfterSigterm with
  | .originalGone => true
  | .originalStillAlive => host.exitsOnSigkill
  | .pidReused => false
  | .indeterminate => false

/-- No release is confirmed when the worker obeys a signal. -/
def SignalSound (host : SameBootHost) (r : PersistentRecoveryRecord) (k : Nat) : Prop :=
  if host.exitsOnSigterm then ¬ r.Takes (k + 1) else host.workerExits = true → ¬ r.HasRoom (k + 2)

/-- A worker that is still alive: its runtime release is never confirmed. -/
def WorkerSound (host : SameBootHost) (r : PersistentRecoveryRecord) : Prop :=
  match r.operationLedger.runtimeRelease with
  | .notStarted => r.Takes 1 →
    IdFits r.operationLedger [] .runtimeRelease (r.sequence + 1) ∧ SignalSound host r 1
  | .intentPersisted _ => SignalSound host r 0
  | .indeterminate _ _ => host.workerExits = true → ¬ r.Takes 1
  | .confirmed _ => True
  | .failed _ _ => True

variable {result : Except StartupRecoveryFailure Unit → StartupWorld → Prop}

theorem readableSat_confirmRuntimeRelease_iff (hid : r.lifecycleId = id)
    (h : OpenRecord id current w) (hresult : FailsSafely id result) :
    ReadableSat id (confirmRuntimeRelease r a) w result ↔ ¬ current.Takes 1 := by
  obtain rfl := hid
  -- a release is confirmed in resolved records only, and this one is not
  refine (readableSat_operation_iff False h hresult fun boot w' hw' => ?_).trans ?_
  · exact absurd (hw'.readable.release rfl) hw'.unresolved
  · rw [and_false]

theorem readableSat_forceWorkerExit_iff (hid : r.lifecycleId = id)
    (h : OpenRecord id current w) (hresult : FailsSafely id result) :
    ReadableSat id (forceWorkerExit r host a) w result ↔
      (host.workerExits = true → ¬ current.Takes 1) := by
  unfold forceWorkerExit SameBootHost.workerExits
  cases host.workerAfterSigterm with
  | originalGone =>
    rw [forall_prop_of_true rfl]
    exact readableSat_confirmRuntimeRelease_iff hid h hresult
  | originalStillAlive =>
    refine (readableSat_require_iff h hresult).trans (forall_congr' fun _ => ?_)
    exact readableSat_confirmRuntimeRelease_iff hid h hresult
  | pidReused => exact ⟨fun _ hexits => (by cases hexits), fun _ => hresult _ _ _ h⟩
  | indeterminate => exact ⟨fun _ hexits => (by cases hexits), fun _ => hresult _ _ _ h⟩

theorem started_reaches_iff {s : DurableOperationState} {next : PersistentRecoveryRecord}
    (hvalid : validateRecord current = true) :
    (RecordWrite.transitionWithOperation "started" .runtimeRelease s).Reaches current next ↔
      current.HasRoom 1 ∧ ∃ boot, bootIdentityValid boot = true ∧
        next = { current.advanced 1 (current.operationLedger.set .runtimeRelease s) boot with
          state := "started" } := by
  have happly : ∀ boot,
      (RecordWrite.transitionWithOperation "started" .runtimeRelease s).apply current boot =
        { current with operationLedger := current.operationLedger.set .runtimeRelease s }.transition
          "started" boot := fun boot => by
    simp only [RecordWrite.apply, RecordWrite.edit, RecordWrite.target, or_true, if_true,
      Option.bind_some]
  constructor
  · rintro ⟨boot, hnext, hvalidNext⟩
    rw [happly, transition_iff] at hnext
    obtain ⟨-, hroom, _, ⟨⟩, rfl⟩ := hnext
    exact ⟨hroom, boot, lastUpdatedBoot_of_valid hvalidNext, rfl⟩
  · rintro ⟨hroom, boot, hboot, rfl⟩
    refine ⟨boot, ?_, ?_⟩
    · rw [happly, transition_iff]
      exact ⟨by decide, hroom, boot, rfl, rfl⟩
    · exact validateRecord_withState (validateRecord_advanced hvalid hboot) (by decide)

theorem readableSat_signalWorker_iff (hid : r.lifecycleId = id) (h : OpenRecord id current w)
    (hresult : FailsSafely id result)
    (hintent : current.operationLedger.runtimeRelease = .intentPersisted a) :
    ReadableSat id (signalWorker r host a) w result ↔ if host.exitsOnSigterm then
      ¬ current.Takes 1 else host.workerExits = true → ¬ current.HasRoom 2 := by
  unfold signalWorker
  split
  · exact readableSat_confirmRuntimeRelease_iff hid h hresult
  · -- SIGTERM was not enough: the record is put back to `started` before the second signal
    have hstarted : ("started" : String) ≠ "record_resolved" := by decide
    have hsafe : SafeWrite current (.transitionWithOperation "started" .runtimeRelease
        (.indeterminate a runtimeReleaseStageSigtermInsufficient)) := by
      have hwrite : SafeWrite current (.operation .runtimeRelease
          (.indeterminate a runtimeReleaseStageSigtermInsufficient)) := by
        refine safeWrite_result h.readable ?_ rfl
          (resolutionAgrees_set h.readable fun _ => ⟨rfl, h.unresolved⟩)
        show current.operationLedger.runtimeRelease.attemptId = _
        rw [hintent]
        rfl
      have hagrees := hwrite.agrees
      exact {
        attempt := hwrite.attempt
        agrees := ⟨fun hrelease => (by cases hrelease), fun hstate => absurd hstate hstarted,
          fun hresolution => absurd (hagrees.resolution hresolution) h.unresolved⟩
        vtKept := fun _ hchange => by cases hchange
        vtFinished := fun _ hgiven => by cases hgiven
        vtAppended := fun _ happend => by cases happend }
    obtain rfl := hid
    refine readableSat_bind_iff.trans ((readableSat_persist_iff
      (host.workerExits = true → ¬ current.HasRoom 2) h.memory h.readable (fun w' hget => ?_)
      fun next w' hreaches hread hget _ => ?_).trans ?_)
    · exact hresult _ _ _ ⟨hget, h.readable, h.valid, h.unresolved⟩
    · obtain ⟨_, boot, hboot, hnext⟩ := (started_reaches_iff h.valid).mp hreaches
      have hvalid : validateRecord next = true := hreaches.elim fun _ hr => hr.2
      have hopen : OpenRecord r.lifecycleId next w' :=
        ⟨hget, hread, hvalid, hnext ▸ hstarted⟩
      refine (readableSat_forceWorkerExit_iff rfl hopen hresult).trans (forall_congr' fun _ => ?_)
      subst hnext
      have htext : stateTextValid "started" = true := by decide
      refine not_congr ⟨fun htakes => ?_, fun hroom => ⟨?_, htext⟩⟩
      · have hroom : (current.sequence + 1) + 1 < u64Bound := htakes.1
        exact hroom
      · show (current.sequence + 1) + 1 < u64Bound
        exact hroom
    · constructor
      · intro hall hexits hroom
        have hone : current.HasRoom 1 := Nat.lt_of_succ_lt hroom
        have hreaches := (started_reaches_iff
          (s := .indeterminate a runtimeReleaseStageSigtermInsufficient) h.valid).mpr
            ⟨hone, _, h.readable.updatedBoot, rfl⟩
        exact (hall _ hreaches).2 hexits hroom
      · exact fun hexits next _ => ⟨hsafe, hexits⟩

theorem readableSat_recoverRuntimeRelease_iff (h : OpenRecord id r w)
    (hresult : FailsSafely id result) :
    ReadableSat id (recoverValidatedRuntimeRelease r host) w result ↔ WorkerSound host r := by
  obtain hid := h.lifecycleId_eq
  unfold recoverValidatedRuntimeRelease WorkerSound SignalSound
  cases hrelease : r.operationLedger.runtimeRelease with
  | notStarted =>
    obtain rfl := hid
    refine readableSat_bind_iff.trans ((readableSat_operation_iff (SignalSound host r 1) h
      (failsSafely_following hresult) fun boot w' hw' => ?_).trans ?_)
    · refine (readableSat_signalWorker_iff rfl hw' hresult rfl).trans ?_
      rw [PersistentRecoveryRecord.advanced_takes, PersistentRecoveryRecord.advanced_hasRoom]
      exact Iff.rfl
    · refine forall_congr' fun htakes => and_congr_left fun _ => ?_
      rw [saturatingAdd_of_lt htakes.1]
      exact safeWrite_intent_iff h.readable (by omega) (fun hop => (by cases hop))
        fun hop => (by cases hop)
  | intentPersisted a =>
    exact readableSat_signalWorker_iff hid h hresult hrelease
  | indeterminate a stage => exact readableSat_forceWorkerExit_iff hid h hresult
  | confirmed a => exact ⟨fun _ => trivial, fun _ => hresult _ _ _ h⟩
  | failed a c => exact ⟨fun _ => trivial, fun _ => hresult _ _ _ h⟩

end Worker

section VirtualTerminal

def SameBootHost.vtRecovered (host : SameBootHost) : Bool :=
  match host.vtRecover with
  | .refused => false
  | .answered result stillAuthorized => stillAuthorized && result.isOk

/-- Without the control group and the terminal of the session, the record goes on to the
finalization if its owner is still the same. -/
def AbsentEndSound (host : SameBootHost) (r : PersistentRecoveryRecord) (k : Nat)
    (done : List DurableOperation) : Prop :=
  host.logindOwnerSameAtEnd = true → FinalizationSound r k done

/-- What success leads to at the end of this path, wherever its writes are counted from. -/
def EndsAbsent (id : String) (host : SameBootHost)
    (result : Except StartupRecoveryFailure Unit → StartupWorld → Prop) : Prop :=
  ∀ r k done current w, OpenRecord id current w → Advanced r k done current →
    BeforeResolution done → (result (.ok ()) w ↔ AbsentEndSound host r k done)

def TtySound (host : SameBootHost) (r : PersistentRecoveryRecord) : Prop :=
  match r.operationLedger.selinuxRestore with
  | .notStarted => r.Takes 1 →
    IdFits r.operationLedger [] .selinuxRestore (r.sequence + 1) ∧
      (host.ttyContextRestored = true → r.Takes 2 → AbsentEndSound host r 2 [.selinuxRestore])
  | .confirmed _ => AbsentEndSound host r 0 []
  | .intentPersisted _ => True
  | .failed _ _ => True
  | .indeterminate _ _ => True

/-- The id of a deallocation is the one its resolution would take. -/
def VtSound (host : SameBootHost) (r : PersistentRecoveryRecord) (boot : String) : Prop :=
  match r.operationLedger.vtDisallocate with
  | .notStarted => host.vtOwnerStable = true → boot = r.createdBootId → r.Takes 1 →
    IdFits r.operationLedger [] .vtDisallocate (saturatingAdd r.sequence 3) ∧
      (host.vtRecovered = true → r.Takes 2 → host.logindOwnerSameAtEnd = true →
        r.operationLedger.runtimeRelease = .notStarted →
        r.operationLedger.recordResolution = .notStarted → ¬ r.Takes 3)
  | .confirmed _ => AbsentEndSound host r 0 []
  | .intentPersisted _ => True
  | .failed _ _ => True
  | .indeterminate _ _ => True

variable {result : Except StartupRecoveryFailure Unit → StartupWorld → Prop}

theorem readableSat_confirmDefaultTtyContext_iff (h : OpenRecord id r w)
    (hresult : FailsSafely id result)
    (hdone : EndsAbsent id host result) :
    ReadableSat id (confirmDefaultTtyContext host r) w result ↔ TtySound host r := by
  unfold confirmDefaultTtyContext TtySound
  cases hstate : r.operationLedger.selinuxRestore with
  | notStarted =>
    obtain rfl := h.lifecycleId_eq
    have hadv := Advanced.refl r
    refine readableSat_bind_iff.trans ((readableSat_operation_iff
      (host.ttyContextRestored = true → r.Takes 2 → AbsentEndSound host r 2 [.selinuxRestore]) h
      (failsSafely_following hresult) fun boot w' hw' => ?_).trans ?_)
    · refine (readableSat_require_iff hw' hresult).trans (forall_congr' fun _ => ?_)
      refine readableSat_outcome_iff _ hadv hw' hresult rfl rfl (by decide) fun boot' w'' hw'' => ?_
      refine hdone r 2 [.selinuxRestore] _ w'' hw'' (hadv.attempt rfl ?_) (by decide)
      exact Nat.le_trans (saturatingAdd_le _ _) (by omega)
    · refine forall_congr' fun htakes => and_congr_left fun _ => ?_
      rw [saturatingAdd_of_lt htakes.1]
      exact safeWrite_intent_iff h.readable (by omega) (fun hop => (by cases hop))
        fun hop => (by cases hop)
  | confirmed a => exact hdone r 0 [] r w h (Advanced.refl r) nofun
  | intentPersisted a => exact ⟨fun _ => trivial, fun _ => hresult _ _ _ h⟩
  | failed a c => exact ⟨fun _ => trivial, fun _ => hresult _ _ _ h⟩
  | indeterminate a c => exact ⟨fun _ => trivial, fun _ => hresult _ _ _ h⟩

theorem safeWrite_vtBusyProvenance {provenance : VtBusyProvenance} (hread : ReadableRecord r) :
    SafeWrite r (.vtBusyProvenance provenance) where
  attempt := fun _ _ hchange => by cases hchange
  agrees := ⟨hread.release, hread.resolved, hread.resolution⟩
  vtKept := fun _ hchange => by cases hchange
  vtFinished := fun _ hgiven => by cases hgiven
  vtAppended := fun _ happend => by cases happend

/-- A busy terminal is recorded in two writes that can both be read back. -/
theorem readableSat_recordVtBusy {boot : String} (h : OpenRecord id (r.advanced 1
      (r.operationLedger.set .vtDisallocate (.intentPersisted a)) boot) w)
    (hresult : FailsSafely id result) : ReadableSat id (recordVtBusy host id a) w result := by
  have hadv := Advanced.refl r
  refine readableSat_bind_iff.mpr ((readableSat_outcome_iff True hadv h
    (failsSafely_following hresult) rfl rfl (by decide) fun boot' w' hw' => ?_).mpr
    fun _ => trivial)
  refine iff_true_intro (readableSat_bind_iff.mpr ?_)
  refine (readableSat_persist_iff True hw'.memory hw'.readable (fun w'' hget => ?_)
    fun next w'' hreaches hread hget _ => ?_).mpr
      fun _ _ => ⟨safeWrite_vtBusyProvenance hw'.readable, trivial⟩
  · exact hresult _ _ _ ⟨hget, hw'.readable, hw'.valid, hw'.unresolved⟩
  · obtain ⟨_, happly, hvalid⟩ := hreaches
    refine iff_true_intro (hresult _ next _ ⟨hget, hread, hvalid, ?_⟩)
    rw [(writeResult_of_apply happly).state]
    exact hw'.unresolved

theorem readableSat_recoverVt_iff {boot : String} (rest : Prop) (h : OpenRecord id (r.advanced 1
      (r.operationLedger.set .vtDisallocate (.intentPersisted a)) boot) w)
    (hresult : FailsSafely id result)
    (hdone : ∀ boot' w', OpenRecord id ((r.advanced 1
        (r.operationLedger.set .vtDisallocate (.intentPersisted a)) boot).advanced 1
        ((r.operationLedger.set .vtDisallocate (.intentPersisted a)).set .vtDisallocate
          (.confirmed a)) boot') w' → (result (.ok ()) w' ↔ rest)) :
    ReadableSat id (recoverVt host id a) w result ↔
      (host.vtRecovered = true → r.Takes 2 → rest) := by
  unfold recoverVt SameBootHost.vtRecovered
  cases host.vtRecover with
  | refused => exact ⟨fun _ hrecovered => (by cases hrecovered), fun _ => hresult _ _ _ h⟩
  | answered answer stillAuthorized =>
    refine readableSat_issue_iff _ h fun w' hw' => ?_
    cases stillAuthorized with
    | false => exact ⟨fun _ hrecovered => (by cases hrecovered), fun _ => hresult _ _ _ hw'⟩
    | true =>
      cases answer with
      | ok u =>
        refine Iff.trans ?_ (imp_iff_right rfl).symm
        exact readableSat_outcome_iff rest (Advanced.refl r) hw' hresult rfl rfl (by decide) hdone
      | error e =>
        -- a busy terminal is recorded, any other failure is not
        have hnot : ((true && (Except.error e : Except SupervisorRecoveryError Unit).isOk) = true →
            r.Takes 2 → rest) ↔ True := iff_true_intro fun hok => by cases hok
        rw [hnot, iff_true]
        cases e with
        | vtDisallocateBusy => exact readableSat_recordVtBusy hw' hresult
        | _ => exact hresult _ _ _ hw'

/-- A target that is valid for the record is valid for it with its intent. -/
theorem vtTargetValid_advanced {vt : SupervisorVtIdentity} {p : AuthorizedRecoveryBoundaryProof}
    {l : DurableOperationLedger} {boot : String} (hvalid : vtTargetValid r.snapshot vt p = true) :
    vtTargetValid (r.advanced 1 l boot).snapshot vt
      (p.authorizeNextSequence (r.advanced 1 l boot).sequence) = true := by
  simp only [vtTargetValid, AuthorizedRecoveryBoundaryProof.matchesSnapshot, Bool.and_eq_true,
    decide_eq_true_eq] at hvalid
  obtain ⟨⟨⟨⟨⟨hidentity, -⟩, ⟨⟨⟨⟨-, hboot⟩, hid⟩, hinvocation⟩, hgroup⟩⟩, hseat⟩, hnumber⟩, hprevious⟩ :=
    hvalid
  simp only [vtTargetValid, AuthorizedRecoveryBoundaryProof.matchesSnapshot, Bool.and_eq_true,
    decide_eq_true_eq]
  exact ⟨⟨⟨⟨⟨hidentity, snapshot_validates _⟩, ⟨⟨⟨⟨rfl, hboot⟩, hid⟩, hinvocation⟩, hgroup⟩⟩, hseat⟩,
    hnumber⟩, hprevious⟩

theorem readableSat_disallocateVt_iff {vt : SupervisorVtIdentity}
    {p : AuthorizedRecoveryBoundaryProof} (rest : Prop) (h : OpenRecord id r w)
    (hresult : FailsSafely id result) (hnone : r.operationLedger.vtDisallocate = .notStarted)
    (hdone : ∀ boot boot' w', OpenRecord id ((r.advanced 1 (r.operationLedger.set .vtDisallocate
        (.intentPersisted (saturatingAdd r.sequence 3))) boot).advanced 1
        ((r.operationLedger.set .vtDisallocate (.intentPersisted (saturatingAdd r.sequence 3))).set
          .vtDisallocate (.confirmed (saturatingAdd r.sequence 3))) boot') w' →
      (result (.ok ()) w' ↔ rest)) :
    ReadableSat id (disallocateVt host r.snapshot vt p) w result ↔
      (host.vtOwnerStable = true → vtTargetValid r.snapshot vt p = true → r.Takes 1 →
        IdFits r.operationLedger [] .vtDisallocate (saturatingAdd r.sequence 3) ∧
          (host.vtRecovered = true → r.Takes 2 → rest)) := by
  obtain rfl := h.lifecycleId_eq
  have hadv := Advanced.refl r
  refine (readableSat_require_iff h hresult).trans (forall_congr' fun _ => ?_)
  refine (readableSat_require_iff h hresult).trans (forall_congr' fun hvalid => ?_)
  refine readableSat_bind_iff.trans (readableSat_mapErr_iff.trans ((readableSat_persistIntent_iff
    (host.vtRecovered = true → r.Takes 2 → rest) h hadv
    (failsSafely_mapError (failsSafely_following hresult)) (hadv.attempt_new (by decide)) nofun
    (fun _ => hnone)
    fun boot w' hw' => ?_).trans ?_))
  · refine (readableSat_require_iff hw' hresult).trans ?_
    refine (forall_prop_of_true (vtTargetValid_advanced hvalid)).trans ?_
    exact readableSat_recoverVt_iff rest hw' hresult (hdone boot)
  · exact Iff.rfl

theorem readableSat_absentVt_iff {boot : String} {vt : SupervisorVtIdentity} (h : OpenRecord id r w)
    (hresult : FailsSafely id result) (hvt : persistedVtIdentity r = some vt)
    (hvalid : validateVtIdentity vt = true) (hdone : EndsAbsent id host result) :
    ReadableSat id (reconcileStartupVt host ⟨r, boot⟩
      ((RecoveryBoundaryEmptyProof.fromAbsentBoundary ⟨r, boot⟩).authorize r.sequence)) w result ↔
      VtSound host r boot := by
  unfold reconcileStartupVt VtSound
  refine (readableSat_okOr_iff h hresult).trans ?_
  simp only [hvt, Option.some.injEq, forall_eq']
  cases hstate : r.operationLedger.vtDisallocate with
  | confirmed a => exact hdone r 0 [] r w h (Advanced.refl r) nofun
  | intentPersisted a => exact ⟨fun _ => trivial, fun _ => hresult _ _ _ h⟩
  | failed a c => exact ⟨fun _ => trivial, fun _ => hresult _ _ _ h⟩
  | indeterminate a c => exact ⟨fun _ => trivial, fun _ => hresult _ _ _ h⟩
  | notStarted =>
    by_cases hboot : boot = r.createdBootId
    · subst hboot
      have htarget : vtTargetValid r.snapshot vt ((RecoveryBoundaryEmptyProof.fromAbsentBoundary
          r.snapshot).authorize r.sequence) = true := by
        unfold persistedVtIdentity at hvt
        obtain ⟨target, htarget, hvt⟩ := Option.bind_eq_some_iff.mp hvt
        obtain ⟨previous, hprevious, hvt⟩ := Option.bind_eq_some_iff.mp hvt
        cases hvt
        simp only [vtTargetValid, AuthorizedRecoveryBoundaryProof.matchesSnapshot,
          Bool.and_eq_true, decide_eq_true_eq]
        exact ⟨⟨⟨⟨⟨hvalid, snapshot_validates r⟩, ⟨⟨⟨⟨rfl, rfl⟩, rfl⟩, rfl⟩, rfl⟩⟩, rfl⟩,
          htarget.symm⟩, hprevious.symm⟩
      refine (readableSat_disallocateVt_iff (host.logindOwnerSameAtEnd = true →
        r.operationLedger.runtimeRelease = .notStarted →
        r.operationLedger.recordResolution = .notStarted → ¬ r.Takes 3) h hresult hstate
        fun boot boot' w' hw' => ?_).trans ?_
      · refine (hdone _ 0 [] _ w' hw' (Advanced.refl _) nofun).trans ?_
        refine forall_congr' fun _ => forall_congr' fun _ => forall_congr' fun _ => ?_
        -- the deallocation has the id that the resolution would take
        rw [PersistentRecoveryRecord.advanced_takes, PersistentRecoveryRecord.advanced_takes]
        constructor
        · intro hsound htakes
          have hid : saturatingAdd r.sequence 3 = r.sequence + 3 := saturatingAdd_of_lt htakes.1
          have hlt := ((hsound htakes).1 .vtDisallocate List.not_mem_nil
            (saturatingAdd r.sequence 3) rfl).1 (by decide)
          have hlt' : saturatingAdd r.sequence 3 < r.sequence + 1 + 1 + 0 + 1 := hlt
          omega
        · exact fun hnot htakes => absurd htakes hnot
      · exact forall_congr' fun _ =>
          ⟨fun hall _ => hall htarget, fun hall _ => hall rfl⟩
    · -- a boot id that has changed since gives a snapshot that no target is valid for
      have hnot : (⟨r, boot⟩ : RecoveryStateSnapshot).validates = false :=
        decide_eq_false hboot
      refine iff_of_true ?_ fun _ heq => absurd heq hboot
      refine (readableSat_require_iff h hresult).mpr fun _ => ?_
      refine (readableSat_require_iff h hresult).mpr fun htarget => ?_
      simp only [vtTargetValid, hnot, Bool.and_false, Bool.false_and] at htarget
      cases htarget

/-- A proof of an earlier snapshot is no authority over the terminal. -/
theorem readableSat_staleVt_iff {p : AuthorizedRecoveryBoundaryProof}
    (h : OpenRecord id current w) (hadv : Advanced r k done current)
    (hresult : FailsSafely id result) (hstale : p.authorizedSequence ≠ current.sequence)
    (hvt : .vtDisallocate ∉ done) (hdone : result (.ok ()) w ↔ FinalizationSound r k done) :
    ReadableSat id (reconcileStartupVt host current.snapshot p) w result ↔
      ((persistedVtIdentity r).isSome = true →
        r.operationLedger.vtDisallocate.isConfirmed = true → FinalizationSound r k done) := by
  have hidentity : persistedVtIdentity current = persistedVtIdentity r := by
    rw [hadv.record]
    rfl
  have hkept : current.operationLedger.vtDisallocate = r.operationLedger.vtDisallocate :=
    hadv.kept .vtDisallocate hvt
  unfold reconcileStartupVt
  refine (readableSat_okOr_iff h hresult).trans ?_
  rw [show persistedVtIdentity current.snapshot.record = persistedVtIdentity r from hidentity,
    show current.snapshot.record.operationLedger.vtDisallocate =
      r.operationLedger.vtDisallocate from hkept, Option.isSome_iff_exists, forall_exists_index]
  refine forall_congr' fun vt => forall_congr' fun _ => ?_
  cases hstate : r.operationLedger.vtDisallocate with
  | confirmed a =>
    refine Iff.trans ?_ (imp_iff_right rfl).symm
    exact hdone
  | intentPersisted a => exact ⟨fun _ hconfirmed => (by cases hconfirmed), fun _ => hresult _ _ _ h⟩
  | failed a c => exact ⟨fun _ hconfirmed => (by cases hconfirmed), fun _ => hresult _ _ _ h⟩
  | indeterminate a c => exact ⟨fun _ hconfirmed => (by cases hconfirmed), fun _ => hresult _ _ _ h⟩
  | notStarted =>
    -- the target's check compares the sequence that the proof was made for
    refine iff_of_true ?_ fun hconfirmed => by cases hconfirmed
    refine (readableSat_require_iff h hresult).mpr fun _ => ?_
    refine (readableSat_require_iff h hresult).mpr fun htarget => ?_
    have hfresh : p.authorizedSequence = current.sequence := by
      simp only [vtTargetValid, AuthorizedRecoveryBoundaryProof.matchesSnapshot, Bool.and_eq_true,
        decide_eq_true_eq] at htarget
      exact htarget.1.1.1.2.1.1.1.1
    exact absurd hfresh hstale

end VirtualTerminal

section Payload

def SameBootHost.killAnswered (host : SameBootHost) : Bool :=
  match host.emergencyKill with
  | .refused => false
  | .boundaryEmpty => true
  | .called result ownerStillValid => result.isOk && ownerStillValid

def SameBootHost.killDone (host : SameBootHost) : Bool :=
  host.killAnswered && host.ownerAfterKill && host.boundaryEmptied.isOk

def SameBootHost.unrefDone (host : SameBootHost) : Bool :=
  host.unrefOwnerValid &&
    match host.unref with
    | .refused => false
    | .answered result _ => result.isOk

theorem forall_ok_iff {c : Except ε Unit} {p : Prop} :
    (∀ u, c = .ok u → p) ↔ (c.isOk = true → p) := by
  cases c with
  | ok u => exact ⟨fun h _ => h u rfl, fun h _ _ => h rfl⟩
  | error e => exact ⟨fun _ hok => (by cases hok), fun _ _ hok => (by cases hok)⟩

/-- The pin goes along with its record if it is on the recorded control group. -/
theorem rebind_pinOn {group boot : String} {l : DurableOperationLedger} :
    (current.pinOn group).rebind (current.advanced 1 l boot).snapshot =
      if group = current.controlGroup.getD "" then some ((current.advanced 1 l boot).pinOn group)
      else none := by
  have hvalidates := snapshot_validates (current.advanced 1 l boot)
  unfold RecoveryPinnedInvocationUnit.rebind
  rw [hvalidates]
  by_cases hgroup : group = current.controlGroup.getD ""
  · subst hgroup
    simp [PersistentRecoveryRecord.snapshot, PersistentRecoveryRecord.pinOn,
      PersistentRecoveryRecord.advanced]
  · have hne : decide ((current.pinOn group).controlGroup ≠
        (current.advanced 1 l boot).snapshot.record.controlGroup.getD "") = true :=
      decide_eq_true hgroup
    rw [if_neg hgroup]
    exact if_pos (by rw [hne, Bool.or_true])

theorem forall_rebind_iff {group boot : String} {l : DurableOperationLedger}
    {p : RecoveryPinnedInvocationUnit → Prop} :
    (∀ pin, (current.pinOn group).rebind (current.advanced 1 l boot).snapshot = some pin → p pin) ↔
      (group = current.controlGroup.getD "" → p ((current.advanced 1 l boot).pinOn group)) := by
  rw [rebind_pinOn]
  constructor
  · exact fun h hgroup => h _ (if_pos hgroup)
  · intro h pin hpin
    split at hpin
    next hgroup =>
      cases hpin
      exact h hgroup
    next => cases hpin

theorem bound_pinOn {group : String} (hgroup : group = current.controlGroup.getD "") :
    (current.pinOn group).bound current.snapshot = true := by
  subst hgroup
  simp [RecoveryPinnedInvocationUnit.bound, PersistentRecoveryRecord.snapshot,
    RecoveryStateSnapshot.validates, PersistentRecoveryRecord.pinOn]

theorem readableSat_requestKill_iff {group : String}
    {result : Except StartupRecoveryFailure Unit → StartupWorld → Prop} (rest : Prop)
    (h : OpenRecord id current w) (hresult : FailsSafely id result)
    (hgroup : group = current.controlGroup.getD "")
    (hdone : ∀ w', OpenRecord id current w' → (result (.ok ()) w' ↔ rest)) :
    ReadableSat id (requestRecoveryEmergencyKill host (current.pinOn group) current.snapshot) w
      result ↔ (host.killAnswered = true → rest) := by
  unfold requestRecoveryEmergencyKill SameBootHost.killAnswered
  rw [readableSat_require_iff h hresult, forall_prop_of_true (bound_pinOn hgroup)]
  cases host.emergencyKill with
  | refused => exact ⟨fun _ hanswered => (by cases hanswered), fun _ => hresult _ _ _ h⟩
  | boundaryEmpty => exact (hdone w h).trans (imp_iff_right rfl).symm
  | called answer ownerStillValid =>
    refine readableSat_issue_iff _ h fun w' hw' => ?_
    refine (readableSat_checked_iff hw' hresult).trans ?_
    rw [Bool.and_eq_true, and_imp]
    refine Iff.trans (forall_congr' fun _ => forall_congr' fun _ => ?_) forall_ok_iff
    cases ownerStillValid with
    | false => exact ⟨fun _ hvalid => (by cases hvalid), fun _ => hresult _ _ _ hw'⟩
    | true => exact (hdone w' hw').trans (imp_iff_right rfl).symm

theorem readableSat_killPayload_iff {group : String}
    {result : Except StartupRecoveryFailure
      (RecoveryStateSnapshot × RecoveryPinnedInvocationUnit) → StartupWorld → Prop}
    (rest : Prop) (h : OpenRecord id r w) (hresult : FailsSafely id result)
    (hdone : ∀ current w', OpenRecord id current w' → Advanced r 2 [.payloadKill] current →
      (result (.ok (current.snapshot, current.pinOn group)) w' ↔ rest)) :
    ReadableSat id (killPayload host r.snapshot (r.pinOn group)) w result ↔
      (host.payloadOwnerStable = true → r.operationLedger.payloadKill.isUndecided = false →
        r.Takes 1 → IdFits r.operationLedger [] .payloadKill (r.sequence + 1) ∧
          (group = r.controlGroup.getD "" → host.killDone = true → r.Takes 2 → rest)) := by
  obtain rfl := h.lifecycleId_eq
  have hadv := Advanced.refl r
  refine (readableSat_require_iff h hresult).trans (forall_congr' fun _ => ?_)
  refine (readableSat_require_iff h hresult).trans ?_
  rw [Bool.not_eq_true']
  refine forall_congr' fun _ => ?_
  refine readableSat_bind_iff.trans (readableSat_mapErr_iff.trans ((readableSat_persistIntent_iff
    (group = r.controlGroup.getD "" → host.killDone = true → r.Takes 2 → rest) h hadv
    (failsSafely_mapError (failsSafely_following hresult)) (hadv.attempt_new (by decide)) nofun
    (fun hop => (by cases hop)) fun boot w' hw' => ?_).trans ?_))
  · -- the kill, the wait for an empty boundary, and the outcome of the intent
    refine (readableSat_okOr_iff hw' hresult).trans (forall_rebind_iff.trans ?_)
    refine forall_congr' fun hgroup => ?_
    simp only [SameBootHost.killDone, Bool.and_eq_true, and_imp]
    refine readableSat_bind_iff.trans ((readableSat_requestKill_iff
      (host.ownerAfterKill = true → host.boundaryEmptied.isOk = true → r.Takes 2 → rest) hw'
      (failsSafely_following hresult) hgroup fun w₂ hw₂ => ?_).trans Iff.rfl)
    refine (readableSat_require_iff hw₂ hresult).trans (forall_congr' fun _ => ?_)
    refine (readableSat_check_iff hw₂ hresult).trans ?_
    refine Iff.trans (forall_congr' fun _ => forall_congr' fun _ => ?_) forall_ok_iff
    refine readableSat_bind_iff.trans (readableSat_outcome_iff rest hadv hw₂
      (failsSafely_following hresult) rfl rfl (by decide) fun boot' w₃ hw₃ => ?_)
    refine readableSat_bind_iff.trans (readableSat_mapErr_iff.trans ((readableSat_refresh_iff
      hw₃.memory hw₃.readable rfl rfl).trans ?_))
    refine (readableSat_okOr_iff hw₃ hresult).trans (forall_rebind_iff.trans ?_)
    refine (imp_iff_right hgroup).trans (hdone _ w₃ hw₃ (hadv.attempt rfl ?_))
    exact Nat.le_trans (saturatingAdd_le r.sequence 1) (by omega)
  · refine forall_congr' fun htakes => and_congr_left fun _ => ?_
    rw [saturatingAdd_of_lt htakes.1]

theorem verifiedBoundary_matches_iff {group : String} :
    (current.snapshot.validates && (RecoveryBoundaryEmptyProof.fromVerifiedBoundary current.snapshot
      (current.pinOn group)).matchesSnapshot current.snapshot) = true ↔
      group = current.controlGroup.getD "" := by
  simp only [RecoveryBoundaryEmptyProof.matchesSnapshot, Bool.and_eq_true, decide_eq_true_eq]
  exact ⟨fun h => h.2.2, fun h => ⟨snapshot_validates _, ⟨⟨⟨⟨rfl, rfl⟩, rfl⟩, rfl⟩, h⟩⟩⟩

theorem readableSat_releaseRecovery_iff {group : String} {proof : RecoveryBoundaryEmptyProof}
    {result : Except StartupRecoveryFailure Unit → StartupWorld → Prop} (rest : Prop)
    (h : OpenRecord id current w) (hresult : FailsSafely id result)
    (hgroup : group = current.controlGroup.getD "")
    (hproof : (proof.authorize current.sequence).matchesPin current (current.pinOn group) = true)
    (hdone : ∀ w', OpenRecord id current w' → (result (.ok ()) w' ↔ rest)) :
    ReadableSat id (releaseRecovery host (current.pinOn group) current.snapshot
      (proof.authorize current.sequence)) w result ↔ (host.unrefDone = true → rest) := by
  unfold releaseRecovery SameBootHost.unrefDone
  rw [readableSat_require_iff h hresult, bound_pinOn hgroup, Bool.true_and, Bool.and_eq_true,
    and_imp]
  refine forall_congr' fun _ => ?_
  refine (readableSat_require_iff h hresult).trans ((imp_iff_right hproof).trans ?_)
  cases host.unref with
  | refused => exact ⟨fun _ hanswered => (by cases hanswered), fun _ => hresult _ _ _ h⟩
  | answered answer stillAuthorized =>
    refine readableSat_issue_iff _ h fun w' hw' => ?_
    have hcheck : ReadableSat id (Attempt.check (answer.mapError fun _ =>
        StartupRecoveryFailure.boundaryIdentityChanged) : StartupResult Unit) w' result ↔
          (answer.isOk = true → rest) := by
      cases answer with
      | ok u => exact (hdone w' hw').trans (imp_iff_right rfl).symm
      | error e => exact ⟨fun _ hok => (by cases hok), fun _ => hresult _ _ _ hw'⟩
    exact hcheck

/-- Giving up the pin leaves a proof that is one write behind its record. -/
theorem readableSat_releasePin_iff {group : String} {result : Except StartupRecoveryFailure
      (RecoveryStateSnapshot × AuthorizedRecoveryBoundaryProof) → StartupWorld → Prop}
    (rest : Prop) (h : OpenRecord id current w) (hadv : Advanced r k done current)
    (hbefore : ∀ op ∈ done, validationOrder.idxOf op <
      validationOrder.idxOf DurableOperation.supervisorUnref)
    (hresult : FailsSafely id result)
    (hdone : ∀ next w' authorized, OpenRecord id next w' →
      Advanced r (k + 2) (.supervisorUnref :: done) next →
      authorized.authorizedSequence < next.sequence →
      (result (.ok (next.snapshot, authorized)) w' ↔ rest)) :
    ReadableSat id (releasePin host current.snapshot (current.pinOn group)
      (.fromVerifiedBoundary current.snapshot (current.pinOn group))) w result ↔
      (group = current.controlGroup.getD "" → r.Takes (k + 1) →
        IdFits r.operationLedger done .supervisorUnref (r.sequence + k + 1) ∧
          (host.unrefDone = true → r.Takes (k + 2) → rest)) := by
  obtain rfl := h.lifecycleId_eq
  have hid : r.Takes (k + 1) → saturatingAdd current.sequence 1 = r.sequence + k + 1 :=
    fun htakes => by rw [saturatingAdd_of_lt ((hadv.takes 1).mpr htakes).1, hadv.sequence]
  refine readableSat_bind_iff.trans (readableSat_mapErr_iff.trans ?_)
  refine (readableSat_require_iff h
    (failsSafely_mapError (failsSafely_following hresult))).trans ?_
  rw [verifiedBoundary_matches_iff]
  refine forall_congr' fun hgroup => ?_
  refine readableSat_bind_iff.trans ((readableSat_persistIntent_iff
    (host.unrefDone = true → r.Takes (k + 2) → rest) h hadv
    (failsSafely_following (failsSafely_mapError (failsSafely_following hresult)))
    (hadv.attempt_new (by decide)) hbefore
    (fun hop => (by cases hop)) fun boot w₁ hw₁ => ?_).trans ?_)
  · refine (readableSat_okOr_iff hw₁ hresult).trans
      (forall_rebind_iff.trans ((imp_iff_right hgroup).trans ?_))
    -- the proof is authorized for the sequence that the intent has given the record
    have hproof : ((RecoveryBoundaryEmptyProof.fromVerifiedBoundary current.snapshot
        (current.pinOn group)).authorize (current.advanced 1 (current.operationLedger.set
          .supervisorUnref (.intentPersisted (saturatingAdd current.sequence 1))) boot).sequence).matchesPin
        (current.advanced 1 (current.operationLedger.set .supervisorUnref
          (.intentPersisted (saturatingAdd current.sequence 1))) boot)
        ((current.advanced 1 (current.operationLedger.set .supervisorUnref
          (.intentPersisted (saturatingAdd current.sequence 1))) boot).pinOn group) = true := by
      simp [AuthorizedRecoveryBoundaryProof.matchesPin, RecoveryBoundaryEmptyProof.authorize,
        RecoveryBoundaryEmptyProof.fromVerifiedBoundary, PersistentRecoveryRecord.snapshot,
        PersistentRecoveryRecord.pinOn, PersistentRecoveryRecord.advanced]
    refine readableSat_bind_iff.trans (readableSat_releaseRecovery_iff (r.Takes (k + 2) → rest) hw₁
      (failsSafely_following hresult) hgroup hproof fun w₂ hw₂ => ?_)
    refine readableSat_bind_iff.trans (readableSat_outcome_iff rest hadv hw₂
      (failsSafely_following hresult) rfl rfl (by decide) fun boot' w₃ hw₃ => ?_)
    refine readableSat_bind_iff.trans (readableSat_mapErr_iff.trans ((readableSat_refresh_iff
      hw₃.memory hw₃.readable rfl rfl).trans ?_))
    refine hdone _ w₃ _ hw₃ (hadv.attempt rfl ?_) (Nat.lt_succ_self _)
    have hle : saturatingAdd current.sequence 1 ≤ r.sequence + k + 1 :=
      hadv.sequence ▸ saturatingAdd_le current.sequence 1
    show saturatingAdd current.sequence 1 ≤ r.sequence + k + 2
    omega
  · refine forall_congr' fun htakes => and_congr_left fun _ => ?_
    rw [← hid htakes]

end Payload

section Logind

def SameBootHost.terminateDone (host : SameBootHost) : Bool :=
  (match host.terminate with
    | .refused => false
    | .answered result stillAuthorized => result.isOk && stillAuthorized) &&
    host.logindAuthorizedAfter

/-- Once the session is gone, the terminal has to be settled already. -/
def SettledVtSound (host : SameBootHost) (r : PersistentRecoveryRecord) (k : Nat)
    (done : List DurableOperation) : Prop :=
  host.logindOwnerSame = true → (persistedVtIdentity r).isSome = true →
    r.operationLedger.vtDisallocate.isConfirmed = true → FinalizationSound r k done

def TerminateSound (host : SameBootHost) (r : PersistentRecoveryRecord) (k : Nat)
    (done : List DurableOperation) : Prop :=
  (r.payloadUnit.isSome && r.invocationId.isSome) = true →
    ∀ session, host.session = some session → sessionMatchesRecord r session = true →
      logindSessionValid r.snapshot session = true → host.logindAuthorized = true →
      r.Takes (k + 1) →
        IdFits r.operationLedger done .logindTermination (saturatingAdd (r.sequence + k) 2) ∧
          (host.terminateDone = true → r.Takes (k + 2) →
            SettledVtSound host r (k + 2) (.logindTermination :: done))

def LogindSound (host : SameBootHost) (r : PersistentRecoveryRecord) (k : Nat)
    (done : List DurableOperation) : Prop :=
  (host.logindOwnerStable && host.logindOwner) = true →
    r.logindSessionId.any logindSessionIdValid = true →
      (host.sessionExists = some true → TerminateSound host r k done) ∧
        (host.sessionExists = some false → SettledVtSound host r k done)

theorem readableSat_terminateSession_iff {result : Except StartupRecoveryFailure Unit → StartupWorld → Prop}
    {i : String} (rest : Prop) (h : OpenRecord id current w) (hresult : FailsSafely id result)
    (hdone : ∀ w', OpenRecord id current w' →
      (result (.ok ()) w' ↔ (host.logindAuthorizedAfter = true → rest))) :
    ReadableSat id (terminateSession host i) w result ↔ (host.terminateDone = true → rest) := by
  unfold terminateSession SameBootHost.terminateDone
  rw [Bool.and_eq_true, and_imp]
  cases host.terminate with
  | refused => exact ⟨fun _ hanswered => (by cases hanswered), fun _ => hresult _ _ _ h⟩
  | answered answer stillAuthorized =>
    refine readableSat_issue_iff _ h fun w' hw' => ?_
    refine (readableSat_checked_iff hw' hresult).trans ?_
    rw [show ((match CallAnswer.answered answer stillAuthorized with
      | .refused => false
      | .answered result stillAuthorized => result.isOk && stillAuthorized) : Bool) =
        (answer.isOk && stillAuthorized) from rfl, Bool.and_eq_true, and_imp]
    refine Iff.trans (forall_congr' fun _ => forall_congr' fun _ => ?_) forall_ok_iff
    cases stillAuthorized with
    | false => exact ⟨fun _ hvalid => (by cases hvalid), fun _ => hresult _ _ _ hw'⟩
    | true => exact (hdone w' hw').trans (imp_iff_right rfl).symm

theorem readableSat_terminate_iff
    {result : Except StartupRecoveryFailure RecoveryStateSnapshot → StartupWorld → Prop}
    (rest : Prop) (h : OpenRecord id current w) (hadv : Advanced r k done current)
    (hbefore : ∀ op ∈ done, validationOrder.idxOf op <
      validationOrder.idxOf DurableOperation.logindTermination)
    (hresult : FailsSafely id result)
    (hdone : ∀ next w', OpenRecord id next w' →
      Advanced r (k + 2) (.logindTermination :: done) next →
      (result (.ok next.snapshot) w' ↔ rest)) :
    ReadableSat id (terminateLogindSession host current.snapshot) w result ↔
      ((r.payloadUnit.isSome && r.invocationId.isSome) = true →
        ∀ session, host.session = some session → sessionMatchesRecord r session = true →
          logindSessionValid r.snapshot session = true → host.logindAuthorized = true →
          r.Takes (k + 1) →
            IdFits r.operationLedger done .logindTermination (saturatingAdd (r.sequence + k) 2) ∧
              (host.terminateDone = true → r.Takes (k + 2) → rest)) := by
  obtain rfl := h.lifecycleId_eq
  have hunit : current.snapshot.record.payloadUnit = r.payloadUnit := by
    show current.payloadUnit = _
    rw [hadv.record]
    rfl
  have hinvocation : current.snapshot.record.invocationId = r.invocationId := by
    show current.invocationId = _
    rw [hadv.record]
    rfl
  have hmatches : ∀ session, sessionMatchesRecord current.snapshot.record session =
      sessionMatchesRecord r session := fun session => by
    show sessionMatchesRecord current session = _
    rw [hadv.record]
    rfl
  have hvalid : ∀ session l boot, logindSessionValid (current.advanced 1 l boot).snapshot session =
      logindSessionValid r.snapshot session := fun session l boot => by
    rw [hadv.record]
    rfl
  have hvalid₀ : ∀ session, logindSessionValid current.snapshot session =
      logindSessionValid r.snapshot session := fun session => by
    rw [hadv.record]
    rfl
  refine (readableSat_require_iff h hresult).trans ?_
  rw [hunit, hinvocation]
  refine forall_congr' fun _ => ?_
  refine (readableSat_okOr_iff h hresult).trans (forall_congr' fun session =>
    forall_congr' fun _ => ?_)
  refine (readableSat_require_iff h hresult).trans ?_
  rw [hmatches session]
  refine forall_congr' fun _ => ?_
  refine (readableSat_require_iff h hresult).trans ?_
  rw [hvalid₀ session]
  refine forall_congr' fun hsession => ?_
  refine (readableSat_require_iff h hresult).trans (forall_congr' fun _ => ?_)
  refine readableSat_bind_iff.trans (readableSat_mapErr_iff.trans ((readableSat_persistIntent_iff
    (host.terminateDone = true → r.Takes (k + 2) → rest) h hadv
    (failsSafely_mapError (failsSafely_following hresult)) (hadv.attempt_new (by decide)) hbefore
    (fun hop => (by cases hop)) fun boot w₁ hw₁ => ?_).trans ?_))
  · -- the session that was valid before the intent still is
    refine (readableSat_require_iff hw₁ hresult).trans ?_
    rw [hvalid session, imp_iff_right hsession]
    refine readableSat_bind_iff.trans (readableSat_terminateSession_iff (r.Takes (k + 2) → rest) hw₁
      (failsSafely_following hresult) fun w₂ hw₂ => ?_)
    refine (readableSat_require_iff hw₂ hresult).trans (forall_congr' fun _ => ?_)
    refine readableSat_bind_iff.trans (readableSat_outcome_iff rest hadv hw₂
      (failsSafely_following hresult) rfl rfl (by decide) fun boot' w₃ hw₃ => ?_)
    refine readableSat_mapErr_iff.trans ((readableSat_refresh_iff
      hw₃.memory hw₃.readable rfl rfl).trans ?_)
    refine hdone _ w₃ hw₃ (hadv.attempt rfl ?_)
    exact hadv.sequence ▸ saturatingAdd_le current.sequence 2
  · refine forall_congr' fun htakes => and_congr_left fun _ => ?_
    rw [hadv.sequence]

/-- The rest of the reconciliation once the boundary is empty and the pin given up. -/
theorem readableSat_logindAndVt_iff {p : AuthorizedRecoveryBoundaryProof}
    {result : Except StartupRecoveryFailure Unit → StartupWorld → Prop}
    (h : OpenRecord id current w) (hadv : Advanced r k done current)
    (hbefore : ∀ op ∈ done, validationOrder.idxOf op <
      validationOrder.idxOf DurableOperation.logindTermination)
    (hresult : FailsSafely id result) (hstale : p.authorizedSequence < current.sequence)
    (hdone : ∀ k done current w', OpenRecord id current w' → Advanced r k done current →
      BeforeResolution done → (result (.ok ()) w' ↔ FinalizationSound r k done)) :
    ReadableSat id (reconcileLogindAndVt host current.snapshot p) w result ↔
      LogindSound host r k done := by
  have hsession : current.snapshot.record.logindSessionId = r.logindSessionId := by
    show current.logindSessionId = _
    rw [hadv.record]
    rfl
  have hresolution : BeforeResolution done := fun op hop =>
    Nat.lt_trans (hbefore op hop) (by decide)
  have hvt : ∀ done' : List DurableOperation, (∀ op ∈ done', validationOrder.idxOf op ≤
      validationOrder.idxOf DurableOperation.logindTermination) → .vtDisallocate ∉ done' :=
    fun done' hle hmem => absurd (hle _ hmem) (by decide)
  refine (readableSat_require_iff h hresult).trans (forall_congr' fun _ => ?_)
  refine (readableSat_require_iff h hresult).trans ?_
  rw [hsession]
  refine forall_congr' fun _ => ?_
  refine (readableSat_okOr_iff h hresult).trans ?_
  -- both ways end in the terminal's recovery, with or without the termination's two writes
  have hsettled : ∀ {k' done' next w'}, OpenRecord id next w' → Advanced r k' done' next →
      (∀ op ∈ done', validationOrder.idxOf op ≤
        validationOrder.idxOf DurableOperation.logindTermination) →
      p.authorizedSequence < next.sequence →
      (ReadableSat id (do
          .require host.logindOwnerSame .logindOwnerChanged
          reconcileStartupVt host next.snapshot p : StartupResult Unit) w' result ↔
        SettledVtSound host r k' done') := fun hw' hadv' hle hlt => by
    refine (readableSat_require_iff hw' hresult).trans (forall_congr' fun _ => ?_)
    refine readableSat_staleVt_iff hw' hadv' hresult (Nat.ne_of_lt hlt) (hvt _ hle) ?_
    exact hdone _ _ _ _ hw' hadv' fun op hop => Nat.lt_of_le_of_lt (hle op hop) (by decide)
  have hnow : ReadableSat id (do
      .require host.logindOwnerSame .logindOwnerChanged
      reconcileStartupVt host current.snapshot p : StartupResult Unit) w result ↔
        SettledVtSound host r k done :=
    hsettled h hadv (fun op hop => Nat.le_of_lt (hbefore op hop)) hstale
  have hterminate : ReadableSat id (terminateLogindSession host current.snapshot) w
      (Following id (fun snapshot => do
        .require host.logindOwnerSame .logindOwnerChanged
        reconcileStartupVt host snapshot p) result) ↔ TerminateSound host r k done := by
    refine readableSat_terminate_iff _ h hadv hbefore (failsSafely_following hresult)
      fun next w' hw' hnext => ?_
    refine hsettled hw' hnext (fun op hop => ?_) ?_
    · rcases List.mem_cons.mp hop with rfl | hop
      · exact Nat.le_refl _
      · exact Nat.le_of_lt (hbefore op hop)
    · rw [hnext.sequence]
      rw [hadv.sequence] at hstale
      omega
  constructor
  · intro hall
    exact ⟨fun hexists => hterminate.mp (readableSat_bind_iff.mp (hall true hexists)),
      fun hexists => hnow.mp (hall false hexists)⟩
  · rintro ⟨hthere, hgone⟩ sessionExists hexists
    cases sessionExists with
    | true => exact readableSat_bind_iff.mpr (hterminate.mpr (hthere hexists))
    | false => exact hnow.mpr (hgone hexists)

end Logind

section Record

/-- The unit's control group is gone, and everything the record says about it is as expected. -/
def AbsentSound (host : SameBootHost) (r : PersistentRecoveryRecord)
    (identity : PayloadScopeIdentity) : Prop :=
  (host.leader ≠ .originalStillAlive && r.transient = some true &&
      r.payloadUnit = some identity.unitName &&
      r.controlGroup = some ("/user.slice/" ++ ("user-" ++ toString identity.expectedUid ++ ".slice")
        ++ "/" ++ identity.unitName) &&
      r.slice = some ("user-" ++ toString identity.expectedUid ++ ".slice")) = true →
    host.absentBoundary.isOk = true → (host.logindOwnerStable && host.logindOwner) = true →
    r.logindSessionId.isSome = true → host.sessionExists = some false →
    host.logindOwnerSame = true →
    ∀ vt, persistedVtIdentity r = some vt → validateVtIdentity vt = true →
      (host.vtState = some .recovered → TtySound host r) ∧
        (host.vtState = some .needsRecovery → ∀ boot, host.bootIdAtVt = some boot →
          bootIdentityValid boot = true → VtSound host r boot)

def UnrefSound (host : SameBootHost) (r : PersistentRecoveryRecord) (group : String) (k : Nat)
    (done : List DurableOperation) : Prop :=
  host.leader ≠ .originalStillAlive → host.proofOwnerStable = true →
    host.boundaryProof.isOk = true → group = r.controlGroup.getD "" → r.Takes (k + 1) →
      IdFits r.operationLedger done .supervisorUnref (r.sequence + k + 1) ∧
        (host.unrefDone = true → r.Takes (k + 2) →
          LogindSound host r (k + 2) (.supervisorUnref :: done))

def KillSound (host : SameBootHost) (r : PersistentRecoveryRecord) (group : String) : Prop :=
  host.payloadOwnerStable = true → r.operationLedger.payloadKill.isUndecided = false →
    r.Takes 1 → IdFits r.operationLedger [] .payloadKill (r.sequence + 1) ∧
      (group = r.controlGroup.getD "" → host.killDone = true → r.Takes 2 →
        UnrefSound host r group 2 [.payloadKill])

def PinSound (host : SameBootHost) (r : PersistentRecoveryRecord) (group : String) : Prop :=
  (host.boundaryPopulated = some true → KillSound host r group) ∧
    (host.boundaryPopulated = some false → UnrefSound host r group 0 [])

/-- Whatever the reconciliation of the record writes can be read back. -/
def RecoverySound (host : SameBootHost) (r : PersistentRecoveryRecord) : Prop :=
  match host.worker with
  | .originalStillAlive => WorkerSound host r
  | .originalGone => (r.leaderPid.isSome && host.leader ≠ .indeterminate) = true →
    ∀ identity, recordedIdentity r = .ok identity → host.ownerWatches = true →
      (∀ pin, RecoveryPinnedInvocationUnit.rehydrate identity r.snapshot host.pin = .ok pin →
        PinSound host r pin.controlGroup) ∧
      (RecoveryPinnedInvocationUnit.rehydrate identity r.snapshot host.pin =
        .error .boundaryIdentityChanged → AbsentSound host r identity)
  | .pidReused => True
  | .indeterminate => True

theorem readableSat_require_end_iff {c : Bool} {result : Except ε Unit → StartupWorld → Prop}
    (h : OpenRecord id r w) (hresult : FailsSafely id result) :
    ReadableSat id (.require c e : Attempt StartupWorld StartupRequest ε Unit) w result ↔
      (c = true → result (.ok ()) w) := by
  cases c with
  | false => exact ⟨fun _ hc => (by cases hc), fun _ => hresult _ _ _ h⟩
  | true => exact (imp_iff_right rfl).symm

theorem endsAbsent_finalizeStartup : EndsAbsent id host (Following id
    (fun _ => .require host.logindOwnerSameAtEnd .logindOwnerChanged) (finalizeStartup id)) :=
  fun _ _ _ _ _ h hadv hbefore => (readableSat_require_end_iff h failsSafely_finalizeStartup).trans
    (forall_congr' fun _ => readableSat_finalizeOrQuarantine_iff h hadv hbefore)

theorem readableSat_absentBoundary_iff {identity : PayloadScopeIdentity} (h : OpenRecord id r w) :
    ReadableSat id (do
        proveStartupAbsentBoundary r identity host
        confirmAbsentBoundaryLogindAndVt host r : StartupResult Unit) w (finalizeStartup id) ↔
      AbsentSound host r identity := by
  have hresult : FailsSafely id (finalizeStartup id) := failsSafely_finalizeStartup
  refine readableSat_bind_iff.trans ((readableSat_require_iff h
    (failsSafely_following hresult)).trans (forall_congr' fun _ => ?_))
  have hproof : ReadableSat id (Attempt.check host.absentBoundary : StartupResult Unit) w
      (Following id (fun _ => confirmAbsentBoundaryLogindAndVt host r) (finalizeStartup id)) ↔
        (host.absentBoundary.isOk = true →
          ReadableSat id (confirmAbsentBoundaryLogindAndVt host r) w (finalizeStartup id)) := by
    cases host.absentBoundary with
    | ok u => exact (imp_iff_right rfl).symm
    | error e => exact ⟨fun _ hok => (by cases hok), fun _ => hresult _ _ _ h⟩
  refine hproof.trans (forall_congr' fun _ => ?_)
  refine (readableSat_require_iff h hresult).trans (forall_congr' fun _ => ?_)
  refine (readableSat_require_iff h hresult).trans (forall_congr' fun _ => ?_)
  refine (readableSat_okOr_iff h hresult).trans ?_
  refine Iff.trans (forall_congr' fun sessionExists => forall_congr' fun _ =>
    readableSat_require_iff h hresult) ?_
  -- only a logind that answers, and says that the session is gone, is taken for its absence
  have hgone : ∀ {p : Prop}, (∀ sessionExists, host.sessionExists = some sessionExists →
      (!sessionExists) = true → p) ↔ (host.sessionExists = some false → p) := fun {p} => by
    constructor
    · exact fun hall hexists => hall false hexists rfl
    · intro hp sessionExists hexists hnot
      cases sessionExists with
      | true => cases hnot
      | false => exact hp hexists
  refine hgone.trans (forall_congr' fun _ => ?_)
  refine (readableSat_require_iff h hresult).trans (forall_congr' fun _ => ?_)
  refine (readableSat_okOr_iff h hresult).trans (forall_congr' fun vt => forall_congr' fun hvt => ?_)
  refine (readableSat_require_iff h hresult).trans (forall_congr' fun hvalid => ?_)
  refine (readableSat_okOr_iff h hresult).trans ?_
  have htty : ReadableSat id (recoverAbsentBoundaryVt host r .recovered) w (Following id
      (fun _ => .require host.logindOwnerSameAtEnd .logindOwnerChanged) (finalizeStartup id)) ↔
        TtySound host r :=
    readableSat_confirmDefaultTtyContext_iff h (failsSafely_following hresult)
      endsAbsent_finalizeStartup
  have hneeds : ReadableSat id (recoverAbsentBoundaryVt host r .needsRecovery) w (Following id
      (fun _ => .require host.logindOwnerSameAtEnd .logindOwnerChanged) (finalizeStartup id)) ↔
        ∀ boot, host.bootIdAtVt = some boot → bootIdentityValid boot = true →
          VtSound host r boot := by
    have hresult' := failsSafely_following (f := fun _ : Unit => (Attempt.require
      host.logindOwnerSameAtEnd .logindOwnerChanged : StartupResult Unit)) hresult
    refine (readableSat_okOr_iff h hresult').trans (forall_congr' fun boot =>
      forall_congr' fun _ => ?_)
    refine (readableSat_require_iff h hresult').trans (forall_congr' fun _ => ?_)
    refine (readableSat_okOr_iff h hresult').trans ?_
    have hsome : RecoveryStateSnapshot.fromRecord boot r = some ⟨r, boot⟩ :=
      if_pos h.readable.createdBoot
    simp only [hsome, Option.some.injEq, forall_eq']
    exact readableSat_absentVt_iff h hresult' hvt hvalid endsAbsent_finalizeStartup
  constructor
  · intro hall
    exact ⟨fun hstate => htty.mp (readableSat_bind_iff.mp (hall _ hstate)),
      fun hstate => hneeds.mp (readableSat_bind_iff.mp (hall _ hstate))⟩
  · rintro ⟨hrecovered, hrecover⟩ state hstate
    cases state with
    | recovered => exact readableSat_bind_iff.mpr (htty.mpr (hrecovered hstate))
    | needsRecovery => exact readableSat_bind_iff.mpr (hneeds.mpr (hrecover hstate))

theorem readableSat_releaseAndSettle_iff {group : String}
    (h : OpenRecord id current w) (hadv : Advanced r k done current)
    (hbefore : ∀ op ∈ done, validationOrder.idxOf op <
      validationOrder.idxOf DurableOperation.supervisorUnref) :
    ReadableSat id (do
        let (snapshot, authorized) ← releasePin host current.snapshot (current.pinOn group)
          (.fromVerifiedBoundary current.snapshot (current.pinOn group))
        reconcileLogindAndVt host snapshot authorized : StartupResult Unit) w
      (finalizeStartup id) ↔
      (group = r.controlGroup.getD "" → r.Takes (k + 1) →
        IdFits r.operationLedger done .supervisorUnref (r.sequence + k + 1) ∧
          (host.unrefDone = true → r.Takes (k + 2) →
            LogindSound host r (k + 2) (.supervisorUnref :: done))) := by
  have hgroup : current.controlGroup = r.controlGroup := by
    rw [hadv.record]
    rfl
  have hresult : FailsSafely id (finalizeStartup id) := failsSafely_finalizeStartup
  rw [← hgroup]
  refine readableSat_bind_iff.trans (readableSat_releasePin_iff _ h hadv hbefore
    (failsSafely_following hresult) fun next w' authorized hw' hnext hstale => ?_)
  refine readableSat_logindAndVt_iff hw' hnext (fun op hop => ?_) hresult hstale
    fun k' done' current' w'' hw'' hadv' hres => ?_
  · rcases List.mem_cons.mp hop with rfl | hop
    · decide
    · exact Nat.lt_trans (hbefore op hop) (by decide)
  · exact readableSat_finalizeOrQuarantine_iff hw'' hadv' hres

def releaseAndSettle (host : SameBootHost) (snapshot : RecoveryStateSnapshot)
    (pin : RecoveryPinnedInvocationUnit) (proof : RecoveryBoundaryEmptyProof) :
    StartupResult Unit := do
  let (snapshot, authorized) ← releasePin host snapshot pin proof
  reconcileLogindAndVt host snapshot authorized

def proveAndSettle (host : SameBootHost) (snapshot : RecoveryStateSnapshot)
    (pin : RecoveryPinnedInvocationUnit) :
    StartupResult (RecoveryStateSnapshot × RecoveryPinnedInvocationUnit ×
      RecoveryBoundaryEmptyProof) := do
  .require (host.leader ≠ .originalStillAlive) .leaderIdentityIndeterminate
  .require host.proofOwnerStable .systemdOwnerChanged
  let proof ← startupBoundaryProof host snapshot pin
  pure (snapshot, pin, proof)

theorem readableSat_proveAndSettle_iff {group : String} (h : OpenRecord id current w)
    (hadv : Advanced r k done current)
    (hbefore : ∀ op ∈ done, validationOrder.idxOf op <
      validationOrder.idxOf DurableOperation.supervisorUnref) :
    ReadableSat id (proveAndSettle host current.snapshot (current.pinOn group)) w
      (Following id (fun x => releaseAndSettle host x.1 x.2.1 x.2.2) (finalizeStartup id)) ↔
      UnrefSound host r group k done := by
  have hresult : FailsSafely id (Following id (fun x : RecoveryStateSnapshot ×
      RecoveryPinnedInvocationUnit × RecoveryBoundaryEmptyProof =>
        releaseAndSettle host x.1 x.2.1 x.2.2) (finalizeStartup id)) :=
    failsSafely_following failsSafely_finalizeStartup
  refine (readableSat_require_iff h hresult).trans ?_
  unfold UnrefSound
  rw [decide_eq_true_eq]
  refine forall_congr' fun _ => ?_
  refine (readableSat_require_iff h hresult).trans (forall_congr' fun _ => ?_)
  refine readableSat_bind_iff.trans ((readableSat_check_iff h
    (failsSafely_following hresult)).trans ?_)
  refine Iff.trans (forall_congr' fun _ => forall_congr' fun _ => ?_) forall_ok_iff
  refine (readableSat_require_iff h (failsSafely_following hresult)).trans
    ((imp_iff_right (snapshot_validates current)).trans ?_)
  exact readableSat_releaseAndSettle_iff h hadv hbefore

theorem readableSat_withPin_iff {group : String} (h : OpenRecord id r w) :
    ReadableSat id (reconcileWithPin host r.snapshot (r.pinOn group)) w (finalizeStartup id) ↔
      PinSound host r group := by
  have hresult : FailsSafely id (Following id (fun x : RecoveryStateSnapshot ×
      RecoveryPinnedInvocationUnit × RecoveryBoundaryEmptyProof =>
        releaseAndSettle host x.1 x.2.1 x.2.2) (finalizeStartup id)) :=
    failsSafely_following failsSafely_finalizeStartup
  have hprogram : ReadableSat id (reconcileWithPin host r.snapshot (r.pinOn group)) w
      (finalizeStartup id) ↔ ReadableSat id (do
        let populated ← .okOr host.boundaryPopulated .boundaryIdentityChanged
        let x ← emptyPayloadBoundary host r.snapshot (r.pinOn group) populated
        proveAndSettle host x.1 x.2 : StartupResult _) w
      (Following id (fun x => releaseAndSettle host x.1 x.2.1 x.2.2) (finalizeStartup id)) :=
    readableSat_bind_iff
  refine hprogram.trans ((readableSat_okOr_iff h hresult).trans ?_)
  have hempty : ReadableSat id (proveAndSettle host r.snapshot (r.pinOn group)) w
      (Following id (fun x => releaseAndSettle host x.1 x.2.1 x.2.2) (finalizeStartup id)) ↔
        UnrefSound host r group 0 [] :=
    readableSat_proveAndSettle_iff h (Advanced.refl r) nofun
  have hpopulated : ReadableSat id (killPayload host r.snapshot (r.pinOn group)) w
      (Following id (fun x => proveAndSettle host x.1 x.2)
        (Following id (fun x => releaseAndSettle host x.1 x.2.1 x.2.2) (finalizeStartup id))) ↔
        KillSound host r group :=
    readableSat_killPayload_iff _ h (failsSafely_following hresult)
      fun current w' hw' hadv => readableSat_proveAndSettle_iff hw' hadv (by decide)
  constructor
  · intro hall
    exact ⟨fun hthere => hpopulated.mp (readableSat_bind_iff.mp (hall true hthere)),
      fun hgone => hempty.mp (hall false hgone)⟩
  · rintro ⟨hkill, hunref⟩ populated hstate
    cases populated with
    | true => exact readableSat_bind_iff.mpr (hpopulated.mpr (hkill hstate))
    | false => exact hempty.mpr (hunref hstate)

theorem rehydrate_eq_ok {identity : PayloadScopeIdentity} {pin : RecoveryPinnedInvocationUnit}
    (h : RecoveryPinnedInvocationUnit.rehydrate identity r.snapshot host.pin = .ok pin) :
    pin = r.pinOn pin.controlGroup := by
  unfold RecoveryPinnedInvocationUnit.rehydrate at h
  dsimp only at h
  split at h
  · cases h
  · split at h
    · cases h
    next hnot =>
      have hinvocation : r.invocationId = some identity.invocationId := by
        by_contra hne
        exact hnot (Or.inl hne)
      cases hpin : host.pin with
      | error e =>
        rw [hpin] at h
        cases h
      | ok group =>
        rw [hpin] at h
        cases h
        simp only [PersistentRecoveryRecord.pinOn, hinvocation, Option.getD_some]
        rfl

/-- Every write of the reconciliation of a record, and of what follows it, can be read back exactly
if the record and the host are as `RecoverySound` says. -/
theorem readableSat_reconcileSameBootRecord_iff (h : OpenRecord id r w) :
    ReadableSat id (reconcileSameBootRecord host r.snapshot) w (finalizeStartup id) ↔
      RecoverySound host r := by
  have hresult : FailsSafely id (finalizeStartup id) := failsSafely_finalizeStartup
  refine (readableSat_require_iff h hresult).trans
    ((imp_iff_right (snapshot_validates r)).trans (readableSat_bind_iff.trans ?_))
  unfold settleWorker RecoverySound
  cases host.worker with
  | originalStillAlive =>
    exact readableSat_recoverRuntimeRelease_iff h (failsSafely_following hresult)
  | pidReused => exact ⟨fun _ => trivial, fun _ => hresult _ _ _ h⟩
  | indeterminate => exact ⟨fun _ => trivial, fun _ => hresult _ _ _ h⟩
  | originalGone =>
    refine (readableSat_require_iff h hresult).trans (forall_congr' fun _ => ?_)
    refine (readableSat_check_iff h hresult).trans (forall_congr' fun identity =>
      forall_congr' fun _ => ?_)
    refine (readableSat_require_iff h hresult).trans (forall_congr' fun _ => ?_)
    cases hpin : RecoveryPinnedInvocationUnit.rehydrate identity r.snapshot host.pin with
    | ok pin =>
      have hgroup := rehydrate_eq_ok hpin
      have hwith : ReadableSat id (reconcileWithPin host r.snapshot (r.pinOn pin.controlGroup)) w
          (finalizeStartup id) ↔ PinSound host r pin.controlGroup := readableSat_withPin_iff h
      rw [← hgroup] at hwith
      refine hwith.trans ⟨fun hsound => ⟨?_, nofun⟩, fun hsound => hsound.1 pin rfl⟩
      rintro _ ⟨⟩
      exact hsound
    | error e =>
      cases e with
      | boundaryIdentityChanged =>
        exact (readableSat_absentBoundary_iff h).trans
          ⟨fun hsound => ⟨nofun, fun _ => hsound⟩, fun hsound => hsound.2 rfl⟩
      | _ => exact ⟨fun _ => ⟨nofun, nofun⟩, fun _ => hresult _ _ _ h⟩

end Record

end Stages

end Niralis
