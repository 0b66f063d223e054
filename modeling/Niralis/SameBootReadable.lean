import Niralis.SameBootWrites

namespace Niralis
open PersistentRecoveryLedger

/-- A run of the startup program up to the point where the process dies. -/
abbrev startupRun (s : StartupWorld × StartupM Unit) (answers : List StartupAnswer) :
    StartupWorld × StartupM Unit :=
  answers.foldl (Program.step StartupWorld.perform) s

def sameBootStart (l : PersistentRecoveryLedger) (host : SameBootHost) (currentBoot : String)
    (blocked conflicted : Bool) (r : PersistentRecoveryRecord) : StartupWorld × StartupM Unit :=
  ({ ledger := l }, reconcileSameBootEntry host currentBoot blocked conflicted r)

def QuarantineSound (r : PersistentRecoveryRecord) : Prop :=
  r.HasRoom 1 → r.operationLedger.runtimeRelease.isConfirmed = false ∧
    r.operationLedger.recordResolution.isConfirmed = false

/-- A resolved record is quarantined when its removal fails. -/
structure ResolvedSound (l : PersistentRecoveryLedger) (r : PersistentRecoveryRecord) : Prop where
  quarantined : QuarantineSound r
  released : r.operationLedger.runtimeRelease = .notStarted →
    (l.file r.lifecycleId).isSome = true → r.Takes 1 →
      IdFits r.operationLedger [] .runtimeRelease (r.sequence + 1) ∧ ¬ r.HasRoom 3

/-- The records and hosts on which same-boot recovery writes nothing that it cannot read back. -/
def SameBootSound (l : PersistentRecoveryLedger) (host : SameBootHost) (currentBoot : String)
    (blocked conflicted : Bool) (r : PersistentRecoveryRecord) : Prop :=
  match undecidedVtAttempt r with
  | some _ => r.Takes 1 → r.operationLedger.vtDisallocate.hasResult = true
  | none =>
    if blocked then QuarantineSound r
    else if r.state = "record_resolved" then ResolvedSound l r
    else if r.state = "cleared_by_boot_boundary" then FinalizationSound r 0 []
    else if conflicted || preservesQuarantine r && !canRetryCoherentAbsentBoundary r then True
    else currentBoot = r.createdBootId → RecoverySound host r

section Entry
variable {id : String} {r : PersistentRecoveryRecord} {w : StartupWorld} {host : SameBootHost}

theorem quarantine_reaches_iff (reason : StartupRecoveryFailure) (hvalid : validateRecord r = true)
    (hread : ReadableRecord r) :
    (∃ next, (RecordWrite.quarantine reason).Reaches r next) ↔ r.HasRoom 1 := by
  have happly : ∀ boot, (RecordWrite.quarantine reason).apply r boot =
      { r with quarantineReason := some reason.persistentReason }.transition "quarantined" boot :=
    fun boot => by
    simp only [RecordWrite.apply, RecordWrite.edit, RecordWrite.target, Option.bind_some]
  constructor
  · rintro ⟨next, boot, hnext, -⟩
    rw [happly, transition_iff] at hnext
    exact hnext.2.1
  · intro hroom
    refine ⟨{ r.advanced 1 r.operationLedger r.lastUpdatedBootId with
      state := "quarantined"
      quarantineReason := some reason.persistentReason }, r.lastUpdatedBootId, ?_, ?_⟩
    · rw [happly, transition_iff]
      exact ⟨by decide, hroom, r.lastUpdatedBootId, rfl, rfl⟩
    · exact validateRecord_withState (validateRecord_advanced hvalid hread.updatedBoot)
        (by decide)

theorem readableSat_quarantineSound_iff {reason : StartupRecoveryFailure}
    (hget : w.ledger.get id = some r) (hread : ReadableRecord r) (hvalid : validateRecord r = true) :
    ReadableSat id (quarantineStartupRecord id reason) w (fun _ _ => True) ↔ QuarantineSound r := by
  rw [readableSat_quarantine_iff hget]
  constructor
  · rintro (⟨hstate, -⟩ | hsafe) hroom
    · have hnot : r.state ≠ "record_resolved" := by
        rw [hstate]
        decide
      exact ⟨Bool.eq_false_iff.mpr fun h => hnot (hread.release h),
        Bool.eq_false_iff.mpr fun h => hnot (hread.resolution h)⟩
    · obtain ⟨next, hnext⟩ := (quarantine_reaches_iff reason hvalid hread).mpr hroom
      exact safeWrite_quarantine_iff.mp (hsafe next hnext)
  · intro hsound
    refine Or.inr fun next hnext => safeWrite_quarantine_iff.mpr (hsound ?_)
    exact (quarantine_reaches_iff reason hvalid hread).mp ⟨next, hnext⟩

theorem readableSat_openAttempt_iff {attempt : VtRecoveryAttempt}
    {next : Bool → StartupWorld → StartupM Unit} (hget : w.ledger.get id = some r)
    (hread : ReadableRecord r) (hvalid : validateRecord r = true)
    (hopen : undecidedVtAttempt r = some attempt)
    (hnext : ∀ done w', ReadableSat id (next done w') w' fun _ _ => True) :
    ReadableSat id (.ask (.write id (.finishVtRecoveryAttempt attempt.attemptId .indeterminate none))
      next) w (fun _ _ => True) ↔
      (r.Takes 1 → r.operationLedger.vtDisallocate.hasResult = true) := by
  have hlast : r.vtRecoveryAttempts.getLast? = some attempt ∧ attempt.state = .intentPersisted := by
    simpa [undecidedVtAttempt, Option.filter_eq_some_iff] using hopen
  obtain ⟨attempts, hrewrites⟩ :=
    rewrites_finish .indeterminate none hlast.1 hlast.2
  have hreaches (next) := @rewrite_reaches_iff _ next _ _ _ hrewrites hvalid
  have hsafeWrite : SafeWrite r (.finishVtRecoveryAttempt attempt.attemptId .indeterminate none) ↔
      r.operationLedger.vtDisallocate.hasResult = true := safeWrite_finish_iff hread rfl
  rw [← hsafeWrite]
  constructor
  · rintro ⟨hall, -⟩ htakes
    exact (safeStep_write_iff hget).mp hall _
      ((hreaches _).mpr ⟨htakes, _, hread.updatedBoot, rfl⟩)
  · intro hsafe
    exact ⟨(safeStep_write_iff hget).mpr fun next hnext => hsafe ((hreaches next).mp hnext).1,
      fun _ _ => hnext _ _⟩

/-- The record in memory is resolved; its file is still there. -/
structure ResolvedRecord (id : String) (r : PersistentRecoveryRecord) (w : StartupWorld) : Prop where
  memory : w.ledger.get id = some r
  disk : (w.ledger.file id).isSome = true
  readable : ReadableRecord r
  valid : validateRecord r = true
  resolved : r.state = "record_resolved"

theorem finalizeResolved_error_iff (hget : w.ledger.get id = some r) (hread : ReadableRecord r)
    (hvalid : validateRecord r = true) :
    finalizeResolved id (.error ()) w ↔ QuarantineSound r :=
  readableSat_quarantineSound_iff hget hread hvalid

theorem ResolvedRecord.fileIdentity (h : ResolvedRecord id r w) :
    ∃ inode, w.ledger.recordFileIdentity r.lifecycleId = some inode := by
  obtain rfl := lifecycleId_of_get h.memory
  have hname := lifecycleName_of_valid h.valid
  obtain ⟨f, hf⟩ := Option.isSome_iff_exists.mp h.disk
  exact ⟨f.inode, by rw [recordFileIdentity, if_pos hname, hf]; rfl⟩

def removeReleased (snapshot : RecoveryStateSnapshot) : IoResult Unit := do
  let removal ← finalizationCapabilities snapshot
  let receipt ← removeRecordTyped snapshot removal
  issueSeatFreePermit receipt

/-- Only a removal that reached the disk takes the record out of memory. -/
theorem removeResolved_outcome {l : PersistentRecoveryLedger} (hget : l.get id = some r)
    (hstate : r.state = "record_resolved") (answer : RemoveAnswer) :
    ((l.removeResolved id answer).1 = false ∧ (l.removeResolved id answer).2.get id = some r) ∨
      ((l.removeResolved id answer).1 = true ∧ (l.removeResolved id answer).2.get id = none) := by
  unfold removeResolved
  rw [hget]
  dsimp only
  rw [if_neg fun hnot => hnot.1 hstate]
  cases answer with
  | notRemoved => exact Or.inl ⟨rfl, hget⟩
  | notSynced => exact Or.inl ⟨rfl, hget⟩
  | synced => exact Or.inr ⟨rfl, KeyedList.lookup_erase_self⟩

/-- A removal that fails sends the record into quarantine; one that does not leaves nothing. -/
theorem readableSat_removeReleased_iff (h : ResolvedRecord id r w)
    (hreleased : r.operationLedger.runtimeRelease.isConfirmed = true) :
    ReadableSat id (removeReleased r.snapshot) w (finalizeResolved id) ↔ QuarantineSound r := by
  obtain ⟨inode, hidentity⟩ := h.fileIdentity
  obtain rfl := lifecycleId_of_get h.memory
  have hcondition : (r.snapshot.validates && r.state = "record_resolved" &&
      r.operationLedger.runtimeRelease.isConfirmed &&
      w.ledger.recordFileIdentity r.lifecycleId = some inode) = true := by
    simp only [Bool.and_eq_true, decide_eq_true_eq]
    exact ⟨⟨⟨snapshot_validates r, h.resolved⟩, hreleased⟩, hidentity⟩
  have hfailed : ∀ w' : StartupWorld, w'.ledger.get r.lifecycleId = some r →
      (finalizeResolved r.lifecycleId (.error ()) w' ↔ QuarantineSound r) :=
    fun w' hget => finalizeResolved_error_iff hget h.readable h.valid
  have hprogram : ReadableSat r.lifecycleId (removeReleased r.snapshot) w
      (finalizeResolved r.lifecycleId) ↔ ReadableSat r.lifecycleId (do
        .perform (.removeResolved r.lifecycleId) ()
        issueSeatFreePermit r : IoResult Unit) w (finalizeResolved r.lifecycleId) := by
    refine readableSat_bind_iff.trans (readableSat_readLedger_iff.trans ?_)
    rw [show w.ledger.recordFileIdentity r.snapshot.record.lifecycleId = some inode from hidentity]
    refine readableSat_bind_iff.trans (readableSat_readLedger_iff.trans ?_)
    rw [show w.ledger.get r.snapshot.record.lifecycleId = some r from h.memory]
    refine (Attempt.sat_require_result fun hnot =>
      absurd hcondition (Bool.eq_false_iff.mp hnot)).trans ((imp_iff_right hcondition).trans ?_)
    refine readableSat_bind_iff.trans (Iff.trans ?_ readableSat_bind_iff.symm)
    refine ⟨fun hsat => hsat.mono ?_, fun hsat => hsat.mono ?_⟩
    · rintro (e | u) w' hr
      · exact hr
      · exact hr
    · rintro (e | u) w' hr
      · exact hr
      · exact hr
  rw [hprogram]
  constructor
  · -- the removal can fail, and the record is then quarantined
    intro hsat
    have hnext := hsat.2 { write := ⟨none, .synced⟩, remove := .notRemoved } trivial
    have hkept : w.ledger.removeResolved r.lifecycleId .notRemoved = (false, w.ledger) := by
      unfold removeResolved
      rw [h.memory]
      exact if_neg fun hnot => hnot.1 h.resolved
    simp only [StartupWorld.perform, StartupWorld.onLedger, hkept] at hnext
    exact (hfailed w h.memory).mp hnext
  · intro hsound
    refine ⟨fun x => safeStep_of_not_write fun _ heq => StartupRequest.noConfusion heq,
      fun x _ => ?_⟩
    simp only [StartupWorld.perform, StartupWorld.onLedger]
    rcases removeResolved_outcome h.memory h.resolved x.remove with ⟨hok, hget⟩ | ⟨hok, hget⟩
    · simp only [hok]
      exact (hfailed _ hget).mpr hsound
    · simp only [hok]
      refine readableSat_readLedger_iff.mpr ?_
      cases hfree : !(_ : Bool) with
      | false => exact readableSat_quarantine_none hget
      | true => exact readableSat_countFree

theorem readableSat_persist_fails {ε : Type} {e : ε} {write : RecordWrite}
    {result : Except ε Unit → StartupWorld → Prop} (h : ReadableSat id (persist id write e) w result) :
    result (.error e) w := by
  have hnext := h.2 { write := ⟨none, .notRenamed⟩ } trivial
  rcases write_cases w.ledger id write ⟨none, .notRenamed⟩ with hw | ⟨_, _, -, -, -, hcommit, -⟩
  · simp only [StartupWorld.perform, StartupWorld.onLedger, hw] at hnext
    exact hnext
  · exact absurd rfl hcommit

/-- The runtime release of a resolved record is confirmed with the id of its intent. -/
theorem safeWrite_confirmRelease {a : Nat} (hread : ReadableRecord r)
    (hintent : r.operationLedger.runtimeRelease = .intentPersisted a)
    (hstate : r.state = "record_resolved") :
    SafeWrite r (.operation .runtimeRelease (.confirmed a)) :=
  safeWrite_result hread (show r.operationLedger.runtimeRelease.attemptId = _ by rw [hintent]; rfl) rfl
    ⟨fun _ => hstate, hread.resolved, hread.resolution⟩

theorem readableSat_confirmAndRemove_iff {a : Nat} (h : ResolvedRecord id r w)
    (hintent : r.operationLedger.runtimeRelease = .intentPersisted a)
    (hsound : QuarantineSound r) :
    ReadableSat id (persist id (.operation .runtimeRelease (.confirmed a)) ()) w
      (Following id (fun _ => refreshRecoverySnapshot r.snapshot)
        (Following id removeReleased (finalizeResolved id))) ↔ ¬ r.HasRoom 2 := by
  have htext : stateTextValid r.state = true := by
    rw [h.resolved]
    decide
  refine (readableSat_persist_iff (¬ r.HasRoom 2) h.memory h.readable (fun w' hget => ?_)
    fun next w' hreaches hread hget hdisk => ?_).trans ?_
  · exact (finalizeResolved_error_iff hget h.readable h.valid).mpr hsound
  · obtain ⟨-, boot, hboot, rfl⟩ := (operation_reaches_iff h.valid).mp hreaches
    refine (readableSat_refresh_iff hget hread (lifecycleId_of_get h.memory) rfl).trans ?_
    refine (readableSat_removeReleased_iff ⟨hget, hdisk, hread, validateRecord_advanced h.valid hboot,
      h.resolved⟩ rfl).trans ?_
    unfold QuarantineSound
    rw [PersistentRecoveryRecord.advanced_hasRoom]
    exact forall_congr' fun _ => iff_false_intro fun hnot => Bool.noConfusion hnot.1
  · have hsafe := safeWrite_confirmRelease h.readable hintent h.resolved
    constructor
    · intro hall hroom
      have hone : r.HasRoom 1 := Nat.lt_of_succ_lt hroom
      refine (hall (r.advanced 1 (r.operationLedger.set .runtimeRelease (.confirmed a))
        r.lastUpdatedBootId) ?_).2 hroom
      exact (operation_reaches_iff h.valid).mpr ⟨⟨hone, htext⟩, _, h.readable.updatedBoot, rfl⟩
    · exact fun hroom _ _ => ⟨hsafe, hroom⟩

theorem readableSat_releaseResolved_iff (h : ResolvedRecord id r w)
    (hfresh : r.operationLedger.runtimeRelease = .notStarted) :
    ReadableSat id (releaseForFinalization r.snapshot) w
      (Following id removeReleased (finalizeResolved id)) ↔ QuarantineSound r ∧ (r.Takes 1 →
        IdFits r.operationLedger [] .runtimeRelease (r.sequence + 1) ∧ ¬ r.HasRoom 3) := by
  obtain rfl := lifecycleId_of_get h.memory
  have hfailed : finalizeResolved r.lifecycleId (.error ()) w ↔ QuarantineSound r :=
    finalizeResolved_error_iff h.memory h.readable h.valid
  unfold releaseForFinalization
  have hnot : ¬ r.snapshot.record.operationLedger.runtimeRelease.isConfirmed = true := by
    show ¬ r.operationLedger.runtimeRelease.isConfirmed = true
    rw [hfresh]
    exact Bool.false_ne_true
  rw [if_neg hnot]
  refine readableSat_bind_iff.trans ((Attempt.sat_require_of_true (snapshot_validates r)).trans
    (readableSat_bind_iff.trans ?_))
  -- the first write can fail, which gives the quarantine's half before the write is looked at
  refine Iff.trans ⟨fun hsat => ?_, And.right⟩ (and_congr_right fun hsound => ?_)
  · have hend := readableSat_persist_fails hsat
    exact ⟨hfailed.mp hend, hsat⟩
  refine (readableSat_persist_iff (¬ r.HasRoom 3) h.memory h.readable (fun w' hget => ?_)
    fun next w' hreaches hread hget hdisk => ?_).trans ?_
  · exact (finalizeResolved_error_iff hget h.readable h.valid).mpr hsound
  · obtain ⟨-, boot, hboot, rfl⟩ := (operation_reaches_iff h.valid).mp hreaches
    refine (readableSat_newSnapshot_iff hget hread).trans (readableSat_bind_iff.trans ?_)
    refine (readableSat_confirmAndRemove_iff ⟨hget, hdisk, hread,
      validateRecord_advanced h.valid hboot, h.resolved⟩ rfl ?_).trans ?_
    · intro hroom
      have hone : r.HasRoom 1 := Nat.lt_of_succ_lt (PersistentRecoveryRecord.advanced_hasRoom.mp hroom)
      exact ⟨rfl, (hsound hone).2⟩
    · rw [PersistentRecoveryRecord.advanced_hasRoom]
  · have hintent : r.Takes 1 → (SafeWrite r (.operation .runtimeRelease
        (.intentPersisted (saturatingAdd r.sequence 1))) ↔
          IdFits r.operationLedger [] .runtimeRelease (r.sequence + 1)) := fun htakes => by
      rw [saturatingAdd_of_lt htakes.1]
      exact safeWrite_intent_iff h.readable (by omega) (fun hop => (by cases hop))
        fun hop => (by cases hop)
    constructor
    · intro hall htakes
      have hnext := hall (r.advanced 1 _ r.lastUpdatedBootId)
        ((operation_reaches_iff h.valid).mpr ⟨htakes, _, h.readable.updatedBoot, rfl⟩)
      exact hnext.imp_left (hintent htakes).mp
    · intro hsafe next hreaches
      have htakes := ((operation_reaches_iff h.valid).mp hreaches).1
      exact (hsafe htakes).imp_left (hintent htakes).mpr

theorem readableSat_resolved_iff (hget : w.ledger.get id = some r) (hread : ReadableRecord r)
    (hvalid : validateRecord r = true) (hstate : r.state = "record_resolved") :
    ReadableSat id (finalizeOrQuarantine id) w (fun _ _ => True) ↔ ResolvedSound w.ledger r := by
  obtain rfl := lifecycleId_of_get hget
  have hfailed : finalizeResolved r.lifecycleId (.error ()) w ↔ QuarantineSound r :=
    finalizeResolved_error_iff hget hread hvalid
  have hname := lifecycleName_of_valid hvalid
  have hsome : RecoveryStateSnapshot.fromRecord r.createdBootId r = some r.snapshot :=
    if_pos hread.createdBoot
  have hidentity : w.ledger.recordFileIdentity r.lifecycleId =
      (w.ledger.file r.lifecycleId).map (·.inode) := if_pos hname
  refine readableSat_finalizeStartupRecord_iff.trans ((readableSat_readRecord_iff hget).trans ?_)
  -- a release that was begun and not confirmed stops the finalization before it writes anything
  cases hready : (decide (r.operationLedger.runtimeRelease = .notStarted) ||
      r.operationLedger.runtimeRelease.isConfirmed) with
  | false =>
    have hstarted : r.operationLedger.runtimeRelease ≠ .notStarted := by
      rw [Bool.or_eq_false_iff, decide_eq_false_iff_not] at hready
      exact hready.1
    refine Iff.trans hfailed ⟨fun hsound => ⟨hsound, fun hnone => absurd hnone hstarted⟩, ?_⟩
    exact ResolvedSound.quarantined
  | true =>
    refine (Attempt.sat_require_of_true rfl).trans ?_
    refine (Attempt.sat_okOr_of_some hsome).trans (readableSat_bind_iff.trans ?_)
    unfold resolveForFinalization
    rw [if_pos (show r.snapshot.record.state = "record_resolved" from hstate)]
    refine readableSat_bind_iff.trans (readableSat_readLedger_iff.trans ?_)
    rw [show w.ledger.recordFileIdentity r.snapshot.record.lifecycleId = _ from hidentity]
    cases hfile : w.ledger.file r.lifecycleId with
    | none =>
      refine Iff.trans hfailed ⟨fun hsound => ⟨hsound, fun _ hsome => ?_⟩,
        ResolvedSound.quarantined⟩
      rw [hfile] at hsome
      cases hsome
    | some f =>
      have hresolved : ResolvedRecord r.lifecycleId r w :=
        ⟨hget, by rw [hfile]; rfl, hread, hvalid, hstate⟩
      refine readableSat_bind_iff.trans ?_
      cases hreleased : r.operationLedger.runtimeRelease.isConfirmed with
      | true =>
        unfold releaseForFinalization
        rw [if_pos (show r.snapshot.record.operationLedger.runtimeRelease.isConfirmed = true from
          hreleased)]
        refine (readableSat_removeReleased_iff hresolved hreleased).trans
          ⟨fun hsound => ⟨hsound, fun hnone => ?_⟩, ResolvedSound.quarantined⟩
        rw [hnone] at hreleased
        cases hreleased
      | false =>
        have hfresh : r.operationLedger.runtimeRelease = .notStarted := by
          rwa [hreleased, Bool.or_false, decide_eq_true_eq] at hready
        refine (readableSat_releaseResolved_iff hresolved hfresh).trans ⟨fun hsound => ?_, fun hsound => ?_⟩
        · exact ⟨hsound.1, fun _ _ => hsound.2⟩
        · exact ⟨hsound.quarantined, hsound.released hfresh hresolved.disk⟩

theorem readableSat_throughProvider_iff {currentBoot : String} (h : OpenRecord r.lifecycleId r w) :
    ReadableSat r.lifecycleId (reconcileThroughProvider host currentBoot r) w (fun _ _ => True) ↔
      (currentBoot = r.createdBootId → RecoverySound host r) := by
  refine Program.sat_bind_iff.trans (Iff.trans ⟨fun hsat => hsat.mono ?_, fun hsat => hsat.mono ?_⟩
    (b := ReadableSat r.lifecycleId (reconcileSameBootRecord host ⟨r, currentBoot⟩) w
      (finalizeStartup r.lifecycleId)) ?_)
  · rintro (e | a) w' hr
    · exact hr
    · exact hr
  · rintro (e | a) w' hr
    · exact hr
    · exact hr
  · by_cases hboot : currentBoot = r.createdBootId
    · rw [hboot, imp_iff_right rfl]
      exact readableSat_reconcileSameBootRecord_iff h
    · refine iff_of_true ?_ fun hsame => absurd hsame hboot
      have hnot : ¬ (⟨r, currentBoot⟩ : RecoveryStateSnapshot).validates = true :=
        fun hvalidates => hboot (of_decide_eq_true hvalidates)
      refine (readableSat_require_iff h failsSafely_finalizeStartup).mpr fun hvalidates => ?_
      exact absurd hvalidates hnot

theorem readableSat_entry_iff {currentBoot : String} {blocked conflicted : Bool}
    (hget : w.ledger.get id = some r) (hread : ReadableRecord r) (hvalid : validateRecord r = true) :
    ReadableSat id (reconcileSameBootEntry host currentBoot blocked conflicted r) w
      (fun _ _ => True) ↔ SameBootSound w.ledger host currentBoot blocked conflicted r := by
  obtain rfl := lifecycleId_of_get hget
  unfold reconcileSameBootEntry SameBootSound
  cases hopen : undecidedVtAttempt r with
  | some attempt =>
    exact readableSat_openAttempt_iff hget hread hvalid hopen fun _ _ => readableSat_countQuarantined
  | none =>
    dsimp only
    split
    · exact readableSat_quarantineSound_iff hget hread hvalid
    · by_cases hresolved : r.state = "record_resolved"
      · rw [if_pos (Or.inl hresolved), if_pos hresolved]
        exact readableSat_resolved_iff hget hread hvalid hresolved
      · have hrecord : OpenRecord r.lifecycleId r w := ⟨hget, hread, hvalid, hresolved⟩
        rw [if_neg hresolved]
        by_cases hcleared : r.state = "cleared_by_boot_boundary"
        · rw [if_pos (Or.inr hcleared), if_pos hcleared]
          exact readableSat_finalizeOrQuarantine_iff hrecord (Advanced.refl r) nofun
        · rw [if_neg (not_or.mpr ⟨hresolved, hcleared⟩), if_neg hcleared]
          cases conflicted with
          | true => exact iff_of_true (readableSat_quarantine hget hread hresolved) trivial
          | false =>
            rw [if_neg Bool.false_ne_true, Bool.false_or]
            split
            · exact iff_of_true readableSat_countQuarantined trivial
            · exact readableSat_throughProvider_iff hrecord

end Entry

/-- Same-boot recovery leaves only readable records on disk, whatever the file system answers and
wherever it is cut off, exactly on these records and hosts. -/
theorem sameBoot_readable_iff (l : PersistentRecoveryLedger) (host : SameBootHost)
    (currentBoot : String) (blocked conflicted : Bool) (r : PersistentRecoveryRecord)
    (hr : LoadedRecord l r) (hvalid : validateRecord r = true) :
    (∀ answers f, (startupRun (sameBootStart l host currentBoot blocked conflicted r)
        answers).1.ledger.file r.lifecycleId = some f → validateHistoricalRecord f.record = []) ↔
      SameBootSound l host currentBoot blocked conflicted r := by
  have hread : ReadableRecord r := (validateHistoricalRecord_eq_nil r).mp hr.noViolation
  have hruns : (∀ answers f, (startupRun (sameBootStart l host currentBoot blocked conflicted r)
      answers).1.ledger.file r.lifecycleId = some f → validateHistoricalRecord f.record = []) ↔
        ReadableSat r.lifecycleId (reconcileSameBootEntry host currentBoot blocked conflicted r)
          { ledger := l } fun _ _ => True := by
    simp only [validateHistoricalRecord_eq_nil]
    exact (safeStep_admitsReadable r.lifecycleId).sat_iff hr.readable
  exact hruns.trans (readableSat_entry_iff hr.memory hread hvalid)

section WorkerOutlivesSupervisor

def startedRecord : PersistentRecoveryRecord where
  lifecycleId := "worker-1"
  sequence := 3
  createdBootId := "boot-1"
  lastUpdatedBootId := "boot-1"
  state := "started"
  uid := 1000
  seat := "seat0"
  workerPid := 100
  launcherPid := 99
  leaderPid := some 101

def startedLedger : PersistentRecoveryLedger :=
  { records := [startedRecord], files := [⟨1, startedRecord⟩] }

/-- The worker is still alive, exits on SIGTERM, and nothing else can be asked. -/
def obedientWorkerHost : SameBootHost where
  worker := .originalStillAlive
  exitsOnSigterm := true
  workerAfterSigterm := .originalGone
  exitsOnSigkill := false
  leader := .indeterminate
  ownerWatches := false
  pin := .error .busUnavailable
  absentBoundary := .error .systemdOwnerChanged
  boundaryPopulated := none
  payloadOwnerStable := false
  emergencyKill := .refused
  ownerAfterKill := false
  boundaryEmptied := .error .systemdOwnerChanged
  proofOwnerStable := false
  boundaryProof := .error .systemdOwnerChanged
  unrefOwnerValid := false
  unref := .refused
  logindOwnerStable := false
  logindOwner := false
  sessionExists := none
  session := none
  logindAuthorized := false
  terminate := .refused
  logindAuthorizedAfter := false
  logindOwnerSame := false
  vtState := none
  bootIdAtVt := none
  ttyContextRestored := false
  vtOwnerStable := false
  vtRecover := .refused
  vtProvenance := ⟨3, some 2, some false, .kernelBusyUnattributed⟩
  logindOwnerSameAtEnd := false

def writesSucceed : StartupAnswer := { write := { bootId := some "boot-1" } }

theorem startedLedger_loaded : LoadedRecord startedLedger startedRecord := by
  refine ⟨rfl, fun f hf => ?_, ?_⟩
  · have : f = ⟨1, startedRecord⟩ := (Option.some.inj hf).symm
    rw [this]
  · exact (validateHistoricalRecord_eq_nil _).mpr
      (readable_of_untouched rfl rfl (by decide) (by decide) (by decide))

/-- The confirmed runtime release of a record that is not resolved is a violation. -/
theorem obedientWorker_unreadable :
    LoadedRecord startedLedger startedRecord ∧ validateRecord startedRecord = true ∧
      ¬ ∀ answers f, (startupRun (sameBootStart startedLedger obedientWorkerHost "boot-1" false false
          startedRecord) answers).1.ledger.file startedRecord.lifecycleId = some f →
        validateHistoricalRecord f.record = [] := by
  refine ⟨startedLedger_loaded, by decide, fun h => ?_⟩
  have hread := (validateHistoricalRecord_eq_nil _).mp (h [writesSucceed, writesSucceed] _ rfl)
  exact absurd (hread.release rfl) (by decide)

def payloadRecord : PersistentRecoveryRecord := { startedRecord with
  payloadUnit := some "niralis-payload-1.scope"
  transient := some true
  invocationId := some "0123456789abcdef0123456789abcdef"
  controlGroup := some "/user.slice/user-1000.slice/niralis-payload-1.scope"
  logindSessionId := some "c1" }

def payloadLedger : PersistentRecoveryLedger :=
  { records := [payloadRecord], files := [⟨1, payloadRecord⟩] }

/-- Worker and leader are gone, the payload is not; logind was restarted. -/
def orphanedPayloadHost : SameBootHost := { obedientWorkerHost with
  worker := .originalGone
  leader := .originalGone
  ownerWatches := true
  pin := .ok "/user.slice/user-1000.slice/niralis-payload-1.scope"
  boundaryPopulated := some true
  payloadOwnerStable := true
  emergencyKill := .called (.ok ()) true
  ownerAfterKill := true
  boundaryEmptied := .ok ()
  proofOwnerStable := true
  boundaryProof := .ok ()
  unrefOwnerValid := true
  unref := .answered (.ok ()) true }

/-- The payload is killed, its unit released, and the record quarantined. -/
theorem orphanedPayload_readable :
    let s := startupRun (sameBootStart payloadLedger orphanedPayloadHost "boot-1" false false
      payloadRecord) (List.replicate 13 writesSucceed)
    s.2.pending = none ∧ ∃ f, s.1.ledger.file "worker-1" = some f ∧
      f.record.state = "quarantined" ∧ validateHistoricalRecord f.record = [] := by
  intro s
  have hloaded : LoadedRecord payloadLedger payloadRecord := by
    refine ⟨rfl, fun f hf => ?_, (validateHistoricalRecord_eq_nil _).mpr ?_⟩
    · cases hf
      rfl
    · exact readable_of_untouched rfl rfl (by decide) (by decide) (by decide)
  have hfits : ∀ done op a, IdFits payloadRecord.operationLedger done op a := by
    intro done op a op' _ b hb
    cases op' <;> cases hb
  have hsound : RecoverySound orphanedPayloadHost payloadRecord := by
    rintro - identity - -
    refine ⟨fun pin _ => ⟨fun _ _ _ _ => ?_, fun hgone => by cases hgone⟩, fun _ _ habsent => ?_⟩
    · refine ⟨hfits _ _ _, fun _ _ _ _ _ _ _ _ => ⟨hfits _ _ _, fun _ _ hlogind => ?_⟩⟩
      cases hlogind
    · cases habsent
  have hreadable := (sameBoot_readable_iff _ orphanedPayloadHost "boot-1" false false payloadRecord
    hloaded (by decide)).mpr fun _ => hsound
  have hend : ∃ f, s.1.ledger.file "worker-1" = some f ∧ f.record.state = "quarantined" :=
    ⟨_, rfl, rfl⟩
  obtain ⟨f, hfile, hstate⟩ := hend
  exact ⟨by decide +kernel, f, hfile, hstate, hreadable _ f hfile⟩

end WorkerOutlivesSupervisor

end Niralis
