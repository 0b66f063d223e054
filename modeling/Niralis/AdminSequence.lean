import Niralis.AdminReadable
import Niralis.LedgerRuns
import Niralis.PreviousBootProgress
import Niralis.StartupSeats

namespace Niralis
open PersistentRecoveryLedger

/-- The record's sequence, where a response carries one. -/
def RecoveryAdminResponse.sequence : RecoveryAdminResponse → Option Nat
  | retryAccepted _ sequence _ => some sequence
  | rejected _ sequence => sequence

/-- The record in memory is the one in the record's file. -/
def InStep (id : String) (l : PersistentRecoveryLedger) : Prop :=
  ∀ f, l.file id = some f → l.get id = some f.record

/-- A sequence in the response is that of the record, in memory and in a file that was in step. -/
def ReportsSequence (id : String) (l : PersistentRecoveryLedger) (response : RecoveryAdminResponse)
    (l' : PersistentRecoveryLedger) : Prop :=
  ∀ n, response.sequence = some n → ∀ r, l'.get id = some r →
    r.sequence = n ∧ (InStep id l → InStep id l')

/-- The request is answered `response` under these answers of the file system. -/
def RetryAnswered (w : AdminWorld) (host : RecoveryAdminHost) (request : RetryVtDisallocate)
    (answers : Nat → StartupAnswer) (response : RecoveryAdminResponse) (w' : AdminWorld) : Prop :=
  (recoveryAdmin host request).run AdminWorld.perform answers w 0 = (.ok response, w')

/-- Nothing turns the request away before the ioctl, and the kernel answers `EBUSY` once more. -/
def BusyAgain (w : AdminWorld) (host : RecoveryAdminHost) (request : RetryVtDisallocate) : Prop :=
  ∃ record vt, w.ledger.get request.recordId = some record ∧
    retryRefusal host request w.ledger record = none ∧ host.persistedVtIdentity = .ok vt ∧
    vtPreconditionsChanged host vt = false ∧
    (w.admission.enterQuarantineForAdmin request.recordId).1.isOk = true ∧
    record.sequence + 3 < u64Bound ∧ host.disallocateVtOnce = .error .vtDisallocateBusy

section Leaving
variable {ε α β : Type} {w : AdminWorld} {host : RecoveryAdminHost} {request : RetryVtDisallocate}

/-- What a program of the administrator's leaves when it succeeds, whatever is answered. -/
abbrev AdminLeaves (p : AdminM ε α) (w : AdminWorld) (post : α → AdminWorld → Prop) : Prop :=
  p.Sat AdminWorld.perform (fun _ _ _ => True) (fun _ _ => True) w post

theorem leaves_onRecovery {p : Attempt StartupWorld StartupRequest ε α}
    {post : α → StartupWorld → Prop} (h : Leaves (fun _ _ _ => True) p w.recovery post) :
    AdminLeaves (onRecovery p) w fun a w' => post a w'.recovery := by
  have hanswer : ∀ (w : AdminWorld) request x,
      (w.perform (.recovery request) x).1 = (w.recovery.perform request x).1 := fun _ _ _ => rfl
  have hview : ∀ (w : AdminWorld) request x,
      (w.perform (.recovery request) x).2.recovery = (w.recovery.perform request x).2 :=
    fun _ _ _ => rfl
  have hzoom : Program.Sat AdminWorld.perform (fun _ _ _ => True) (fun _ _ => True)
      (Program.zoom AdminWorld.recovery .recovery p) w
      fun result w' => Attempt.onOk post result w'.recovery :=
    Program.Sat.zoom hanswer hview (fun _ _ _ _ => trivial) (fun _ _ _ => trivial) h
  refine Program.Sat.mono hzoom fun result w' hresult => ?_
  cases result with
  | ok a => exact hresult
  | error e => trivial

/-- A write that succeeds leaves the next record in memory and in its file. -/
theorem leaves_persistAttempt (write : RecordWrite) :
    AdminLeaves (persistAttempt request write) w fun _ w' =>
      ∃ r r', w.ledger.get request.recordId = some r ∧ FollowsBy write r r' ∧
        w'.ledger.get request.recordId = some r' ∧
        ∃ inode, w'.ledger.file request.recordId = some ⟨inode, r'⟩ := by
  have hpersist : Leaves (fun _ _ _ => True)
      (persist request.recordId write () : IoResult Unit) w.recovery fun _ w' =>
        ∃ r r', w.ledger.get request.recordId = some r ∧ FollowsBy write r r' ∧
          w'.ledger.get request.recordId = some r' ∧
          ∃ inode, w'.ledger.file request.recordId = some ⟨inode, r'⟩ :=
    Attempt.sat_perform trivial fun _ _ h => write_committed h
  exact (leaves_onRecovery hpersist).mapErr

theorem leaves_ledgerCall {p : IoResult α} {e : ε} {post : α → StartupWorld → Prop}
    (h : Leaves (fun _ _ _ => True) p w.recovery post) :
    AdminLeaves (ledgerCall p e) w fun a w' => post a w'.recovery := (leaves_onRecovery h).mapErr

end Leaving

section Finalizing
variable {w : StartupWorld}

theorem leaves_markRecordResolvedTyped (snapshot : RecoveryStateSnapshot) :
    Leaves (fun _ _ _ => True) (markRecordResolvedTyped snapshot) w
      fun resolved _ => resolved.record.lifecycleId = snapshot.record.lifecycleId := by
  refine Attempt.Sat.require_bind fun _ => sat_readRecord_gives trivial fun current _ => ?_
  refine Attempt.Sat.require_bind fun _ => (Attempt.sat_trivial _ _).bind fun _ _ _ => ?_
  exact (Attempt.sat_trivial _ _).bind fun _ _ _ => sat_newSnapshot

theorem leaves_confirmRuntimeReleaseTyped (s : RecoveryStateSnapshot)
    (resolved : PersistedRecordResolved) (permit : RuntimeReleasePermit) :
    Leaves (fun _ _ _ => True) (confirmRuntimeReleaseTyped s resolved permit) w
      fun result _ => result.1.record.lifecycleId = s.record.lifecycleId := by
  refine sat_readRecord_gives trivial fun record _ => Attempt.Sat.require_bind fun _ => ?_
  refine (Attempt.sat_trivial _ _).bind fun _ w' _ => ?_
  have hrefresh : Leaves (fun _ _ _ => True) (refreshRecoverySnapshot s) w'
      fun next _ => next.record.lifecycleId = s.record.lifecycleId :=
    Attempt.Sat.require_bind fun _ => sat_newSnapshot
  refine hrefresh.bind fun next w'' hnext => sat_readLedger_gives trivial ?_
  exact Attempt.Sat.okOr_bind fun file _ => hnext

theorem leaves_removeReleasedRecord (s : RecoveryStateSnapshot) (resolved : PersistedRecordResolved)
    (confirmed : RuntimeReleaseConfirmed) (permit : RecordRemovalPermit) :
    Leaves (fun _ _ _ => True) (removeReleasedRecord s resolved confirmed permit) w
      fun _ w' => Gone s.record.lifecycleId w' := by
  refine sat_readLedger_gives trivial (Attempt.Sat.okOr_bind fun record hget => ?_)
  rw [← lifecycleId_of_get hget]
  refine Attempt.Sat.require_bind fun _ => ?_
  have hremove : Leaves (fun _ _ _ => True) (.perform (.removeResolved record.lifecycleId) ()) w
      fun _ w' => Gone record.lifecycleId w' :=
    Attempt.sat_perform trivial fun x _ h => gone_removeResolved h
  exact hremove.bind fun _ _ h => h

end Finalizing

section Retrying
variable {w : AdminWorld} {host : RecoveryAdminHost} {request : RetryVtDisallocate}

theorem leaves_readAdmin {ε α : Type} {f : AdminWorld → AdminM ε α} {post : α → AdminWorld → Prop}
    (hf : AdminLeaves (f w) w post) : AdminLeaves (readAdmin >>= f) w post := ⟨trivial, fun _ _ => hf⟩

theorem leaves_publishAdminFinalization (removed : RecordRemovedReceipt) :
    AdminLeaves (publishAdminFinalization removed) w fun _ w' => w'.ledger = w.ledger := by
  refine leaves_readAdmin (Attempt.Sat.check_bind fun receipt _ => ?_)
  refine Attempt.Sat.okOr_bind fun permit _ => Attempt.Sat.require_bind fun _ => ?_
  exact Attempt.sat_perform trivial fun _ _ _ => rfl

theorem leaves_finalizeAdminSuccess (recordId : String) (attemptId : Nat) :
    AdminLeaves (finalizeAdminSuccess host recordId attemptId) w
      fun _ w' => Gone recordId w'.recovery := by
  refine leaves_readAdmin (Attempt.Sat.okOr_bind fun record hget => ?_)
  refine Attempt.Sat.require_bind fun _ => Attempt.Sat.okOr_bind fun snapshot hsnapshot => ?_
  have hid : snapshot.record.lifecycleId = recordId := by
    rw [fromRecord_record hsnapshot]
    exact lifecycleId_of_get hget
  refine Attempt.Sat.okOr_bind fun _ _ => ?_
  refine (leaves_ledgerCall (leaves_markRecordResolvedTyped snapshot)).bind fun resolved w₁ hres => ?_
  split
  · exact (Attempt.sat_trivial _ _).bind fun _ _ _ => Attempt.sat_fail _ _ _
  · refine (leaves_ledgerCall (leaves_confirmRuntimeReleaseTyped resolved _ _)).bind
      fun result w₂ hrel => ?_
    obtain ⟨released, resolved', confirmed, permit⟩ := result
    refine (leaves_ledgerCall (leaves_removeReleasedRecord released _ _ _)).bind
      fun removed w₃ hgone => ?_
    refine (leaves_publishAdminFinalization removed).mono fun _ w₄ hw => ?_
    rw [hrel, hres, hid] at hgone
    unfold Gone at hgone ⊢
    show ∀ r ∈ w₄.ledger.records, _
    rw [hw]
    exact hgone

theorem reportsSequence_of_none {id : String} {l l' : PersistentRecoveryLedger}
    {response : RecoveryAdminResponse} (h : response.sequence = none) :
    ReportsSequence id l response l' := by
  intro n hn
  rw [h] at hn
  cases hn

theorem reportsSequence_unchanged {id : String} {l : PersistentRecoveryLedger}
    {record : PersistentRecoveryRecord} (hget : l.get id = some record) (reason : String) :
    ReportsSequence id l (reject reason (some record.sequence)) l := by
  intro n hn r hr
  cases hn
  rw [hget] at hr
  exact ⟨congrArg (·.sequence) (Option.some.inj hr).symm, fun h => h⟩

theorem leaves_retryRejected {record : PersistentRecoveryRecord}
    (hget : w.ledger.get request.recordId = some record) :
    AdminLeaves (retryRejected host request record) w fun response w' =>
      ReportsSequence request.recordId w.ledger response w'.ledger := by
  refine (leaves_persistAttempt _).bind fun _ w' ⟨r, r', hr, hfollows, hr', inode, hfile⟩ => ?_
  intro n hn r'' hr''
  cases hn
  rw [hget] at hr
  cases hr
  rw [hr'] at hr''
  cases hr''
  have hsequence := hfollows.sequence
  have hbound := hfollows.noWrap
  refine ⟨?_, fun _ f hf => ?_⟩
  · unfold saturatingAdd
    omega
  · rw [hfile] at hf
    cases hf
    exact hr'

theorem leaves_retryDisallocated (l : PersistentRecoveryLedger) (id : Nat) :
    AdminLeaves (retryDisallocated host request id) w fun response w' =>
      ReportsSequence request.recordId l response w'.ledger := by
  unfold retryDisallocated
  split
  · exact (Attempt.sat_trivial _ _).bind fun _ _ _ => reportsSequence_of_none rfl
  · refine (Attempt.sat_trivial _ _).bind fun _ _ _ => (Attempt.sat_trivial _ _).bind fun _ w' _ => ?_
    refine Program.Sat.bind (leaves_finalizeAdminSuccess request.recordId id) fun result w'' hw => ?_
    cases result with
    | error reason => exact reportsSequence_of_none rfl
    | ok _ =>
      -- the record is gone, and with it the number to compare with
      intro n _ r hr
      exact absurd (lifecycleId_of_get hr) (hw r (KeyedList.mem_of_lookup hr))

/-- The ioctl was answered `EBUSY`: three writes were made since the request's sequence. -/
theorem leaves_retryBusy (id : Nat) :
    AdminLeaves (retryBusy host request id) w fun response w' =>
      response = .retryAccepted request.recordId (saturatingAdd request.recordSequence 2) id ∧
      ∃ r r', w.ledger.get request.recordId = some r ∧ w'.ledger.get request.recordId = some r' ∧
        r'.sequence = r.sequence + 2 ∧ r'.sequence < u64Bound := by
  refine (leaves_persistAttempt _).bind fun _ w₁ ⟨r, r₁, hr, hfollows, hr₁, _⟩ => ?_
  refine (leaves_persistAttempt _).bind fun _ w₂ ⟨r₁', r₂, hr₁', hfollows', hr₂, _⟩ => ?_
  rw [hr₁] at hr₁'
  cases hr₁'
  refine ⟨rfl, r, r₂, hr, hr₂, ?_, hfollows'.noWrap⟩
  rw [hfollows'.sequence, hfollows.sequence]

theorem leaves_retryFailed (l : PersistentRecoveryLedger) (id : Nat) (error : SupervisorRecoveryError) :
    AdminLeaves (retryFailed request id error) w fun response w' =>
      ReportsSequence request.recordId l response w'.ledger :=
  (Attempt.sat_trivial _ _).bind fun _ _ _ => reportsSequence_of_none rfl

theorem leaves_recoveryAdmin (h : ¬BusyAgain w host request) :
    AdminLeaves (recoveryAdmin host request) w fun response w' =>
      ReportsSequence request.recordId w.ledger response w'.ledger := by
  refine leaves_readAdmin ?_
  split
  · exact reportsSequence_of_none rfl
  next record hget =>
    split
    · exact reportsSequence_unchanged hget _
    next hrefusal =>
      split
      · exact reportsSequence_unchanged hget _
      next vt hvt =>
        split
        · exact leaves_retryRejected hget
        next hvt' =>
          unfold retryOnce
          have henter : AdminLeaves (.perform (.enterQuarantineForAdmin request.recordId)
              .sessionSeatUnavailable : AdminM SessionError Unit) w fun _ w' => w'.ledger = w.ledger ∧
              (w.admission.enterQuarantineForAdmin request.recordId).1.isOk = true :=
            Attempt.sat_perform trivial fun _ _ hok => ⟨rfl, hok⟩
          refine henter.bind fun _ w₁ ⟨hw₁, hentered⟩ => ?_
          refine (leaves_persistAttempt _).bind fun _ w₂ ⟨r, r₂, hr, hfollows, hr₂, _⟩ => ?_
          have hissue : Leaves (fun _ _ _ => True) (issue .vtDisallocate request.recordId :
              Attempt StartupWorld StartupRequest SessionError Unit) w₂.recovery
              fun _ w' => w'.ledger.get request.recordId = some r₂ := ⟨trivial, fun _ _ => hr₂⟩
          refine (leaves_onRecovery hissue).bind fun _ w₃ hr₃ => ?_
          split
          · exact leaves_retryDisallocated _ _
          next hbusy =>
            refine (leaves_retryBusy _).mono fun response w₄ ⟨_, r₃, r₄, hr₃', _, hsequence, hbound⟩ => ?_
            have hsame : r₂ = r₃ := Option.some.inj (hr₃.symm.trans hr₃')
            subst hsame
            rw [hw₁, hget] at hr
            cases hr
            have hsequence' := hfollows.sequence
            exact absurd ⟨record, vt, hget, hrefusal, hvt, Bool.not_eq_true _ ▸ hvt', hentered, by omega,
              hbusy⟩ h
          · exact leaves_retryFailed _ _ _

end Retrying

section Taken
variable {l : PersistentRecoveryLedger} {id boot : String} {r next : PersistentRecoveryRecord}

structure Quarantined (r : PersistentRecoveryRecord) : Prop where
  valid : validateRecord r = true
  state : r.state = "quarantined"

theorem Quarantined.rewritten (h : Quarantined r) (hboot : bootIdentityValid boot = true)
    (attempts : List VtRecoveryAttempt) (provenance : Option VtBusyProvenance) :
    Quarantined (r.rewritten boot attempts provenance) := by
  refine ⟨?_, h.state⟩
  have hvalid := h.valid
  simp only [validateRecord, PersistentRecoveryRecord.rewritten, Bool.and_eq_true] at hvalid ⊢
  obtain ⟨⟨⟨⟨⟨⟨⟨⟨⟨⟨hversion, hid⟩, -⟩, hcreated⟩, hstate⟩, hseat⟩, hworker⟩, hlauncher⟩, hboot'⟩, -⟩,
    hlifecycle⟩ := hvalid
  exact ⟨⟨⟨⟨⟨⟨⟨⟨⟨⟨hversion, hid⟩, by simp⟩, hcreated⟩, hstate⟩, hseat⟩, hworker⟩, hlauncher⟩, hboot'⟩,
    hboot⟩, hlifecycle⟩

theorem transition_quarantined (hstate : r.state = "quarantined") (hbound : r.sequence + 1 < u64Bound) :
    r.transition r.state (some boot) =
      some (r.rewritten boot r.vtRecoveryAttempts r.vtBusyProvenance) := by
  have hadd : checkedAdd r.sequence 1 = some (r.sequence + 1) :=
    checkedAdd_eq_some.mpr ⟨hbound, rfl⟩
  unfold PersistentRecoveryRecord.transition
  rw [if_neg (by rw [hstate]; decide), hadd]
  rfl

theorem write_taken {write : RecordWrite} (hget : l.get id = some r)
    (happly : write.apply r (some boot) = some next) (hvalid : validateRecord next = true)
    (hid : next.lifecycleId = id) :
    (l.write id write ⟨some boot, .synced⟩).1 = true ∧
      (l.write id write ⟨some boot, .synced⟩).2.get id = some next := by
  have hwrite : l.write id write ⟨some boot, .synced⟩ =
      l.commit next (.committed write r next) .synced := by
    unfold PersistentRecoveryLedger.write
    simp only [hget, happly]
  rw [hwrite]
  unfold commit
  rw [hvalid]
  exact ⟨rfl, by simp [get_putRecord, hid]⟩

end Taken

section Busy
variable {boot : String} {w : AdminWorld} {host : RecoveryAdminHost} {request : RetryVtDisallocate}
  {r : PersistentRecoveryRecord}

/-- The disk takes every write of the administrator's. -/
abbrev AdminAttains {ε α : Type} (boot : String) (p : AdminM ε α) (w : AdminWorld)
    (post : α → AdminWorld → Prop) : Prop :=
  p.Attains AdminWorld.perform (takesAll boot) w post

theorem attains_persistAttempt {write : RecordWrite} {next : PersistentRecoveryRecord}
    (hget : w.ledger.get request.recordId = some r) (happly : write.apply r (some boot) = some next)
    (hvalid : validateRecord next = true) (hid : next.lifecycleId = request.recordId) :
    AdminAttains boot (persistAttempt request write) w
      fun _ w' => w'.ledger.get request.recordId = some next := by
  obtain ⟨hok, hnext⟩ := write_taken hget happly hvalid hid
  have hwrite : (w.perform (.recovery (.write request.recordId write)) (takesAll boot)).1 = true := hok
  refine ⟨(), (w.perform (.recovery (.write request.recordId write)) (takesAll boot)).2, ?_, hnext⟩
  show Program.run AdminWorld.perform (fun _ => takesAll boot) (.ask _ _) w 0 = _
  unfold Program.run
  rw [hwrite]
  rfl

/-- Where the disk takes every write, the retry reports one write less than it made. -/
theorem attains_retryBusy (hquarantined : Quarantined r) (hboot : bootIdentityValid boot = true)
    (hget : w.ledger.get request.recordId = some r) (hbound : r.sequence + 2 < u64Bound) {id : Nat}
    (hopen : ∃ attempts, finishAttempt id (.failed ebusy) (some host.inspectedAfter)
      r.vtRecoveryAttempts = some attempts) :
    AdminAttains boot (retryBusy host request id) w fun response w' =>
      response = .retryAccepted request.recordId (saturatingAdd request.recordSequence 2) id ∧
      ∃ r', w'.ledger.get request.recordId = some r' ∧ r'.sequence = r.sequence + 2 := by
  obtain ⟨attempts, hfinish⟩ := hopen
  have hid : r.lifecycleId = request.recordId := lifecycleId_of_get hget
  let r₁ := r.rewritten boot attempts r.vtBusyProvenance
  let r₂ := r₁.rewritten boot attempts (some host.inspectedAfter)
  have h₁ : Quarantined r₁ := hquarantined.rewritten hboot _ _
  have h₂ : Quarantined r₂ := h₁.rewritten hboot _ _
  have hedit : (RecordWrite.finishVtRecoveryAttempt id (.failed ebusy)
      (some host.inspectedAfter)).edit r = some { r with vtRecoveryAttempts := attempts } := by
    simp only [RecordWrite.edit, hfinish, Option.map_some]
  have hfinished : (RecordWrite.finishVtRecoveryAttempt id (.failed ebusy)
      (some host.inspectedAfter)).apply r (some boot) = some r₁ := by
    unfold RecordWrite.apply
    rw [hedit]
    exact transition_quarantined (r := { r with vtRecoveryAttempts := attempts }) hquarantined.state
      (by show r.sequence + 1 < u64Bound; omega)
  have hrecorded : (RecordWrite.vtBusyProvenance host.inspectedAfter).apply r₁ (some boot) = some r₂ :=
    transition_quarantined (r := { r₁ with vtBusyProvenance := some host.inspectedAfter }) h₁.state
      (by show r.sequence + 1 + 1 < u64Bound; omega)
  refine (attains_persistAttempt hget hfinished h₁.valid hid).bind fun _ w₁ hw₁ => ?_
  refine (attains_persistAttempt hw₁ hrecorded h₂.valid hid).bind fun _ w₂ hw₂ => ?_
  exact Attempt.attains_pure ⟨rfl, r₂, hw₂, rfl⟩

theorem attains_busyAgain (h : BusyAgain w host request)
    (hvalid : ∀ r, w.ledger.get request.recordId = some r → validateRecord r = true) :
    ∃ boot, AdminAttains boot (recoveryAdmin host request) w fun response w' =>
      ∃ r n, w'.ledger.get request.recordId = some r ∧ response.sequence = some n ∧
        r.sequence = n + 1 := by
  obtain ⟨r, vt, hget, hrefusal, hvt, hsame, hentered, hbound, hbusy⟩ := h
  obtain ⟨hsequence, hstate⟩ := retryRefusal_eq_none hrefusal
  have hquarantined : Quarantined r := ⟨hvalid r hget, hstate⟩
  have hboot : bootIdentityValid r.createdBootId = true := createdBoot_of_valid (hvalid r hget)
  have hid : r.lifecycleId = request.recordId := lifecycleId_of_get hget
  have hread : AdminAttains r.createdBootId (readAdmin : AdminM SessionError AdminWorld) w
      fun w' w'' => w' = w ∧ w'' = w := ⟨w, w, rfl, rfl, rfl⟩
  refine ⟨r.createdBootId, hread.bind fun w' w'' hw => ?_⟩
  rw [hw.1, hw.2, hget]
  dsimp only
  rw [hrefusal]
  dsimp only
  rw [hvt]
  dsimp only
  rw [if_neg (by rw [hsame]; decide)]
  have henter : AdminAttains r.createdBootId (.perform (.enterQuarantineForAdmin request.recordId)
      .sessionSeatUnavailable : AdminM SessionError Unit) w fun _ w' => w'.ledger = w.ledger :=
    Attempt.attains_perform hentered rfl
  refine henter.bind fun _ w₁ hw₁ => ?_
  -- the attempt is appended, and is the one that takes the result
  let a := attempt (nextAttemptId r) request.recordSequence .intentPersisted host.inspectedBefore none
  let r₁ := r.rewritten r.createdBootId (appendAttempt a r.vtRecoveryAttempts) r.vtBusyProvenance
  have h₁ : Quarantined r₁ := hquarantined.rewritten hboot _ _
  have happended : (RecordWrite.appendVtRecoveryAttempt a).apply r (some r.createdBootId) = some r₁ :=
    transition_quarantined
      (r := { r with vtRecoveryAttempts := appendAttempt a r.vtRecoveryAttempts }) hstate
      (by show r.sequence + 1 < u64Bound; omega)
  refine (attains_persistAttempt (hw₁ ▸ hget) happended h₁.valid hid).bind fun _ w₂ hw₂ => ?_
  have hissue : AdminAttains r.createdBootId (onRecovery (issue .vtDisallocate request.recordId) :
      AdminM SessionError Unit) w₂ fun _ w' => w'.ledger.get request.recordId = some r₁ :=
    ⟨(), _, rfl, hw₂⟩
  refine hissue.bind fun _ w₃ hw₃ => ?_
  rw [hbusy]
  dsimp only
  have hopen : ∃ attempts, finishAttempt a.attemptId (.failed ebusy) (some host.inspectedAfter)
      r₁.vtRecoveryAttempts = some attempts := by
    have hlast : (appendAttempt a r.vtRecoveryAttempts).getLast? = some a := by
      rw [appendAttempt_eq, List.getLast?_concat]
    exact Option.isSome_iff_exists.mp (finishAttempt_isSome _ _ hlast rfl)
  refine (attains_retryBusy h₁ hboot hw₃ (by show r.sequence + 1 + 2 < u64Bound; omega) hopen).mono
    fun response w₄ hw₄ => ?_
  obtain ⟨rfl, r', hr', hsequence'⟩ := hw₄
  refine ⟨r', _, hr', rfl, ?_⟩
  have hone : r₁.sequence = r.sequence + 1 := rfl
  unfold saturatingAdd
  omega

/-- The answer to a retry reports the record's sequence, whatever the file system answers, exactly if
the ioctl is not answered `EBUSY` once more. -/
theorem retry_reports_sequence_iff (w : AdminWorld) (host : RecoveryAdminHost)
    (request : RetryVtDisallocate)
    (hvalid : ∀ r, w.ledger.get request.recordId = some r → validateRecord r = true) :
    (∀ answers response w', RetryAnswered w host request answers response w' →
      ReportsSequence request.recordId w.ledger response w'.ledger) ↔ ¬BusyAgain w host request := by
  constructor
  · intro hreports hbusy
    obtain ⟨boot, response, w', hrun, r, n, hr, hn, hsequence⟩ := attains_busyAgain hbusy hvalid
    have := (hreports (fun _ => takesAll boot) response w' hrun n hn r hr).1
    omega
  · intro hbusy answers response w' hrun
    have hleaves := (leaves_recoveryAdmin hbusy).run
      (Program.runMeets_of_forall (fun _ _ _ => trivial) _ _ answers 0)
    unfold RetryAnswered at hrun
    rw [hrun] at hleaves
    exact hleaves

theorem retry_reports_sequence_iff_freed : busyWorld.ledger.get "worker-1" = some busyRecord ∧
    ∀ answers response w',
      RetryAnswered busyWorld (retryHost (.ok ())) busyRequest answers response w' →
        ReportsSequence busyRequest.recordId busyWorld.ledger response w'.ledger := by
  refine ⟨rfl, (retry_reports_sequence_iff busyWorld (retryHost (.ok ())) busyRequest ?_).mpr ?_⟩
  · intro r hr
    cases hr
    exact busyRecord_valid
  · rintro ⟨record, vt, -, -, -, -, -, -, hbusy⟩
    cases hbusy

/-- A retry of a terminal that is still busy reports sequence 11 and leaves the record at 12; the next
retry, with the number that was reported, is turned away as stale. -/
theorem busyAgain_reports_stale :
    ∃ w', RetryAnswered busyWorld (retryHost (.error .vtDisallocateBusy)) busyRequest
        (fun _ => takesAll "boot-1") (.retryAccepted "worker-1" 11 1) w' ∧
      (w'.ledger.get "worker-1").map (·.sequence) = some 12 ∧
      RetryAnswered w' (retryHost (.error .vtDisallocateBusy)) { busyRequest with recordSequence := 11 }
        (fun _ => takesAll "boot-1") (.rejected "record identity or sequence changed" (some 12)) w' := by
  refine ⟨_, rfl, by decide, ?_⟩
  rfl

end Busy

end Niralis
