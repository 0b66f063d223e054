import Niralis.LedgerFiles
import Niralis.PrecommitRuntime
import Niralis.Runs
import Niralis.SeatAdmission

namespace Niralis.PrecommitLease
open FileReplacement JsonText RecoveryDirectory

def nullable {α : Type} (text : α → List Char) (value : Option α) : List Char :=
  value.elim "null".toList text

def boolean (value : Bool) : List Char := (toString value).toList

def recordJson (r : PreCommitRuntimeRecord) : List Char :=
  braced [("format_version", decimal r.formatVersion), ("transaction_id", quoted r.transactionId),
    ("admission_attempt_id", decimal r.admissionAttemptId), ("lifecycle_id", quoted r.lifecycleId),
    ("seat", quoted r.seat), ("seat_generation", decimal r.seatGeneration),
    ("boot_id", quoted r.bootId), ("stage", quoted r.stage),
    ("worker_pid", nullable decimal r.workerPid),
    ("worker_starttime", nullable decimal r.workerStarttime),
    ("worker_executable",
      nullable (fun exe => bracketed [decimal exe.1, decimal exe.2]) r.workerExecutable),
    ("channel_worker_id", nullable quoted r.channelWorkerId), ("sequence", decimal r.sequence),
    ("handoff_committed", boolean r.handoffCommitted)]

/-- A file of the runtime directory. All of them are on one device and have one link. -/
structure RuntimeFile where
  inode : Nat
  bytes : List UInt8

structure RuntimeAuthority where
  lifecycleId : String
  seatGeneration : Nat
  bootId : String
  sequence : Nat
  inode : Nat
  deriving DecidableEq, Repr

/-- `PreCommitRuntimeBinding`: the record as it was last written, and the file it is in. -/
structure RuntimeBinding where
  authority : RuntimeAuthority
  record : PreCommitRuntimeRecord
  deriving DecidableEq, Repr

/-- What a lease shows of its binding to the seat's controller. -/
def RuntimeBinding.summary (b : RuntimeBinding) : PreCommitRuntimeBinding where
  lifecycleId := b.authority.lifecycleId
  stage := b.record.stage
  sequence := b.record.sequence
  handoffCommitted := b.record.handoffCommitted

structure SeenWorker where
  pid : Nat
  starttime : Option Nat
  executable : Option (Nat × Nat)
  deriving DecidableEq, Repr

inductive RuntimeEdit
  | stage (stage : String) (workerId : Option String) (worker : Option SeenWorker)
  | handoffCommitted
  deriving DecidableEq, Repr

def RuntimeEdit.apply : RuntimeEdit → PreCommitRuntimeRecord → PreCommitRuntimeRecord
  | stage reached workerId worker, r =>
    let r := { r with stage := reached, channelWorkerId := workerId.or r.channelWorkerId }
    match worker with
    | none => r
    | some w => { r with
        workerPid := some w.pid, workerStarttime := w.starttime, workerExecutable := w.executable }
  | handoffCommitted, r => { r with stage := "handoff_started", handoffCommitted := true }

/-- How the calls of one update end: the lock of the process store, the look at the record's file,
the file operations of the commit with the inode of the new file, and the look at that file. -/
structure UpdateAnswers where
  locked : Bool := true
  identityRead : Bool := true
  fault : Option Fault := none
  inode : Nat
  bindingRead : Bool := true

structure RemovalAnswers where
  locked : Bool := true
  identityRead : Bool := true
  removal : RecordRemoval := .removed

/-- `PreCommitRuntimeStore`, with the files of its directory. -/
structure RuntimeStore where
  records : PrecommitRecords := .empty
  files : KeyedTable (List UInt8) RuntimeFile := .empty

namespace RuntimeStore

def recordFile (s : RuntimeStore) (lifecycleId : String) : Option RuntimeFile :=
  s.files.get (recordName lifecycleId)

def bindingFor (s : RuntimeStore) (r : PreCommitRuntimeRecord) (read : Bool) :
    Option RuntimeAuthority :=
  if !PreCommitRuntimeRecord.validateLifecycleId r.lifecycleId || !read then none
  else (s.recordFile r.lifecycleId).map fun file =>
    { lifecycleId := r.lifecycleId, seatGeneration := r.seatGeneration, bootId := r.bootId,
      sequence := r.sequence, inode := file.inode }

/-- `ensure_current_authority`, with whether it is `Ok`. -/
def ensureCurrentAuthority (s : RuntimeStore) (b : RuntimeBinding) (identityRead : Bool) : Bool :=
  match s.records.get b.record.lifecycleId with
  | none => false
  | some current =>
    if current.sequence ≠ b.authority.sequence ∨
        current.seatGeneration ≠ b.authority.seatGeneration ∨
        current.bootId ≠ b.authority.bootId then false
    else if !PreCommitRuntimeRecord.validateLifecycleId b.record.lifecycleId || !identityRead then
      false
    else (s.recordFile b.record.lifecycleId).any (·.inode = b.authority.inode)

def replaceRecord (s : RuntimeStore) (r : PreCommitRuntimeRecord) (fault : Option Fault)
    (inode : Nat) : Bool × KeyedTable (List UInt8) RuntimeFile :=
  replace s.files (temporaryName r.lifecycleId) (recordName r.lifecycleId) (RuntimeFile.mk inode)
    (bytes (recordJson r)) fault

def commit (s : RuntimeStore) (r : PreCommitRuntimeRecord) (fault : Option Fault) (inode : Nat) :
    Bool × RuntimeStore :=
  if !r.validate then (false, s)
  else if maxPrecommitRecordBytes < (bytes (recordJson r)).length then (false, s)
  else
    let (ok, files) := s.replaceRecord r fault inode
    if ok then (true, { records := s.records.insert r, files }) else (false, { s with files })

/-- The record is committed and bound to the file it is then in. -/
def commitBinding (s : RuntimeStore) (r : PreCommitRuntimeRecord) (answers : UpdateAnswers) :
    Option RuntimeBinding × RuntimeStore :=
  match s.commit r answers.fault answers.inode with
  | (false, s) => (none, s)
  | (true, s) => ((s.bindingFor r answers.bindingRead).map (⟨·, r⟩), s)

def createReserved (s : RuntimeStore) (lifecycleId : String) (attemptId : Nat) (seat : String)
    (seatGeneration : Nat) (bootId : Option String) (answers : UpdateAnswers) :
    Option RuntimeBinding × RuntimeStore :=
  if (s.records.get lifecycleId).isSome then (none, s)
  else match bootId with
    | none => (none, s)
    | some bootId =>
      let record : PreCommitRuntimeRecord :=
        { formatVersion := precommitFormatVersion, transactionId := lifecycleId,
          admissionAttemptId := attemptId, lifecycleId, seat, seatGeneration, bootId,
          stage := "reserved", workerPid := none, workerStarttime := none,
          workerExecutable := none, channelWorkerId := none, sequence := 0,
          handoffCommitted := false }
      s.commitBinding record answers

/-- `update_stage` and `mark_handoff_committed` -/
def update (s : RuntimeStore) (b : RuntimeBinding) (edit : RuntimeEdit) (answers : UpdateAnswers) :
    Option RuntimeBinding × RuntimeStore :=
  if !s.ensureCurrentAuthority b answers.identityRead then (none, s)
  else match s.records.get b.record.lifecycleId with
    | none => (none, s)
    | some current =>
      match checkedAdd current.sequence 1 with
      | none => (none, s)
      | some sequence => s.commitBinding (edit.apply { current with sequence }) answers

def remove (s : RuntimeStore) (b : RuntimeBinding) (answers : RemovalAnswers) :
    Bool × RuntimeStore :=
  if !s.ensureCurrentAuthority b answers.identityRead then (false, s)
  else match answers.removal with
    | .notRemoved => (false, s)
    | .notSynced => (false, { s with files := s.files.remove (recordName b.record.lifecycleId) })
    | .removed =>
      (true, ⟨s.records.remove b.record.lifecycleId,
        s.files.remove (recordName b.record.lifecycleId)⟩)

end RuntimeStore

/-- The capability that a transaction holds for its seat. -/
inductive HeldLease
  | reserved
  | pending
  | committed
  deriving DecidableEq, Repr

/-- A login transaction with its lease, the seat's controller and the process store, if there is
one. `precommitRuntime` is the field of that name of whichever lease is held. -/
structure LeaseTransaction where
  seat : String
  attemptId : Nat
  lifecycleId : String
  generation : Nat
  previousVt : PreviousVtIdentity
  held : Option HeldLease
  precommitRuntime : Option RuntimeBinding
  controller : SeatAdmissionController
  store : Option RuntimeStore

/-- `reserve_seat`, from the look at the recovery state on. -/
def reserveSeat (controller : SeatAdmissionController) (store : Option RuntimeStore)
    (lifecycleId : String) (recovery : RecoveryAdmissionState) (previousVt : PreviousVtIdentity)
    (bootId : Option String) (answers : UpdateAnswers) : Option LeaseTransaction :=
  if !controller.isFree then none
  else match controller.reserve lifecycleId recovery previousVt with
    | (.error _, _) => none
    | (.ok lease, controller) =>
      let t : LeaseTransaction :=
        { seat := lease.seat, attemptId := lease.attemptId, lifecycleId := lease.lifecycleId,
          generation := lease.generation, previousVt, held := some .reserved,
          precommitRuntime := none, controller, store := none }
      match store with
      | none => some t
      | some store =>
        if !answers.locked then none
        else match store.createReserved lifecycleId lease.attemptId lease.seat lease.generation
            bootId answers with
          | (none, _) => none
          | (some binding, store) =>
            if binding.authority.lifecycleId ≠ lease.lifecycleId then none
            else some { t with precommitRuntime := some binding, store := some store }

namespace LeaseTransaction

def reservedLease (t : LeaseTransaction) : AdmissionLease where
  seat := t.seat
  attemptId := t.attemptId
  lifecycleId := t.lifecycleId
  generation := t.generation
  previousVt := t.previousVt
  precommitRuntime := t.precommitRuntime.map (·.summary)

def pendingLease (t : LeaseTransaction) : PendingLifecycleLease where
  seat := t.seat
  attemptId := t.attemptId
  lifecycleId := t.lifecycleId
  generation := t.generation
  precommitRuntime := t.precommitRuntime.map (·.summary)

def receipt (t : LeaseTransaction) : LaunchCommitReceipt where
  seat := t.seat
  attemptId := t.attemptId
  lifecycleId := t.lifecycleId
  generation := t.generation
  precommitRuntime := t.precommitRuntime.map (·.summary)

def recordFile (t : LeaseTransaction) : Option RuntimeFile :=
  t.store.bind (·.recordFile t.lifecycleId)

/-- `update_precommit_runtime` and `mark_precommit_handoff_committed`, with whether they are `Ok`.
The binding is taken out of the lease and put back by the last statement. -/
def updateRuntime (t : LeaseTransaction) (edit : RuntimeEdit) (answers : UpdateAnswers) :
    Bool × LeaseTransaction :=
  match t.precommitRuntime with
  | none => (true, t)
  | some binding =>
    let t := { t with precommitRuntime := none }
    match t.store with
    | none => (false, t)
    | some store =>
      if !answers.locked then (false, t)
      else match store.update binding edit answers with
        | (none, store) => (false, { t with store := some store })
        | (some binding, store) =>
          (true, { t with precommitRuntime := some binding, store := some store })

def removeRuntime (t : LeaseTransaction) (answers : RemovalAnswers) : Bool × LeaseTransaction :=
  match t.precommitRuntime with
  | none => (true, t)
  | some binding =>
    let t := { t with precommitRuntime := none }
    match t.store with
    | none => (false, t)
    | some store =>
      if !answers.locked then (false, t)
      else
        let (removed, store) := store.remove binding answers
        (removed, { t with store := some store })

end LeaseTransaction

/-- What is done with the lease of a transaction, and what others do to the seat meanwhile. -/
inductive LeaseOp
  | updateStage (stage : String) (workerId : Option String) (worker : Option SeenWorker)
    (answers : UpdateAnswers)
  | promote (recovery : RecoveryAdmissionState)
  | commit (recovery : RecoveryAdmissionState)
  | markHandoffCommitted (answers : UpdateAnswers)
  | promoteToRunning (answers : RemovalAnswers)
  | cancel (answers : RemovalAnswers)
  | seatChanged (controller : SeatAdmissionController)

namespace LeaseTransaction

def dropped (t : LeaseTransaction) : LeaseTransaction :=
  { t with held := none, precommitRuntime := none }

/-- `SeatAdmissionController::cancel`, with whether it is `Ok`. -/
def cancelLease (t : LeaseTransaction) (lease : AdmissionRollbackLease) (answers : RemovalAnswers) :
    Bool × LeaseTransaction :=
  if !t.controller.matchesRollback lease then (false, t.dropped)
  else
    let (removed, t') := t.removeRuntime answers
    match t.controller.cancel lease removed with
    | (.error _, controller) => (false, { t'.dropped with controller })
    | (.ok (), controller) => (true, { t'.dropped with controller })

/-- One operation, with whether it is `Ok`. Those that the lease at hand does not have change
nothing. -/
def step (t : LeaseTransaction) : LeaseOp → Bool × LeaseTransaction
  | .updateStage stage workerId worker answers =>
    if t.held = some .reserved then t.updateRuntime (.stage stage workerId worker) answers
    else (false, t)
  | .promote recovery =>
    if t.held = some .reserved then
      match t.controller.promote t.reservedLease recovery with
      | (.error _, controller) => (false, { t with controller })
      | (.ok _, controller) => (true, { t with held := some .pending, controller })
    else (false, t)
  | .commit recovery =>
    if t.held = some .pending then
      match t.controller.commit t.pendingLease recovery with
      | (.error _, controller) => (false, { t with controller })
      | (.ok _, controller) => (true, { t with held := some .committed, controller })
    else (false, t)
  | .markHandoffCommitted answers =>
    if t.held = some .committed then t.updateRuntime .handoffCommitted answers else (false, t)
  | .promoteToRunning answers =>
    if t.held = some .committed then
      if !t.controller.matchesCommitted t.receipt then (false, t.dropped)
      else
        let (removed, t') := t.removeRuntime answers
        match t.controller.promoteCommittedToRunning t.receipt removed with
        | (.error _, controller) => (false, { t'.dropped with controller })
        | (.ok _, controller) => (true, { t'.dropped with controller })
    else (false, t)
  | .cancel answers =>
    match t.held with
    | some .reserved => t.cancelLease (.reserved t.reservedLease) answers
    | some .pending => t.cancelLease (.pending t.pendingLease) answers
    | _ => (false, t)
  | .seatChanged controller => (true, { t with controller })

end LeaseTransaction

/-- An update that fails leaves the binding, and a lease that is given back or used up leaves no
record. -/
def BindingKept (t : LeaseTransaction) (op : LeaseOp) : Prop :=
  match op with
  | .updateStage _ _ _ _ => (t.step op).1 = false →
    (t.step op).2.precommitRuntime = t.precommitRuntime
  | .markHandoffCommitted _ => (t.step op).1 = false →
    (t.step op).2.precommitRuntime = t.precommitRuntime
  | .promoteToRunning _ => (t.step op).1 = true → (t.step op).2.recordFile = none
  | .cancel _ => (t.step op).1 = true → (t.step op).2.recordFile = none
  | _ => True

/-- The record passes the checks that come before the first file operation. -/
def Writable (r : PreCommitRuntimeRecord) : Prop :=
  r.validate = true ∧ (bytes (recordJson r)).length ≤ maxPrecommitRecordBytes

def RuntimeEdit.next (edit : RuntimeEdit) (current : PreCommitRuntimeRecord) :
    PreCommitRuntimeRecord :=
  edit.apply { current with sequence := current.sequence + 1 }

/-- The store takes the update of its record `current`: the binding is of this record and its file,
the new record can be written, no temporary file is in the way, and no call to the system fails. -/
structure UpdateTaken (s : RuntimeStore) (b : RuntimeBinding) (edit : RuntimeEdit)
    (answers : UpdateAnswers) (current : PreCommitRuntimeRecord) : Prop where
  authority : s.ensureCurrentAuthority b answers.identityRead = true
  known : s.records.get b.record.lifecycleId = some current
  noWrap : current.sequence + 1 < u64Bound
  writable : Writable (edit.next current)
  unobstructed : (s.files.get (temporaryName b.record.lifecycleId)).isSome = false
  fault : answers.fault = none
  bindingRead : answers.bindingRead = true

/-- The condition on an operation: an update of a lease that has a binding is taken. -/
def UpdatesTaken (t : LeaseTransaction) (op : LeaseOp) : Prop :=
  match op with
  | .updateStage stage workerId worker answers => t.held = some .reserved →
    ∀ b, t.precommitRuntime = some b → answers.locked = true ∧ ∃ store current,
      t.store = some store ∧ UpdateTaken store b (.stage stage workerId worker) answers current
  | .markHandoffCommitted answers => t.held = some .committed →
    ∀ b, t.precommitRuntime = some b → answers.locked = true ∧ ∃ store current,
      t.store = some store ∧ UpdateTaken store b .handoffCommitted answers current
  | _ => True

namespace RuntimeStore
variable {s : RuntimeStore} {r : PreCommitRuntimeRecord} {b b' : RuntimeBinding}
  {edit : RuntimeEdit} {answers : UpdateAnswers} {fault : Option Fault} {inode : Nat}

theorem commit_of_unwritable (h : ¬Writable r) : s.commit r fault inode = (false, s) := by
  unfold commit
  cases hvalid : r.validate with
  | false => rfl
  | true =>
    have hlong : maxPrecommitRecordBytes < (bytes (recordJson r)).length := by
      by_contra hshort
      exact h ⟨hvalid, Nat.le_of_not_lt hshort⟩
    rw [Bool.not_true, if_neg (by simp), if_pos hlong]

theorem commit_of_writable (h : Writable r) :
    s.commit r fault inode = ((s.replaceRecord r fault inode).1,
      { records := if (s.replaceRecord r fault inode).1 then s.records.insert r else s.records
        files := (s.replaceRecord r fault inode).2 }) := by
  unfold commit
  rw [h.1, Bool.not_true, if_neg (by simp), if_neg (Nat.not_lt.mpr h.2)]
  cases hok : (s.replaceRecord r fault inode).1 <;> simp [hok]

theorem commit_succeeds_iff :
    (s.commit r fault inode).1 = true ↔
      Writable r ∧ (s.files.get (temporaryName r.lifecycleId)).isSome = false ∧
        fault = none := by
  by_cases h : Writable r
  · rw [commit_of_writable h]
    exact replace_succeeds_iff.trans (by simp [h])
  · rw [commit_of_unwritable h]
    simp [h]

/-- After a commit that succeeds the record's file is the new one. -/
theorem recordFile_commit (h : (s.commit r fault inode).1 = true) :
    (s.commit r fault inode).2.recordFile r.lifecycleId =
      some ⟨inode, bytes (recordJson r)⟩ := by
  obtain ⟨hwritable, hfree, rfl⟩ := commit_succeeds_iff.mp h
  rw [commit_of_writable hwritable]
  refine (get_replace_path (temporaryName_ne_recordName r.lifecycleId r.lifecycleId)).trans ?_
  rw [if_pos ⟨hfree, Or.inl rfl⟩]

theorem lifecycleId_apply (edit : RuntimeEdit) (r : PreCommitRuntimeRecord) :
    (edit.apply r).lifecycleId = r.lifecycleId := by
  cases edit with
  | stage reached workerId worker => cases worker <;> rfl
  | handoffCommitted => rfl

theorem lifecycleId_of_get {id : String} (h : s.records.get id = some r) : r.lifecycleId = id :=
  s.records.keyed (id, r) (KeyedTable.get_eq_some_iff.mp h)

theorem validateLifecycleId_of_validate (h : r.validate = true) :
    PreCommitRuntimeRecord.validateLifecycleId r.lifecycleId = true := by
  unfold PreCommitRuntimeRecord.validate at h
  exact (Bool.and_eq_true _ _ ▸ h).2

theorem commitBinding_of_error (h : (s.commit r answers.fault answers.inode).1 = false) :
    (s.commitBinding r answers).1 = none := by
  unfold commitBinding
  split
  · rfl
  next hcommit =>
    rw [hcommit] at h
    cases h

/-- The file that was just committed is looked at, if the look succeeds. -/
theorem commitBinding_of_success (h : (s.commit r answers.fault answers.inode).1 = true) :
    (s.commitBinding r answers).1 = if answers.bindingRead then
      some ⟨{ lifecycleId := r.lifecycleId, seatGeneration := r.seatGeneration,
              bootId := r.bootId, sequence := r.sequence, inode := answers.inode }, r⟩
    else none := by
  have hid := validateLifecycleId_of_validate (commit_succeeds_iff.mp h).1.1
  have hfile := recordFile_commit h
  unfold commitBinding
  split
  next hcommit =>
    rw [hcommit] at h
    cases h
  next s' hcommit =>
    rw [hcommit] at hfile
    dsimp only at hfile ⊢
    unfold bindingFor
    rw [hid, hfile]
    cases answers.bindingRead <;> rfl

theorem commitBinding_isSome_iff : (s.commitBinding r answers).1.isSome = true ↔
    Writable r ∧ (s.files.get (temporaryName r.lifecycleId)).isSome = false ∧
      answers.fault = none ∧ answers.bindingRead = true := by
  cases hok : (s.commit r answers.fault answers.inode).1 with
  | false =>
    have hnot := commit_succeeds_iff.not.mp (Bool.eq_false_iff.mp hok)
    rw [commitBinding_of_error hok]
    simp only [Option.isSome_none, Bool.false_eq_true, false_iff]
    exact fun h => hnot ⟨h.1, h.2.1, h.2.2.1⟩
  | true =>
    obtain ⟨hwritable, hfree, hfault⟩ := commit_succeeds_iff.mp hok
    rw [commitBinding_of_success hok]
    cases answers.bindingRead <;> simp [hwritable, hfree, hfault]

theorem record_commitBinding (h : (s.commitBinding r answers).1 = some b) : b.record = r := by
  unfold commitBinding at h
  split at h
  · cases h
  · obtain ⟨authority, -, rfl⟩ := Option.map_eq_some_iff.mp h
    rfl

theorem update_isSome_iff :
    (s.update b edit answers).1.isSome = true ↔
      ∃ current, UpdateTaken s b edit answers current := by
  unfold update
  constructor
  · intro h
    split at h
    · cases h
    next hauthority =>
      split at h
      · cases h
      next current hget =>
        split at h
        · cases h
        next sequence hsequence =>
          obtain ⟨hlt, rfl⟩ := checkedAdd_eq_some.mp hsequence
          obtain ⟨hwritable, hfree, hfault, hread⟩ := commitBinding_isSome_iff.mp h
          rw [lifecycleId_apply, lifecycleId_of_get hget] at hfree
          exact ⟨current, by simpa using hauthority, hget, hlt, hwritable, hfree, hfault, hread⟩
  · rintro ⟨current, h⟩
    have hid : (edit.next current).lifecycleId = b.record.lifecycleId := by
      have hknown := lifecycleId_of_get h.known
      rw [RuntimeEdit.next, lifecycleId_apply]
      exact hknown
    rw [h.authority, Bool.not_true, if_neg (by simp), h.known]
    dsimp only
    rw [checkedAdd_eq_some.mpr ⟨h.noWrap, rfl⟩]
    refine commitBinding_isSome_iff.mpr ⟨h.writable, ?_, h.fault, h.bindingRead⟩
    exact hid ▸ h.unobstructed

theorem lifecycleId_update (h : (s.update b edit answers).1 = some b') :
    b'.record.lifecycleId = b.record.lifecycleId := by
  unfold update at h
  split at h
  · cases h
  · split at h
    · cases h
    next current hget =>
      split at h
      · cases h
      · have hknown := lifecycleId_of_get hget
        rw [record_commitBinding h, lifecycleId_apply]
        exact hknown

theorem recordFile_remove {removal : RemovalAnswers} (h : (s.remove b removal).1 = true) :
    (s.remove b removal).2.recordFile b.record.lifecycleId = none := by
  unfold remove at h ⊢
  split at h
  · cases h
  next hauthority =>
    rw [if_neg hauthority]
    cases hremoval : removal.removal with
    | notRemoved => simp [hremoval] at h
    | notSynced => simp [hremoval] at h
    | removed => exact KeyedTable.get_remove_self _ _

end RuntimeStore

namespace LeaseTransaction
variable {t : LeaseTransaction} {edit : RuntimeEdit} {answers : UpdateAnswers}

/-- An update of a lease with a binding goes through exactly where the store takes it. -/
theorem updateRuntime_ok_iff :
    (t.updateRuntime edit answers).1 = true ↔
      ∀ b, t.precommitRuntime = some b → answers.locked = true ∧ ∃ store current,
        t.store = some store ∧ UpdateTaken store b edit answers current := by
  unfold updateRuntime
  cases hbinding : t.precommitRuntime with
  | none => simp
  | some b =>
    cases hstore : t.store with
    | none => simp
    | some store =>
      cases hlocked : answers.locked with
      | false => simp
      | true =>
        have hsome : (store.update b edit answers).1.isSome = true ↔
            ∃ current, UpdateTaken store b edit answers current :=
          RuntimeStore.update_isSome_iff
        cases hupdate : store.update b edit answers with
        | mk binding store' =>
          rw [hupdate] at hsome
          cases binding <;> simpa [hupdate] using hsome

/-- An update has nothing to do, or puts a new binding of the same record in the place of the old
one, or fails and leaves none. -/
theorem updateRuntime_cases (t : LeaseTransaction) (edit : RuntimeEdit) (answers : UpdateAnswers) :
    t.precommitRuntime = none ∧ t.updateRuntime edit answers = (true, t) ∨
      (∃ b b' store, t.precommitRuntime = some b ∧
        b'.record.lifecycleId = b.record.lifecycleId ∧
        t.updateRuntime edit answers =
          (true, { t with precommitRuntime := some b', store := some store })) ∨
      t.precommitRuntime ≠ none ∧ ∃ store,
        t.updateRuntime edit answers = (false, { t with precommitRuntime := none, store }) := by
  unfold updateRuntime
  cases hbinding : t.precommitRuntime with
  | none => exact Or.inl ⟨rfl, rfl⟩
  | some b =>
    cases hstore : t.store with
    | none => exact Or.inr (Or.inr ⟨by simp, none, by simp⟩)
    | some store =>
      cases hlocked : answers.locked with
      | false => exact Or.inr (Or.inr ⟨by simp, some store, by simp⟩)
      | true =>
        cases hupdate : store.update b edit answers with
        | mk binding store' =>
          cases binding with
          | none => exact Or.inr (Or.inr ⟨by simp, some store', by simp [hupdate]⟩)
          | some b' =>
            have hid := RuntimeStore.lifecycleId_update (congrArg Prod.fst hupdate)
            exact Or.inr (Or.inl ⟨b, b', store', rfl, hid, by simp [hupdate]⟩)

/-- The binding of an update that fails is lost, so the update keeps it only by going through. -/
theorem updateRuntime_keeps_iff :
    ((t.updateRuntime edit answers).1 = false →
        (t.updateRuntime edit answers).2.precommitRuntime = t.precommitRuntime) ↔
      (t.updateRuntime edit answers).1 = true := by
  rcases t.updateRuntime_cases edit answers with
    ⟨-, h⟩ | ⟨b, b', store, -, -, h⟩ | ⟨hbinding, store, h⟩
  · simp [h]
  · simp [h]
  · simp [h, Ne.symm hbinding]

/-- A lease without a binding has no durable record, and one with a binding has its own. -/
structure Bound (t : LeaseTransaction) : Prop where
  unbound : t.held ≠ none → t.precommitRuntime = none → t.recordFile = none
  named : ∀ b, t.precommitRuntime = some b → b.record.lifecycleId = t.lifecycleId

theorem Bound.update (h : t.Bound) (hok : (t.updateRuntime edit answers).1 = true) :
    (t.updateRuntime edit answers).2.Bound := by
  rcases t.updateRuntime_cases edit answers with
    ⟨-, hupdate⟩ | ⟨b, b', store, hbinding, hid, hupdate⟩ | ⟨-, store, hupdate⟩
  · rw [hupdate]
    exact h
  · rw [hupdate]
    refine ⟨by simp, fun b'' hb'' => ?_⟩
    cases hb''
    exact hid.trans (h.named b hbinding)
  · rw [hupdate] at hok
    cases hok

theorem bound_dropped (t : LeaseTransaction) : t.dropped.Bound :=
  ⟨fun h => absurd rfl h, by simp [dropped]⟩

theorem Bound.remove {removal : RemovalAnswers} (h : t.Bound) (hheld : t.held ≠ none)
    (hok : (t.removeRuntime removal).1 = true) : (t.removeRuntime removal).2.recordFile = none := by
  unfold removeRuntime at hok ⊢
  cases hbinding : t.precommitRuntime with
  | none => exact h.unbound hheld hbinding
  | some b =>
    cases hstore : t.store with
    | none => simp [hbinding, hstore] at hok
    | some store =>
      cases hlocked : removal.locked with
      | false => simp [hbinding, hstore, hlocked] at hok
      | true =>
        have hremoved : (store.remove b removal).1 = true := by
          simpa [hbinding, hstore, hlocked] using hok
        have hfile := RuntimeStore.recordFile_remove hremoved
        rw [h.named b hbinding] at hfile
        simpa [recordFile] using hfile

theorem binding_of_removeRuntime {removal : RemovalAnswers}
    (h : (t.removeRuntime removal).1 = false) : ∃ b, t.precommitRuntime = some b := by
  cases hbinding : t.precommitRuntime with
  | none =>
    unfold removeRuntime at h
    rw [hbinding] at h
    cases h
  | some b => exact ⟨b, rfl⟩

theorem Bound.cancel {lease : AdmissionRollbackLease} {removal : RemovalAnswers} (h : t.Bound)
    (hheld : t.held ≠ none)
    (hlease : lease = .reserved t.reservedLease ∨ lease = .pending t.pendingLease)
    (hok : (t.cancelLease lease removal).1 = true) :
    (t.cancelLease lease removal).2.recordFile = none := by
  unfold cancelLease at hok ⊢
  split at hok
  · cases hok
  next hmatches =>
    rw [if_neg hmatches]
    rw [Bool.not_eq_true, Bool.not_eq_false'] at hmatches
    dsimp only at hok ⊢
    cases hremoved : (t.removeRuntime removal).1 with
    | true =>
      have hfile := h.remove hheld hremoved
      rw [hremoved] at hok
      split at hok
      · cases hok
      · exact hfile
    | false =>
      -- the removal's error is the controller's
      obtain ⟨b, hb⟩ := binding_of_removeRuntime hremoved
      have hreserved : t.reservedLease.precommitRuntime = some b.summary := by
        simp [reservedLease, hb]
      have hpending : t.pendingLease.precommitRuntime = some b.summary := by
        simp [pendingLease, hb]
      have hcancel : (t.controller.cancel lease false).1 =
          .error .persistentRecoveryUnavailable := by
        unfold SeatAdmissionController.cancel
        rcases hlease with rfl | rfl <;>
          simp [hmatches, hreserved, hpending, removePrecommitRuntime]
      rw [hremoved] at hok
      cases hresult : t.controller.cancel lease false with
      | mk result controller =>
        rw [hresult] at hok hcancel
        cases hcancel
        cases hok

theorem Bound.promoted {removal : RemovalAnswers} (h : t.Bound) :
    BindingKept t (.promoteToRunning removal) := by
  intro hok
  unfold step at hok ⊢
  dsimp only at hok ⊢
  split at hok
  next hheld =>
    rw [if_pos hheld]
    split at hok
    · cases hok
    next hmatches =>
      rw [if_neg hmatches]
      rw [Bool.not_eq_true, Bool.not_eq_false'] at hmatches
      cases hremoved : (t.removeRuntime removal).1 with
      | true =>
        have hfile := h.remove (by simp [hheld]) hremoved
        rw [hremoved] at hok
        split at hok
        · cases hok
        · exact hfile
      | false =>
        obtain ⟨b, hb⟩ := binding_of_removeRuntime hremoved
        have hreceipt : t.receipt.precommitRuntime = some b.summary := by simp [receipt, hb]
        have hpromote : (t.controller.promoteCommittedToRunning t.receipt false).1 =
            .error .persistentRecoveryUnavailable := by
          unfold SeatAdmissionController.promoteCommittedToRunning
          simp [hmatches, hreceipt, removePrecommitRuntime]
        rw [hremoved] at hok
        cases hresult : t.controller.promoteCommittedToRunning t.receipt false with
        | mk result controller =>
          rw [hresult] at hok hpromote
          cases hpromote
          cases hok
  · cases hok

theorem Bound.cancelled {removal : RemovalAnswers} (h : t.Bound) :
    BindingKept t (.cancel removal) := by
  intro hok
  unfold step at hok ⊢
  dsimp only at hok ⊢
  cases hheld : t.held with
  | none => simp [hheld] at hok
  | some held =>
    rw [hheld] at hok
    cases held with
    | reserved => exact h.cancel (by simp [hheld]) (Or.inl rfl) hok
    | pending => exact h.cancel (by simp [hheld]) (Or.inr rfl) hok
    | committed => cases hok

theorem bound_step {op : LeaseOp} (h : t.Bound) (htaken : UpdatesTaken t op) :
    (t.step op).2.Bound := by
  cases op with
  | updateStage reached workerId worker answers =>
    unfold step
    dsimp only
    split
    next hheld => exact h.update (updateRuntime_ok_iff.mpr (htaken hheld))
    · exact h
  | markHandoffCommitted answers =>
    unfold step
    dsimp only
    split
    next hheld => exact h.update (updateRuntime_ok_iff.mpr (htaken hheld))
    · exact h
  | promote recovery =>
    unfold step
    dsimp only
    split
    next hheld =>
      -- the binding goes from one lease to the next
      split
      · exact ⟨h.unbound, h.named⟩
      · exact ⟨fun _ hbinding => h.unbound (by simp [hheld]) hbinding, h.named⟩
    · exact h
  | commit recovery =>
    unfold step
    dsimp only
    split
    next hheld =>
      split
      · exact ⟨h.unbound, h.named⟩
      · exact ⟨fun _ hbinding => h.unbound (by simp [hheld]) hbinding, h.named⟩
    · exact h
  | promoteToRunning removal =>
    unfold step
    dsimp only
    split
    · split
      · exact bound_dropped t
      · split <;> exact ⟨fun hheld => absurd rfl hheld, by simp [dropped]⟩
    · exact h
  | cancel removal =>
    have hcancel : ∀ lease, (t.cancelLease lease removal).2.Bound := by
      intro lease
      unfold cancelLease
      split
      · exact bound_dropped t
      · dsimp only
        split <;> exact ⟨fun hheld => absurd rfl hheld, by simp [dropped]⟩
    unfold step
    dsimp only
    split
    · exact hcancel _
    · exact hcancel _
    · exact h
  | seatChanged controller => exact ⟨h.unbound, h.named⟩

/-- Given back or used up, a lease that is bound leaves no record; so a step keeps the binding
exactly where an update in it is taken. -/
theorem Bound.kept_iff (h : t.Bound) (op : LeaseOp) : BindingKept t op ↔ UpdatesTaken t op := by
  cases op with
  | updateStage reached workerId worker answers =>
    unfold BindingKept UpdatesTaken step
    dsimp only
    split
    next hheld =>
      rw [updateRuntime_keeps_iff, updateRuntime_ok_iff]
      simp [hheld]
    next hheld => simp [hheld]
  | markHandoffCommitted answers =>
    unfold BindingKept UpdatesTaken step
    dsimp only
    split
    next hheld =>
      rw [updateRuntime_keeps_iff, updateRuntime_ok_iff]
      simp [hheld]
    next hheld => simp [hheld]
  | promote recovery => exact Iff.rfl
  | commit recovery => exact Iff.rfl
  | promoteToRunning removal => exact iff_of_true h.promoted trivial
  | cancel removal => exact iff_of_true h.cancelled trivial
  | seatChanged controller => exact Iff.rfl

end LeaseTransaction

theorem lifecycleId_createReserved {s : RuntimeStore} {lifecycleId seat : String}
    {attemptId seatGeneration : Nat} {bootId : Option String} {answers : UpdateAnswers}
    {b : RuntimeBinding}
    (h : (s.createReserved lifecycleId attemptId seat seatGeneration bootId answers).1 = some b) :
    b.record.lifecycleId = lifecycleId := by
  unfold RuntimeStore.createReserved at h
  split at h
  · cases h
  · split at h
    · cases h
    · rw [RuntimeStore.record_commitBinding h]

theorem lifecycleId_reserve {c c' : SeatAdmissionController} {lifecycleId : String}
    {recovery : RecoveryAdmissionState} {previousVt : PreviousVtIdentity} {lease : AdmissionLease}
    (h : c.reserve lifecycleId recovery previousVt = (.ok lease, c')) :
    lease.lifecycleId = lifecycleId := by
  unfold SeatAdmissionController.reserve at h
  split at h
  · cases h
  · cases h
    rfl

section Transactions
variable {controller : SeatAdmissionController} {store : Option RuntimeStore} {lifecycleId : String}
  {recovery : RecoveryAdmissionState} {previousVt : PreviousVtIdentity} {bootId : Option String}
  {answers : UpdateAnswers} {t : LeaseTransaction}

/-- A seat is reserved with a lease that is bound to the new record, or without a store. -/
theorem bound_reserveSeat
    (h : reserveSeat controller store lifecycleId recovery previousVt bootId answers = some t) :
    t.Bound := by
  unfold reserveSeat at h
  split at h
  · cases h
  · split at h
    · cases h
    next lease controller' hreserve =>
      dsimp only at h
      split at h
      · cases h
        exact ⟨fun _ _ => rfl, by simp⟩
      · split at h
        · cases h
        · split at h
          · cases h
          next binding store' hcreate =>
            split at h
            · cases h
            · cases h
              refine ⟨by simp, fun b hb => ?_⟩
              cases hb
              have hid := lifecycleId_createReserved (congrArg Prod.fst hcreate)
              exact hid.trans (lifecycleId_reserve hreserve).symm

theorem precommit_binding_kept_iff
    (h : reserveSeat controller store lifecycleId recovery previousVt bootId answers = some t)
    (ops : List LeaseOp) :
    StepsMeet (fun t op => (t.step op).2) BindingKept t ops ↔
      StepsMeet (fun t op => (t.step op).2) UpdatesTaken t ops :=
  stepsMeet_iff_of_invariant LeaseTransaction.Bound (fun _ op hbound => hbound.kept_iff op)
    (fun _ _ hbound htaken => LeaseTransaction.bound_step hbound htaken) (bound_reserveSeat h) ops

end Transactions

section LostBinding

/-- A login on a free seat, with a store whose directory is empty. -/
def reservedLogin : Option LeaseTransaction :=
  reserveSeat (.new "seat0" .free) (some {}) "a1" .clear ⟨1⟩ (some "b1") { inode := 7 }

/-- The worker is attached while the disk is full, and then the login is given up. -/
def attachAndCancel : List LeaseOp :=
  [.updateStage "worker_attached" (some "a1") (some ⟨20, some 5, some (1, 2)⟩)
      { fault := some (.write 0), inode := 8 },
    .cancel {}]

/-- What the two operations answer, whether the lease is bound between them, and whether the record
is there after them. -/
def attachAndCancelOutcome (t : LeaseTransaction) : Bool × Bool × Bool × Bool :=
  let attached := t.step (attachAndCancel.headD (.cancel {}))
  let cancelled := attached.2.step (.cancel {})
  (attached.1, attached.2.precommitRuntime.isSome, cancelled.1, cancelled.2.recordFile.isSome)

theorem reservedLogin_outcome :
    reservedLogin.map attachAndCancelOutcome = some (false, false, true, true) := by decide +kernel

theorem attachAndCancel_kept_iff : ∃ t, reservedLogin = some t ∧
    (StepsMeet (fun t op => (t.step op).2) BindingKept t attachAndCancel ↔
      StepsMeet (fun t op => (t.step op).2) UpdatesTaken t attachAndCancel) := by
  obtain ⟨t, ht, -⟩ := Option.map_eq_some_iff.mp reservedLogin_outcome
  exact ⟨t, ht, precommit_binding_kept_iff ht attachAndCancel⟩

end LostBinding

end Niralis.PrecommitLease
