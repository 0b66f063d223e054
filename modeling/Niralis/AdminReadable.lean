import Niralis.LedgerOpen
import Niralis.RecoveryAdmin
import Niralis.SameBootWrites

namespace Niralis
open PersistentRecoveryLedger

abbrev Retrying := AdminWorld × Program AdminWorld AdminRequest
  (Except SessionError RecoveryAdminResponse)

def Retrying.begin (w : AdminWorld) (host : RecoveryAdminHost) (request : RetryVtDisallocate) :
    Retrying := (w, recoveryAdmin host request)

def Retrying.after (s : Retrying) (answers : List StartupAnswer) : Retrying :=
  answers.foldl (Program.step AdminWorld.perform) s

/-- If the step writes record `id` and the new file reaches the disk, the write is a safe one. -/
def AdminSafeStep (id : String) (w : AdminWorld) (request : AdminRequest)
    (answer : StartupAnswer) : Prop :=
  ∀ ledgerRequest, request = .recovery ledgerRequest →
    SafeStep id w.recovery ledgerRequest answer

theorem adminSafeStep_admitsReadable (id : String) :
    AdmitsReadable AdminWorld.perform (AdminSafeStep id) AdminWorld.ledger id where
  keeps := by
    intro w request x h hsafe
    cases request with
    | recovery request =>
      exact (safeStep_admitsReadable id).keeps w.recovery request x h (hsafe request rfl)
    | enterQuarantineForAdmin lifecycleId => exact h
    | releaseAfterAdminFinalization receipt => exact h
  needed := by
    rintro w request x h hd ledgerRequest rfl
    exact (safeStep_admitsReadable id).needed w.recovery ledgerRequest x h hd

def ValidOf (seat : String) (r : PersistentRecoveryRecord) : Prop :=
  validateRecord r = true ∧ r.seat = seat

theorem validOf_perform {id seat : String} {w : AdminWorld} (h : RecordHas (ValidOf seat) id w.ledger)
    (request : AdminRequest) (x : StartupAnswer) :
    RecordHas (ValidOf seat) id (w.perform request x).2.ledger := by
  cases request with
  | recovery request =>
    refine h.perform request x fun write r next _ _ happly hvalid hr => ⟨hvalid, ?_⟩
    rw [(writeResult_of_apply happly).seat, hr.2]
  | enterQuarantineForAdmin lifecycleId => exact h
  | releaseAfterAdminFinalization receipt => exact h

/-- Every request of the program is safe for record `id`, whatever is answered. -/
abbrev AdminSat (id : String) {α : Type} (p : Program AdminWorld AdminRequest α) (w : AdminWorld)
    (post : α → AdminWorld → Prop) : Prop :=
  p.Sat AdminWorld.perform (fun _ _ _ => True)
    (fun w request => ∀ x, AdminSafeStep id w request x) w post

section Conditions

/-- The largest id that an administrative attempt of the record has. -/
def highestAttempt (r : PersistentRecoveryRecord) : Nat :=
  (r.vtRecoveryAttempts.map (·.attemptId)).foldl max 0

/-- The attempts that stay beside a new one expected an earlier sequence, and none has the last id
there is. (The other case is for ids that are no `u64`.) -/
def AppendFits (r : PersistentRecoveryRecord) : Prop :=
  ∀ a ∈ keptAttempts r.vtRecoveryAttempts,
    (a.attemptId + 1 < u64Bound ∧ a.expectedSequence < r.sequence) ∨
      (u64Bound ≤ a.attemptId ∧ r.sequence < a.expectedSequence)

/-- The terminal is free: the number of the attempt lies between the ids that are recorded around
the deallocation, and the record's resolution comes to no confirmation. -/
structure FreedSound (r : PersistentRecoveryRecord) : Prop where
  fits : IdFits r.operationLedger [] .vtDisallocate (saturatingAdd (highestAttempt r) 1)
  resolution : r.operationLedger.recordResolution = .notStarted → r.HasRoom 4 →
    saturatingAdd (highestAttempt r) 1 < r.sequence + 4 ∧
      IdFits r.operationLedger [.vtDisallocate] .recordResolution (r.sequence + 4) ∧ ¬ r.HasRoom 5

def OutcomeSound (host : RecoveryAdminHost) (r : PersistentRecoveryRecord) : Prop :=
  if host.disallocateVtOnce.isOk && host.inspectedAfter.targetIsForeground = some false then
    FreedSound r
  else r.operationLedger.vtDisallocate.hasResult = true

/-- The records, hosts and requests for which a retry writes nothing that cannot be read back. -/
def RetrySound (w : AdminWorld) (host : RecoveryAdminHost) (request : RetryVtDisallocate)
    (r : PersistentRecoveryRecord) : Prop :=
  retryRefusal host request w.ledger r = none → ∀ vt, host.persistedVtIdentity = .ok vt →
    r.HasRoom 1 →
      if vtPreconditionsChanged host vt then AppendFits r
      else (w.admission.enterQuarantineForAdmin request.recordId).1.isOk = true →
        AppendFits r ∧ (r.HasRoom 2 → OutcomeSound host r)

end Conditions

section Retries
variable {id : String} {w : AdminWorld} {host : RecoveryAdminHost} {request : RetryVtDisallocate}
  {r : PersistentRecoveryRecord} {n : Nat} {ε α β : Type} {e : ε}

theorem adminSat_onRecovery_iff {p : Attempt StartupWorld StartupRequest ε α}
    {result : Except ε α → AdminWorld → Prop} :
    AdminSat id (onRecovery p) w result ↔
      ReadableSat id p w.recovery fun x s => result x { w with recovery := s } := by
  unfold onRecovery
  induction p generalizing w with
  | done a => exact Iff.rfl
  | ask ledgerRequest next ih =>
    refine and_congr (forall_congr' fun x => ?_) (forall_congr' fun x => forall_congr' fun _ => ih _ _)
    constructor
    · exact fun h => h ledgerRequest rfl
    · rintro h _ ⟨⟩
      exact h

theorem adminSat_ledgerCall_iff {p : IoResult α} {result : Except ε α → AdminWorld → Prop} :
    AdminSat id (ledgerCall p e) w result ↔ ReadableSat id p w.recovery
      fun x s => result (x.mapError fun _ => e) { w with recovery := s } :=
  Attempt.sat_mapErr_result.trans adminSat_onRecovery_iff

/-- What the rest of a retry has to satisfy when its first part has ended. -/
abbrev AfterAdmin (id : String) (f : α → AdminM ε β) (result : Except ε β → AdminWorld → Prop) :
    Except ε α → AdminWorld → Prop :=
  Attempt.Continues AdminWorld.perform (fun _ _ _ => True)
    (fun w request => ∀ x, AdminSafeStep id w request x) f result

theorem adminSat_bind_iff {p : AdminM ε α} {f : α → AdminM ε β}
    {result : Except ε β → AdminWorld → Prop} :
    AdminSat id (p >>= f : AdminM ε β) w result ↔ AdminSat id p w (AfterAdmin id f result) :=
  Attempt.sat_bind_result

theorem adminSat_readAdmin_iff {f : AdminWorld → AdminM ε α}
    {result : Except ε α → AdminWorld → Prop} :
    AdminSat id (readAdmin >>= f : AdminM ε α) w result ↔ AdminSat id (f w) w result := by
  constructor
  · exact fun h => h.2 { write := ⟨none, .synced⟩ } trivial
  · refine fun h => ⟨fun x ledgerRequest heq => ?_, fun _ _ => h⟩
    cases heq
    exact safeStep_of_not_write fun _ hwrite => StartupRequest.noConfusion hwrite

theorem adminSat_enter_iff {f : Unit → AdminM ε α} {result : Except ε α → AdminWorld → Prop}
    (rest : Prop) (hresult : ∀ e w', result (.error e) w')
    (hf : ∀ w', w'.recovery = w.recovery → (AdminSat id (f ()) w' result ↔ rest)) :
    AdminSat id (.perform (.enterQuarantineForAdmin request.recordId) e >>= f : AdminM ε α) w result ↔
      ((w.admission.enterQuarantineForAdmin request.recordId).1.isOk = true → rest) := by
  refine adminSat_bind_iff.trans ?_
  have hgood : ∀ x, AdminSafeStep id w (.enterQuarantineForAdmin request.recordId) x :=
    fun _ _ heq => AdminRequest.noConfusion heq
  cases hok : (w.admission.enterQuarantineForAdmin request.recordId).1.isOk with
  | false =>
    refine iff_of_true ⟨hgood, fun x _ => ?_⟩ fun hentered => by cases hentered
    simp only [AdminWorld.perform, AdminWorld.onAdmission, hok]
    exact hresult _ _
  | true =>
    rw [imp_iff_right rfl]
    constructor
    · intro h
      have hnext := h.2 { write := ⟨none, .synced⟩ } trivial
      simp only [AdminWorld.perform, AdminWorld.onAdmission, hok] at hnext
      exact (hf _ (by rfl)).mp hnext
    · refine fun hrest => ⟨hgood, fun x _ => ?_⟩
      simp only [AdminWorld.perform, AdminWorld.onAdmission, hok]
      exact (hf _ (by rfl)).mpr hrest

theorem adminSat_issue_iff {effect : ExternalEffect} {i : String} {f : Unit → AdminM ε α}
    {result : Except ε α → AdminWorld → Prop} (rest : Prop) (h : OpenRecord id r w.recovery)
    (hf : ∀ w', OpenRecord id r w'.recovery → (AdminSat id (f ()) w' result ↔ rest)) :
    AdminSat id (onRecovery (issue effect i) >>= f : AdminM ε α) w result ↔ rest := by
  refine adminSat_bind_iff.trans (adminSat_onRecovery_iff.trans
    ((readableSat_ask_iff fun _ hask => StartupRequest.noConfusion hask).trans ?_))
  have hafter : ∀ x, OpenRecord id r (w.recovery.perform (.effect effect i) x).2 :=
    fun _ => ⟨h.memory, h.readable, h.valid, h.unresolved⟩
  constructor
  · intro hall
    have x : StartupAnswer := { write := ⟨none, .synced⟩ }
    exact (hf _ (hafter x)).mp (hall x)
  · exact fun hrest x => (hf _ (hafter x)).mpr hrest

theorem adminSat_rewrite_iff {write : RecordWrite} {attempts : List VtRecoveryAttempt}
    {provenance : Option VtBusyProvenance} {result : Except SessionError Unit → AdminWorld → Prop}
    (rest : Prop) (h : OpenRecord request.recordId r w.recovery)
    (hwrite : write.Rewrites r attempts provenance) (hresult : ∀ e w', result (.error e) w')
    (hdone : ∀ boot w', OpenRecord request.recordId (r.rewritten boot attempts provenance)
      w'.recovery → (result (.ok ()) w' ↔ rest)) :
    AdminSat request.recordId (persistAttempt request write) w result ↔
      (r.Takes 1 → SafeWrite r write ∧ rest) :=
  adminSat_ledgerCall_iff.trans (readableSat_rewrite_iff rest h hwrite
    (fun _ _ _ _ => hresult _ _) fun boot _ hs => hdone boot _ hs)

def Attempting (n : Nat) (r : PersistentRecoveryRecord) : Prop :=
  ∃ a, r.vtRecoveryAttempts.getLast? = some a ∧ a.state = .intentPersisted ∧ a.attemptId = n

theorem adminSat_finishAs_iff {state : VtRecoveryAttemptState} {after : Option VtBusyProvenance}
    {result : Except SessionError Unit → AdminWorld → Prop} (rest : Prop)
    (h : OpenRecord request.recordId r w.recovery) (hopen : Attempting n r)
    (hstate : state.hasResult = true) (hresult : ∀ e w', result (.error e) w')
    (hdone : ∀ boot attempts w', OpenRecord request.recordId
        (r.rewritten boot attempts r.vtBusyProvenance) w'.recovery →
      (result (.ok ()) w' ↔ rest)) :
    AdminSat request.recordId (finishAs request n state after) w result ↔
      (r.Takes 1 → r.operationLedger.vtDisallocate.hasResult = true ∧ rest) := by
  obtain ⟨a, hlast, hintent, rfl⟩ := hopen
  obtain ⟨attempts, hrewrites⟩ := rewrites_finish state after hlast hintent
  refine (adminSat_rewrite_iff rest h hrewrites hresult fun boot w' => hdone boot attempts w').trans ?_
  rw [safeWrite_finish_iff h.readable hstate]

theorem adminSat_retryFailed_iff {error : SupervisorRecoveryError}
    (h : OpenRecord request.recordId r w.recovery) (hopen : Attempting n r) :
    AdminSat request.recordId (retryFailed request n error) w (fun _ _ => True) ↔
      (r.Takes 1 → r.operationLedger.vtDisallocate.hasResult = true) := by
  refine adminSat_bind_iff.trans ((adminSat_finishAs_iff True h hopen rfl (fun _ _ => trivial)
    fun _ _ _ _ => Iff.rfl).trans ?_)
  rw [and_true]

theorem adminSat_retryBusy_iff (h : OpenRecord request.recordId r w.recovery)
    (hopen : Attempting n r) :
    AdminSat request.recordId (retryBusy host request n) w (fun _ _ => True) ↔
      (r.Takes 1 → r.operationLedger.vtDisallocate.hasResult = true) := by
  refine adminSat_bind_iff.trans ((adminSat_finishAs_iff True h hopen rfl (fun _ _ => trivial)
    fun boot attempts w' hw' => ?_).trans (by rw [and_true]))
  refine adminSat_bind_iff.trans ((adminSat_rewrite_iff True hw' (rewrites_provenance _)
    (fun _ _ => trivial) fun _ _ _ => Iff.rfl).trans ?_)
  exact iff_of_true (fun _ => ⟨safeWrite_provenance hw'.readable, trivial⟩) trivial

theorem adminSat_finalizeAdminSuccess_iff {result : Except String Unit → AdminWorld → Prop}
    (h : OpenRecord id r w.recovery) (hresult : ∀ e w', result (.error e) w') :
    AdminSat id (finalizeAdminSuccess host id n) w result ↔ ResolutionSound r 0 [] := by
  have hsnapshot : RecoveryStateSnapshot.fromRecord r.createdBootId r = some r.snapshot :=
    if_pos h.readable.createdBoot
  have hproof : FinalizationCompletionProof.fromSnapshot r.snapshot = some ⟨r.snapshot.binding⟩ :=
    if_pos (snapshot_validates r)
  refine adminSat_readAdmin_iff.trans ((Attempt.sat_okOr_of_some h.memory).trans ?_)
  refine (Attempt.sat_require_of_true h.readable.createdBoot).trans ?_
  refine (Attempt.sat_okOr_of_some hsnapshot).trans ((Attempt.sat_okOr_of_some hproof).trans ?_)
  refine adminSat_bind_iff.trans (adminSat_ledgerCall_iff.trans ?_)
  exact readableSat_markRecordResolved_iff h (Advanced.refl r) (fun _ _ _ _ => hresult _ _) nofun

theorem adminSat_finishFreed_iff {response : RecoveryAdminResponse}
    (h : OpenRecord request.recordId r w.recovery) (hopen : Attempting n r)
    (hresult : r.operationLedger.vtDisallocate.hasResult = true) :
    AdminSat request.recordId (do
        finishAs request n .confirmed (some host.inspectedAfter)
        Program.bind (finalizeAdminSuccess host request.recordId n) fun
          | .error reason => .done (.ok (reject reason none))
          | .ok () => .done (.ok response) : RetryM) w (fun _ _ => True) ↔
      (r.Takes 1 → ResolutionSound r 1 []) := by
  refine adminSat_bind_iff.trans ((adminSat_finishAs_iff (ResolutionSound r 1 []) h hopen rfl
    (fun _ _ => trivial) fun boot attempts w' hw' => ?_).trans ?_)
  · have hfinalize : AdminSat request.recordId (finalizeAdminSuccess host request.recordId n) w'
        (fun _ _ => True) ↔ ResolutionSound _ 0 [] :=
      adminSat_finalizeAdminSuccess_iff hw' fun _ _ => trivial
    refine Iff.trans ?_ hfinalize
    refine Program.sat_bind_iff.trans ⟨fun hsat => hsat.mono fun _ _ _ => trivial,
      fun hsat => hsat.mono ?_⟩
    rintro (reason | done) _ -
    · trivial
    · trivial
  · exact forall_congr' fun _ => and_iff_right hresult

def PersistentRecoveryRecord.freed (r : PersistentRecoveryRecord) (n : Nat) :
    PersistentRecoveryRecord :=
  r.advanced 1 (r.operationLedger.set .vtDisallocate (.confirmed n)) r.lastUpdatedBootId

theorem adminSat_retryDisallocated_iff (h : OpenRecord request.recordId r w.recovery)
    (hopen : Attempting n r) (hn : n ≠ 0) :
    AdminSat request.recordId (retryDisallocated host request n) w (fun _ _ => True) ↔ (r.Takes 1 →
      if host.inspectedAfter.targetIsForeground = some false then
        IdFits r.operationLedger [] .vtDisallocate n ∧
          (r.Takes 2 → ResolutionSound (r.freed n) 1 [])
      else r.operationLedger.vtDisallocate.hasResult = true) := by
  unfold retryDisallocated
  by_cases hbackground : host.inspectedAfter.targetIsForeground = some false
  · -- the operation's outcome is written before that of the attempt
    rw [if_neg (not_not_intro hbackground), if_pos hbackground]
    refine adminSat_bind_iff.trans (adminSat_ledgerCall_iff.trans ((readableSat_operation_iff
      (r.Takes 2 → ResolutionSound (r.freed n) 1 []) h (fun _ _ _ _ => trivial)
        fun boot s hs => ?_).trans ?_))
    · refine (adminSat_finishFreed_iff (w := { w with recovery := s }) hs hopen rfl).trans ?_
      rw [PersistentRecoveryRecord.advanced_takes]
      exact Iff.rfl
    · refine forall_congr' fun _ => and_congr_left fun _ => ?_
      refine safeWrite_operation_iff h.readable rfl hn (resolutionAgrees_set h.readable ?_)
        fun _ hnone => by cases hnone
      rintro (hop | hop)
      · cases hop
      · cases hop
  · -- the terminal is back in the foreground: only the attempt gets an outcome
    rw [if_pos hbackground, if_neg hbackground]
    refine adminSat_bind_iff.trans ((adminSat_finishAs_iff True h hopen rfl (fun _ _ => trivial)
      fun _ _ _ _ => Iff.rfl).trans ?_)
    rw [and_true]

theorem le_highestAttempt {a : VtRecoveryAttempt} (ha : a ∈ r.vtRecoveryAttempts) :
    a.attemptId ≤ highestAttempt r :=
  ((foldl_max_le_iff (r.vtRecoveryAttempts.map (·.attemptId)) 0 _).mp le_rfl).2 _
    (List.mem_map_of_mem ha)

theorem nextAttemptId_ne_zero (r : PersistentRecoveryRecord) : nextAttemptId r ≠ 0 := by
  unfold nextAttemptId saturatingAdd u64Bound
  omega

theorem safeWrite_attempt_iff {state : VtRecoveryAttemptState} {before : VtBusyProvenance}
    (hread : ReadableRecord r) (hstate : state.hasResult = false) :
    SafeWrite r (.appendVtRecoveryAttempt
      (attempt (nextAttemptId r) r.sequence state before none)) ↔ AppendFits r := by
  rw [safeWrite_append_iff hread hstate, attemptKeysOrdered_append_iff
    ((vtAttemptsOrdered_iff r).mp hread.vtAttempts) (nextAttemptId_ne_zero r) hread.sequence]
  refine forall_congr' fun a => forall_congr' fun ha => ?_
  have hle := le_highestAttempt ((keptAttempts_sublist _).subset ha)
  have hnext : (attempt (nextAttemptId r) r.sequence state before none).attemptId =
      saturatingAdd (highestAttempt r) 1 := rfl
  have hsequence : (attempt (nextAttemptId r) r.sequence state before none).expectedSequence =
      r.sequence := rfl
  rw [hnext, hsequence]
  unfold saturatingAdd u64Bound
  refine or_congr (and_congr_left fun _ => ?_) (and_congr_left fun _ => ?_)
  · omega
  · omega

def PersistentRecoveryRecord.attempting (r : PersistentRecoveryRecord) (boot : String)
    (state : VtRecoveryAttemptState) (before : VtBusyProvenance) : PersistentRecoveryRecord :=
  r.rewritten boot (appendAttempt (attempt (nextAttemptId r) r.sequence state before none)
    r.vtRecoveryAttempts) r.vtBusyProvenance

theorem attempting_attempting (boot : String) (before : VtBusyProvenance) :
    Attempting (nextAttemptId r) (r.attempting boot .intentPersisted before) := by
  refine ⟨attempt (nextAttemptId r) r.sequence .intentPersisted before none, ?_, rfl, rfl⟩
  show (appendAttempt _ r.vtRecoveryAttempts).getLast? = _
  rw [appendAttempt_eq, List.getLast?_concat]

theorem freedSound_iff {boot : String} {state : VtRecoveryAttemptState} {before : VtBusyProvenance}
    (htext : stateTextValid r.state = true) :
    (IdFits r.operationLedger [] .vtDisallocate (nextAttemptId r) ∧
      ((r.attempting boot state before).Takes 2 →
        ResolutionSound ((r.attempting boot state before).freed (nextAttemptId r)) 1 [])) ↔
      FreedSound r := by
  have hfits : IdFits (r.operationLedger.set .vtDisallocate (.confirmed (nextAttemptId r))) []
      .recordResolution (r.sequence + 4) ↔ nextAttemptId r < r.sequence + 4 ∧
        IdFits r.operationLedger [.vtDisallocate] .recordResolution (r.sequence + 4) := by
    constructor
    · intro h
      have hlt := (h .vtDisallocate List.not_mem_nil (nextAttemptId r) rfl).1 (by decide)
      exact ⟨hlt, (idFits_set rfl hlt (by decide)).mp h⟩
    · rintro ⟨hlt, h⟩
      exact (idFits_set rfl hlt (by decide)).mpr h
  -- the attempt and the deallocation have each been written once by then
  have hroom : ∀ k, ((r.attempting boot state before).freed (nextAttemptId r)).Takes k ↔
      r.HasRoom (k + 2) := fun k => by
    refine (and_iff_left (a := _) htext).trans ?_
    show r.sequence + 1 + 1 + k < u64Bound ↔ r.sequence + (k + 2) < u64Bound
    omega
  have htakes : (r.attempting boot state before).Takes 2 ↔ r.HasRoom 3 := by
    refine (and_iff_left (a := _) htext).trans ?_
    show r.sequence + 1 + 2 < u64Bound ↔ r.sequence + 3 < u64Bound
    omega
  have hresolution : ResolutionSound ((r.attempting boot state before).freed (nextAttemptId r)) 1 []
      ↔ (r.operationLedger.recordResolution = .notStarted → r.HasRoom 4 →
        nextAttemptId r < r.sequence + 4 ∧
          IdFits r.operationLedger [.vtDisallocate] .recordResolution (r.sequence + 4) ∧
            ¬ r.HasRoom 5) := by
    refine forall_congr' fun _ => (imp_congr (hroom 2) (and_congr_right fun _ =>
      not_congr (hroom 3))).trans ?_
    exact forall_congr' fun _ => (and_congr_left fun _ => hfits).trans and_assoc
  rw [htakes, hresolution]
  constructor
  · rintro ⟨hid, hafter⟩
    refine ⟨hid, fun hnone hfour => hafter ?_ hnone hfour⟩
    exact Nat.lt_of_succ_lt hfour
  · rintro ⟨hid, hafter⟩
    exact ⟨hid, fun _ => hafter⟩

theorem adminSat_retryOnce_iff (h : OpenRecord request.recordId r w.recovery)
    (hsequence : r.sequence = request.recordSequence) (htext : stateTextValid r.state = true) :
    AdminSat request.recordId (retryOnce host request r) w (fun _ _ => True) ↔
      ((w.admission.enterQuarantineForAdmin request.recordId).1.isOk = true → r.HasRoom 1 →
        AppendFits r ∧ (r.HasRoom 2 → OutcomeSound host r)) := by
  have hone : r.Takes 1 ↔ r.HasRoom 1 := and_iff_left htext
  refine adminSat_enter_iff _ (fun _ _ => trivial) fun w' hw' => ?_
  have hentered : OpenRecord request.recordId r w'.recovery := hw' ▸ h
  refine adminSat_bind_iff.trans ((adminSat_rewrite_iff (r.HasRoom 2 → OutcomeSound host r) hentered
    (rewrites_append _) (fun _ _ => trivial) fun boot w₁ hw₁ => ?_).trans ?_)
  · rw [← hsequence] at hw₁
    refine adminSat_issue_iff _ hw₁ fun w₂ hw₂ => ?_
    have hopen := attempting_attempting (r := r) boot host.inspectedBefore
    have htwo : (r.attempting boot .intentPersisted host.inspectedBefore).Takes 1 ↔ r.HasRoom 2 :=
      and_iff_left (a := _) htext
    unfold OutcomeSound
    cases hanswer : host.disallocateVtOnce with
    | ok u =>
      refine (adminSat_retryDisallocated_iff hw₂ hopen (nextAttemptId_ne_zero r)).trans
        ((imp_congr htwo ?_))
      by_cases hbackground : host.inspectedAfter.targetIsForeground = some false
      · rw [if_pos hbackground, if_pos (by rw [decide_eq_true hbackground]; rfl)]
        exact freedSound_iff htext
      · rw [if_neg hbackground, if_neg (by rw [decide_eq_false hbackground]; exact nofun)]
        exact Iff.rfl
    | error e =>
      have hfailed : ∀ {p : Prop}, (p ↔ ((r.attempting boot .intentPersisted
          host.inspectedBefore).Takes 1 → r.operationLedger.vtDisallocate.hasResult = true)) →
            (p ↔ (r.HasRoom 2 → r.operationLedger.vtDisallocate.hasResult = true)) :=
        fun hp => hp.trans (imp_congr htwo Iff.rfl)
      cases e with
      | vtDisallocateBusy => exact hfailed (adminSat_retryBusy_iff hw₂ hopen)
      | _ => exact hfailed (adminSat_retryFailed_iff hw₂ hopen)
  · rw [hone, ← hsequence, safeWrite_attempt_iff h.readable rfl]

theorem adminSat_retryRejected_iff (h : OpenRecord request.recordId r w.recovery)
    (hsequence : r.sequence = request.recordSequence) (htext : stateTextValid r.state = true) :
    AdminSat request.recordId (retryRejected host request r) w (fun _ _ => True) ↔
      (r.HasRoom 1 → AppendFits r) := by
  refine adminSat_bind_iff.trans ((adminSat_rewrite_iff True h (rewrites_append _)
    (fun _ _ => trivial) fun _ _ _ => Iff.rfl).trans ?_)
  rw [and_true, ← hsequence, safeWrite_attempt_iff h.readable rfl]
  exact imp_congr (and_iff_left htext) Iff.rfl

theorem retryRefusal_eq_none {l : PersistentRecoveryLedger}
    (h : retryRefusal host request l r = none) :
    r.sequence = request.recordSequence ∧ r.state = "quarantined" := by
  unfold retryRefusal at h
  split at h
  · cases h
  next hsame =>
    split at h
    · cases h
    next heligible =>
      rw [not_or, Decidable.not_not, Decidable.not_not] at hsame
      rw [not_or, not_or, Decidable.not_not] at heligible
      exact ⟨hsame.2, heligible.2.1⟩

theorem adminSat_recoveryAdmin_iff (host : RecoveryAdminHost)
    (hget : w.ledger.get request.recordId = some r)
    (hread : ReadableRecord r) (hvalid : validateRecord r = true) :
    AdminSat request.recordId (recoveryAdmin host request) w (fun _ _ => True) ↔
      RetrySound w host request r := by
  refine adminSat_readAdmin_iff.trans ?_
  unfold RetrySound
  rw [hget]
  dsimp only
  cases hrefusal : retryRefusal host request w.ledger r with
  | some reason => exact iff_of_true trivial fun hnone => by cases hnone
  | none =>
    obtain ⟨hsequence, hstate⟩ := retryRefusal_eq_none hrefusal
    have htext : stateTextValid r.state = true := by
      rw [hstate]
      decide
    have hopen : OpenRecord request.recordId r w.recovery :=
      ⟨hget, hread, hvalid, by rw [hstate]; decide⟩
    rw [imp_iff_right rfl]
    cases hvt : host.persistedVtIdentity with
    | error e => exact iff_of_true trivial fun vt hok => by cases hok
    | ok vt =>
      simp only [Except.ok.injEq, forall_eq']
      split
      · exact adminSat_retryRejected_iff hopen hsequence htext
      · refine (adminSat_retryOnce_iff hopen hsequence htext).trans ?_
        exact ⟨fun hsound hroom hentered => hsound hentered hroom,
          fun hsound hentered hroom => hsound hroom hentered⟩

end Retries

/-- A retry leaves only files on disk that the next start takes over as records of the seat,
whatever the file system answers and wherever it is cut off, exactly for these records, requests
and hosts. -/
theorem admin_readable_iff (w : AdminWorld) (host : RecoveryAdminHost)
    (request : RetryVtDisallocate) (r : PersistentRecoveryRecord) (hr : LoadedRecord w.ledger r)
    (hvalid : validateRecord r = true) (hid : request.recordId = r.lifecycleId) :
    (∀ answers f, ((Retrying.begin w host request).after answers).1.ledger.file r.lifecycleId =
        some f → readsBack f = true ∧ f.record.seat = r.seat) ↔ RetrySound w host request r := by
  have hread : ReadableRecord r := (validateHistoricalRecord_eq_nil r).mp hr.noViolation
  have hself : ValidOf r.seat r := ⟨hvalid, rfl⟩
  have hof : ∀ answers, RecordHas (ValidOf r.seat) r.lifecycleId
      ((Retrying.begin w host request).after answers).1.ledger := fun answers => by
    refine Program.foldl_step_invariant (RecordHas (ValidOf r.seat) r.lifecycleId ·.ledger)
      (fun _ request x hs => validOf_perform hs request x) (recoveryAdmin host request)
      ⟨fun r' hr' => ?_, fun f hf => hr.disk f hf ▸ hself⟩ answers
    cases hr.memory.symm.trans hr'
    exact hself
  have hsound := adminSat_recoveryAdmin_iff host (hid ▸ hr.memory) hread hvalid
  rw [hid] at hsound
  refine Iff.trans ?_ (((adminSafeStep_admitsReadable r.lifecycleId).sat_iff hr.readable).trans
    hsound)
  constructor
  · intro h answers f hf
    have hback := (h answers f hf).1
    rw [readsBack, Bool.and_eq_true, List.isEmpty_iff] at hback
    exact (validateHistoricalRecord_eq_nil _).mp hback.2
  · intro h answers f hf
    have hvalidOf := (hof answers).disk f hf
    have hnone := (validateHistoricalRecord_eq_nil _).mpr (h answers f hf)
    refine ⟨?_, hvalidOf.2⟩
    rw [readsBack, hvalidOf.1, hnone]
    rfl

section BusyTerminal

def busyProvenance : VtBusyProvenance := ⟨3, some 2, some false, .kernelBusyUnattributed⟩

def busyRecord : PersistentRecoveryRecord where
  lifecycleId := "worker-1"
  sequence := 9
  createdBootId := "boot-1"
  lastUpdatedBootId := "boot-1"
  state := "quarantined"
  uid := 1000
  seat := "seat0"
  workerPid := 100
  launcherPid := 99
  targetVt := some 3
  previousVt := some 2
  operationLedger := {
    payloadKill := .confirmed 2, supervisorUnref := .confirmed 4, vtDisallocate := .failed 6 ebusy }
  quarantineReason := some "vt_disallocate_busy"
  vtBusyProvenance := some busyProvenance

def busyWorld : AdminWorld where
  recovery := { ledger := { records := [busyRecord], files := [⟨1, busyRecord⟩] } }
  admission := .new "seat0" .free

def busyRequest : RetryVtDisallocate := ⟨"seat0", "worker-1", 9, none⟩

/-- Everything of the session is gone but the terminal, and the ioctl ends as given. -/
def retryHost (disallocate : Except SupervisorRecoveryError Unit) : RecoveryAdminHost where
  bootId := some "boot-1"
  boundaryAbsent := true
  persistedVtIdentity := .ok ⟨"seat0", 3, ⟨2⟩, 4, 3⟩
  inspectedBefore := busyProvenance
  disallocateVtOnce := disallocate
  inspectedAfter := busyProvenance
  runtimeRelease := .ok ()

theorem busyRecord_readable : ReadableRecord busyRecord := by
  refine ⟨by decide, by decide, by decide, fun op => ?_, fun op op' hlt a b ha hb => ?_,
    fun h => absurd h (by decide), fun h => absurd h (by decide), fun h => absurd h (by decide),
    ⟨by simp [sortedVtAttempts, busyRecord],
      by simp [sortedVtAttempts, busyRecord, windowsAny]⟩, fun _ _ _ => rfl⟩
  · cases op <;> decide
  · revert hlt ha hb
    cases op <;> cases op' <;> simp +decide [busyRecord, DurableOperationLedger.get,
      DurableOperationState.attemptId] <;> omega

theorem busyRecord_valid : validateRecord busyRecord = true := by decide

theorem busyWorld_loaded : LoadedRecord busyWorld.ledger busyRecord := by
  refine ⟨rfl, fun f hf => ?_, (validateHistoricalRecord_eq_nil _).mpr busyRecord_readable⟩
  have : f = ⟨1, busyRecord⟩ := (Option.some.inj hf).symm
  rw [this]

def sevenSynced : List StartupAnswer := List.replicate 7 { write := ⟨some "boot-1", .synced⟩ }

/-- The terminal is still busy: the attempt takes its result, and the record can be read at every
point of the retry. -/
theorem busyAgain_readable : LoadedRecord busyWorld.ledger busyRecord ∧ ∀ answers f,
    ((Retrying.begin busyWorld (retryHost (.error .vtDisallocateBusy)) busyRequest).after
      answers).1.ledger.file "worker-1" = some f → readsBack f = true ∧ f.record.seat = "seat0" := by
  have hsound : RetrySound busyWorld (retryHost (.error .vtDisallocateBusy)) busyRequest
      busyRecord := by
    rintro - vt ⟨⟩ -
    rw [if_neg (by decide)]
    refine fun _ => ⟨fun a ha => ?_, fun _ => ?_⟩
    · rw [show keptAttempts busyRecord.vtRecoveryAttempts = [] from by decide] at ha
      cases ha
    · unfold OutcomeSound
      rw [if_neg (by decide)]
      rfl
  exact ⟨busyWorld_loaded, (admin_readable_iff busyWorld (retryHost (.error .vtDisallocateBusy))
    busyRequest busyRecord busyWorld_loaded busyRecord_valid rfl).mpr hsound⟩

/-- The retry that frees the terminal stores its own small attempt id after larger ones, and the
next start refuses the record. -/
theorem freedTerminal_unreadable : LoadedRecord busyWorld.ledger busyRecord ∧
    validateRecord busyRecord = true ∧
    ¬ ∀ answers f, ((Retrying.begin busyWorld (retryHost (.ok ())) busyRequest).after
      answers).1.ledger.file "worker-1" = some f → readsBack f = true ∧ f.record.seat = "seat0" := by
  refine ⟨busyWorld_loaded, by decide, fun h => ?_⟩
  have hback := (h (sevenSynced.take 5) _ rfl).1
  rw [readsBack, Bool.and_eq_true, List.isEmpty_iff] at hback
  have hrise := ((validateHistoricalRecord_eq_nil _).mp hback.2).rise .supervisorUnref
    .vtDisallocate (by decide) 4 1 rfl rfl
  exact absurd hrise (by decide)

end BusyTerminal

end Niralis
