import Niralis.PrecommitRuntime

namespace Niralis
open Calls

namespace PreCommitRuntimeStore

/-- A kill comes right after the process with the record's pid was seen with the record's start time
and executable; the record is of this boot, and its launch was not taken over by the ledger. -/
def KillJustified (records : List PreCommitRuntimeRecord) (currentBoot : String)
    (ledger : Option PersistentRecoveryLedger) (before : List (Sigma StartupCall.Answer))
    (x : Sigma StartupCall.Answer) : Prop :=
  ∀ target, x.1 = .kill target sigkill → ∃ r ∈ records, r.bootId = currentBoot ∧
    ¬(r.handoffCommitted = true ∧ exactA3RecordExists ledger r = true) ∧
    ∃ pid starttime executable, r.workerPid = some pid ∧ r.workerStarttime = some starttime ∧
      r.workerExecutable = some executable ∧ target = asPid pid ∧
      ∃ earlier first second, procStarttime second = some starttime ∧
        before = earlier ++ [⟨.readStat pid, first⟩, ⟨.readStat pid, second⟩,
          ⟨.statExe pid, some executable⟩]

def Quiet (log : List (Sigma StartupCall.Answer)) : Prop :=
  ∀ x ∈ log, ∀ target, x.1 ≠ .kill target sigkill

section Steps
variable {records : List PreCommitRuntimeRecord} {currentBoot : String}
  {ledger : Option PersistentRecoveryLedger} {log more : List (Sigma StartupCall.Answer)}
  {r : PreCommitRuntimeRecord}

theorem quiet_nil : Quiet [] := by simp [Quiet]

theorem Quiet.append (hlog : Quiet log) (hmore : Quiet more) : Quiet (log ++ more) := by
  intro x hx
  rcases List.mem_append.mp hx with hx | hx
  · exact hlog x hx
  · exact hmore x hx

theorem quiet_cons {x : Sigma StartupCall.Answer} (hx : ∀ target, x.1 ≠ .kill target sigkill)
    (hlog : Quiet log) : Quiet (x :: log) := List.forall_mem_cons.mpr ⟨hx, hlog⟩

theorem Quiet.throughout (hlog : Quiet log) :
    Throughout (KillJustified records currentBoot ledger) log := by
  rintro before x after rfl target hkill
  exact absurd hkill (hlog x (by simp) target)

theorem KillJustified.after {before : List (Sigma StartupCall.Answer)} {x : Sigma StartupCall.Answer}
    (h : KillJustified records currentBoot ledger before x) :
    KillJustified records currentBoot ledger (log ++ before) x := by
  intro target hkill
  obtain ⟨r, hr, hboot, hcommitted, pid, starttime, executable, hpid, hstart, hexe, htarget,
    earlier, first, second, hseen, rfl⟩ := h target hkill
  exact ⟨r, hr, hboot, hcommitted, pid, starttime, executable, hpid, hstart, hexe, htarget,
    log ++ earlier, first, second, hseen, by rw [List.append_assoc]⟩

theorem throughout_append (hlog : Throughout (KillJustified records currentBoot ledger) log)
    (hmore : Throughout (KillJustified records currentBoot ledger) more) :
    Throughout (KillJustified records currentBoot ledger) (log ++ more) :=
  hlog.append (hmore.imp fun _ _ h => h.after)

theorem inspectWorkerIdentity_yields {status : WorkerIdentityStatus}
    (h : (inspectWorkerIdentity r).Yields log (.ok status)) :
    Quiet log ∧ (status = .exact → ∃ pid starttime executable first second,
      r.workerPid = some pid ∧ r.workerStarttime = some starttime ∧
      r.workerExecutable = some executable ∧ procStarttime second = some starttime ∧
      log = [⟨.readStat pid, first⟩, ⟨.readStat pid, second⟩, ⟨.statExe pid, some executable⟩]) := by
  unfold inspectWorkerIdentity at h
  split at h
  · obtain ⟨rfl, hstatus⟩ := h
    cases hstatus
    exact ⟨quiet_nil, by simp⟩
  · obtain ⟨rfl, hstatus⟩ := h
    cases hstatus
    exact ⟨quiet_nil, by simp⟩
  · obtain ⟨rfl, hstatus⟩ := h
    cases hstatus
    exact ⟨quiet_nil, by simp⟩
  rename_i pid starttime executable hpid hstart hexe
  rw [yields_ask_bind] at h
  obtain ⟨first, _, rfl, h⟩ := h
  split at h
  · obtain ⟨rfl, hstatus⟩ := h
    cases hstatus
    exact ⟨quiet_cons (by simp) quiet_nil, by simp⟩
  rw [yields_ask_bind] at h
  obtain ⟨second, _, rfl, h⟩ := h
  split at h
  · obtain ⟨rfl, hstatus⟩ := h
    cases hstatus
    exact ⟨quiet_cons (by simp) (quiet_cons (by simp) quiet_nil), by simp⟩
  rename_i hseen
  rw [yields_ask_bind] at h
  obtain ⟨exe, _, rfl, rfl, hstatus⟩ := h
  refine ⟨quiet_cons (by simp) (quiet_cons (by simp) (quiet_cons (by simp) quiet_nil)), ?_⟩
  intro hexact
  subst hexact
  have hsame : exe = some executable := by
    by_contra hne
    rw [if_neg hne] at hstatus
    cases hstatus
  subst hsame
  exact ⟨pid, starttime, executable, first, second, hpid, hstart, hexe, Decidable.not_not.mp hseen, rfl⟩

theorem awaitExit_yields {pid looks : Nat} {gone : Bool}
    (h : (awaitExit pid looks).Yields log (.ok gone)) : Quiet log := by
  induction looks generalizing log with
  | zero =>
    obtain ⟨rfl, -⟩ := h
    exact quiet_nil
  | succ looks ih =>
    rw [awaitExit, yields_ask_bind] at h
    obtain ⟨stat, _, rfl, h⟩ := h
    split at h
    · obtain ⟨rfl, -⟩ := h
      exact quiet_cons (by simp) quiet_nil
    rw [yields_ask_bind] at h
    obtain ⟨probe, rest, rfl, h⟩ := h
    have hrest : Quiet rest := by
      split at h
      · obtain ⟨rfl, -⟩ := h
        exact quiet_nil
      · exact ih h
    exact quiet_cons (by simp) (quiet_cons (by simp [sigkill]) hrest)

theorem killExactPid_yields {pid : Nat} {killed : Bool}
    (h : (killExactPid pid).Yields log (.ok killed)) :
    ∃ answer rest, log = ⟨.kill (asPid pid) sigkill, answer⟩ :: rest ∧ Quiet rest := by
  rw [killExactPid, yields_ask_bind] at h
  obtain ⟨answer, rest, rfl, h⟩ := h
  refine ⟨answer, rest, rfl, ?_⟩
  cases answer with
  | ok => exact awaitExit_yields h
  | notFound =>
    obtain ⟨rfl, -⟩ := h
    exact quiet_nil
  | failed =>
    obtain ⟨rfl, -⟩ := h
    exact quiet_nil

theorem removeRecordById_yields {s t : PreCommitRuntimeStore} {lifecycleId : String} {removed : Bool}
    (h : (s.removeRecordById lifecycleId).Yields log (.ok (removed, t))) :
    Quiet log ∧ (removed = true ∧ t = { s with records := s.records.remove lifecycleId } ∨
      removed = false ∧ t = s) := by
  unfold removeRecordById at h
  split at h
  · obtain ⟨rfl, hresult⟩ := h
    cases hresult
    exact ⟨quiet_nil, Or.inr ⟨rfl, rfl⟩⟩
  rw [yields_ask_bind] at h
  obtain ⟨answer, _, rfl, rfl, hresult⟩ := h
  refine ⟨quiet_cons (by simp) quiet_nil, ?_⟩
  split at hresult
  · cases hresult
    exact Or.inl ⟨rfl, rfl⟩
  · cases hresult
    exact Or.inr ⟨rfl, rfl⟩

/-- A record is cleared and counted so, or it stays and is counted as quarantined. -/
def Settled (r : PreCommitRuntimeRecord) (c c' : Counted) : Prop :=
  c'.1.records = c.1.records.remove r.lifecycleId ∧ c'.2.cleared = c.2.cleared + 1 ∧
    c'.2.quarantined = c.2.quarantined ∨
  c'.1.records = c.1.records ∧ c'.2.cleared = c.2.cleared ∧
    c'.2.quarantined = c.2.quarantined + 1

theorem clearOrQuarantine_yields {c c' : Counted}
    (h : (clearOrQuarantine c r).Yields log (.ok c')) : Quiet log ∧ Settled r c c' := by
  rw [clearOrQuarantine, yields_bind_ok] at h
  obtain ⟨before, _, ⟨removed, s⟩, rfl, hremove, rfl, hresult⟩ := h
  obtain ⟨hquiet, hremoved⟩ := removeRecordById_yields hremove
  have hc := Except.ok.inj hresult
  subst hc
  rw [List.append_nil]
  refine ⟨hquiet, ?_⟩
  rcases hremoved with ⟨rfl, rfl⟩ | ⟨rfl, rfl⟩
  · exact Or.inl ⟨rfl, rfl, rfl⟩
  · exact Or.inr ⟨rfl, rfl, rfl⟩

theorem clearEarlierBoot_yields {c c' : Counted} (hr : (c.1.records.get r.lifecycleId).isSome)
    (h : (clearEarlierBoot c r).Yields log (.ok c')) : Quiet log ∧ Settled r c c' := by
  rw [clearEarlierBoot, yields_bind_ok] at h
  obtain ⟨before, _, ⟨removed, s⟩, rfl, hremove, rfl, hresult⟩ := h
  obtain ⟨hquiet, hremoved⟩ := removeRecordById_yields hremove
  have hc := Except.ok.inj hresult
  rw [List.append_nil]
  refine ⟨hquiet, ?_⟩
  rcases hremoved with ⟨rfl, rfl⟩ | ⟨rfl, rfl⟩
  · have hgone : ((c.1.records.remove r.lifecycleId).get r.lifecycleId).isNone = true := by
      simp [PrecommitRecords.get, PrecommitRecords.remove]
    rw [if_pos hgone] at hc
    subst hc
    exact Or.inl ⟨rfl, rfl, rfl⟩
  · have hkept : ¬(c.1.records.get r.lifecycleId).isNone = true := by
      rw [Bool.not_eq_true, Option.isNone_eq_false_iff]
      exact hr
    rw [if_neg hkept] at hc
    subst hc
    exact Or.inr ⟨rfl, rfl, rfl⟩

theorem reconcileRecord_yields {c c' : Counted} (hr : (c.1.records.get r.lifecycleId).isSome)
    (hmem : r ∈ records) (h : (reconcileRecord currentBoot ledger c r).Yields log (.ok c')) :
    Throughout (KillJustified records currentBoot ledger) log ∧ Settled r c c' := by
  unfold reconcileRecord at h
  split at h
  · obtain ⟨hquiet, hsettled⟩ := clearEarlierBoot_yields hr h
    exact ⟨hquiet.throughout, hsettled⟩
  rename_i hboot
  split at h
  · obtain ⟨hquiet, hsettled⟩ := clearOrQuarantine_yields h
    exact ⟨hquiet.throughout, hsettled⟩
  rename_i hcommitted
  rw [yields_bind_ok] at h
  obtain ⟨inspected, rest, status, rfl, hinspect, h⟩ := h
  obtain ⟨hquiet, hexact⟩ := inspectWorkerIdentity_yields hinspect
  cases status with
  | absent =>
    obtain ⟨hrest, hsettled⟩ := clearOrQuarantine_yields h
    exact ⟨(hquiet.append hrest).throughout, hsettled⟩
  | indeterminate =>
    obtain ⟨rfl, hresult⟩ := h
    cases hresult
    rw [List.append_nil]
    exact ⟨hquiet.throughout, Or.inr ⟨rfl, rfl, rfl⟩⟩
  | exact =>
    obtain ⟨pid, starttime, executable, first, second, hpid, hstart, hexe, hseen, rfl⟩ := hexact rfl
    dsimp only at h
    rw [hpid, Option.getD_some, yields_bind_ok] at h
    obtain ⟨killing, clearing, killed, rfl, hkill, h⟩ := h
    obtain ⟨answer, awaiting, rfl, hawaiting⟩ := killExactPid_yields hkill
    -- what the inspection read justifies the kill
    have hjustified : KillJustified records currentBoot ledger
        [⟨.readStat pid, first⟩, ⟨.readStat pid, second⟩, ⟨.statExe pid, some executable⟩]
        ⟨.kill (asPid pid) sigkill, answer⟩ := by
      intro target htarget
      cases htarget
      refine ⟨r, hmem, Decidable.not_not.mp hboot, ?_, pid, starttime, executable, hpid, hstart, hexe,
        rfl, [], first, second, hseen, rfl⟩
      simpa using hcommitted
    have hsettled : Quiet clearing ∧ Settled r c c' := by
      cases killed with
      | true => exact clearOrQuarantine_yields h
      | false =>
        obtain ⟨rfl, hresult⟩ := h
        cases hresult
        exact ⟨quiet_nil, Or.inr ⟨rfl, rfl, rfl⟩⟩
    refine ⟨hquiet.throughout.append ?_, hsettled.2⟩
    rw [List.cons_append]
    refine throughout_cons.mpr ⟨?_, ?_⟩
    · rw [List.append_nil]
      exact hjustified
    · rintro before x after hsplit target hx
      exact absurd hx ((hawaiting.append hsettled.1) x (by rw [hsplit]; simp) target)

/-- How many of the records are, or are not, in a store. -/
def gone (s : PreCommitRuntimeStore) (rs : List PreCommitRuntimeRecord) : Nat :=
  rs.countP fun r => (s.records.get r.lifecycleId).isNone

def kept (s : PreCommitRuntimeStore) (rs : List PreCommitRuntimeRecord) : Nat :=
  rs.countP fun r => (s.records.get r.lifecycleId).isSome

theorem gone_add_kept (s : PreCommitRuntimeStore) (rs : List PreCommitRuntimeRecord) :
    s.gone rs + s.kept rs = rs.length := by
  unfold gone kept
  rw [List.length_eq_countP_add_countP fun r => (s.records.get r.lifecycleId).isNone]
  congr 1
  refine List.countP_congr fun r _ => ?_
  cases s.records.get r.lifecycleId <;> simp

theorem Settled.get_of_ne {c c' : Counted} (h : Settled r c c') {lifecycleId : String}
    (hne : lifecycleId ≠ r.lifecycleId) :
    c'.1.records.get lifecycleId = c.1.records.get lifecycleId := by
  rcases h with ⟨hrecords, -, -⟩ | ⟨hrecords, -, -⟩
  · rw [hrecords]
    exact KeyedTable.get_remove_of_ne hne
  · rw [hrecords]

/-- Records that differ in their ids are settled one after the other, and none of them touches what
became of another. -/
theorem reconcileRecords_yields {c c' : Counted} {rs : List PreCommitRuntimeRecord}
    (hnodup : (rs.map (·.lifecycleId)).Nodup)
    (hrs : ∀ r ∈ rs, (c.1.records.get r.lifecycleId).isSome) (hmem : rs ⊆ records)
    (h : (reconcileRecords currentBoot ledger c rs).Yields log (.ok c')) :
    Throughout (KillJustified records currentBoot ledger) log ∧
      c'.2.cleared = c.2.cleared + c'.1.gone rs ∧
      c'.2.quarantined = c.2.quarantined + c'.1.kept rs ∧
      ∀ lifecycleId, lifecycleId ∉ rs.map (·.lifecycleId) →
        c'.1.records.get lifecycleId = c.1.records.get lifecycleId := by
  induction rs generalizing c log with
  | nil =>
    obtain ⟨rfl, hresult⟩ := h
    cases hresult
    exact ⟨throughout_nil, by simp [gone], by simp [kept], fun _ _ => rfl⟩
  | cons r rs ih =>
    rw [reconcileRecords, yields_bind_ok] at h
    obtain ⟨first, rest, c₁, rfl, hfirst, h⟩ := h
    rw [List.map_cons, List.nodup_cons] at hnodup
    obtain ⟨hjustified, hsettled⟩ := reconcileRecord_yields (hrs r List.mem_cons_self)
      (hmem List.mem_cons_self) hfirst
    have hothers : ∀ r' ∈ rs, r'.lifecycleId ≠ r.lifecycleId := by
      intro r' hr' heq
      exact hnodup.1 (List.mem_map.mpr ⟨r', hr', heq⟩)
    have hrs₁ : ∀ r' ∈ rs, (c₁.1.records.get r'.lifecycleId).isSome := by
      intro r' hr'
      rw [hsettled.get_of_ne (hothers r' hr')]
      exact hrs r' (List.mem_cons_of_mem _ hr')
    obtain ⟨hmore, hcleared, hquarantined, hframe⟩ :=
      ih hnodup.2 hrs₁ (fun _ hr' => hmem (List.mem_cons_of_mem _ hr')) h
    -- the records after this one leave its own entry as it is
    have hself : c'.1.records.get r.lifecycleId = c₁.1.records.get r.lifecycleId :=
      hframe _ hnodup.1
    refine ⟨throughout_append hjustified hmore, ?_, ?_, ?_⟩
    · rw [hcleared, gone, gone, List.countP_cons, hself]
      rcases hsettled with ⟨hrecords, hcount, -⟩ | ⟨hrecords, hcount, -⟩
      · have hnone : (c₁.1.records.get r.lifecycleId).isNone = true := by
          rw [hrecords]
          simp [PrecommitRecords.get, PrecommitRecords.remove]
        rw [if_pos hnone, hcount]
        omega
      · have hsome : ¬(c₁.1.records.get r.lifecycleId).isNone = true := by
          rw [hrecords, Bool.not_eq_true, Option.isNone_eq_false_iff]
          exact hrs r List.mem_cons_self
        rw [if_neg hsome, hcount]
        omega
    · rw [hquarantined, kept, kept, List.countP_cons, hself]
      rcases hsettled with ⟨hrecords, -, hcount⟩ | ⟨hrecords, -, hcount⟩
      · have hnone : ¬(c₁.1.records.get r.lifecycleId).isSome = true := by
          rw [hrecords]
          simp [PrecommitRecords.get, PrecommitRecords.remove]
        rw [if_neg hnone, hcount]
        omega
      · have hsome : (c₁.1.records.get r.lifecycleId).isSome = true := by
          rw [hrecords]
          exact hrs r List.mem_cons_self
        rw [if_pos hsome, hcount]
        omega
    · intro lifecycleId hnot
      rw [List.map_cons, List.mem_cons, not_or] at hnot
      rw [hframe lifecycleId hnot.2, hsettled.get_of_ne hnot.1]

end Steps

theorem values_nodup (t : PrecommitRecords) : (t.values.map (·.lifecycleId)).Nodup := by
  have hids : t.values.map (·.lifecycleId) = t.table.entries.map Prod.fst := by
    rw [PrecommitRecords.values, List.map_map]
    exact List.map_congr_left fun entry hentry => t.keyed entry hentry
  rw [hids]
  exact t.table.nodup

theorem get_of_mem_values {t : PrecommitRecords} {r : PreCommitRuntimeRecord} (h : r ∈ t.values) :
    t.get r.lifecycleId = some r := by
  obtain ⟨entry, hentry, rfl⟩ := List.mem_map.mp h
  have hkey : entry.2.lifecycleId = entry.1 := t.keyed entry hentry
  rw [PrecommitRecords.get, KeyedTable.get_eq_some_iff, hkey]
  exact hentry

/-- Whatever the host answers: every record found at startup is counted once, as cleared if it is no
longer in the store and else as quarantined, and a worker is killed only where it is recognized, in
this boot, and its launch is not in the ledger with the same seat and boot. -/
theorem startup_partitions (s : PreCommitRuntimeStore) (currentBoot : String)
    (ledger : Option PersistentRecoveryLedger) (host : Host StartupCall.Answer) :
    ∃ t summary log, (s.reconcileStartup (some currentBoot) ledger).run host [] =
        (.ok (t, summary), log) ∧
      summary.cleared = t.gone s.records.values ∧ summary.quarantined = t.kept s.records.values ∧
      summary.cleared + summary.quarantined = s.records.values.length ∧
      (0 < summary.quarantined → t.startupQuarantined = true) ∧
      Throughout (KillJustified s.records.values currentBoot ledger) log := by
  cases hrun : (s.reconcileStartup (some currentBoot) ledger).run host [] with
  | mk result log =>
  cases result with
  | error e => cases e
  | ok c =>
    have hyields := yields_of_run hrun
    rw [reconcileStartup, yields_bind_ok] at hyields
    obtain ⟨_, _, ⟨t, summary⟩, rfl, hrecords, rfl, hresult⟩ := hyields
    rw [List.append_nil] at hrun ⊢
    cases hresult
    obtain ⟨hjustified, hcleared, hquarantined, -⟩ := reconcileRecords_yields
      (values_nodup s.records) (fun r hr => by rw [get_of_mem_values hr]; rfl)
      (List.Subset.refl _) hrecords
    rw [Nat.zero_add] at hcleared hquarantined
    refine ⟨_, _, _, rfl, hcleared, hquarantined, ?_, fun hpos => ?_, hjustified⟩
    · rw [hcleared, hquarantined]
      exact t.gone_add_kept _
    · simp [hpos]

def handedOff : PreCommitRuntimeRecord where
  formatVersion := 1
  transactionId := "login-1"
  admissionAttemptId := 1
  lifecycleId := "login-1"
  seat := "seat0"
  seatGeneration := 1
  bootId := "boot-1"
  stage := "handoff_started"
  workerPid := some 41
  workerStarttime := some 100
  workerExecutable := some (8, 9)
  channelWorkerId := none
  sequence := 3
  handoffCommitted := true

def elsewhere : PersistentRecoveryLedger where
  records := [{ lifecycleId := "login-1", sequence := 1, createdBootId := "boot-1",
                lastUpdatedBootId := "boot-1", state := "created", uid := 1000, seat := "seat1",
                workerPid := 41, launcherPid := 42 }]

/-- The worker with pid 41 is there, and is a zombie after it was killed. -/
def workerAlive : Host StartupCall.Answer := fun log call =>
  match call with
  | .readStat _ =>
    let state := if log.length ≤ 2 then 'S' else 'Z'
    some ("41 (niralis) ".toList ++ state :: " 0 0 0 0 0 0 0 0 0 0 0 0 0 0 0 0 0 0 100 0".toList)
  | .statExe _ => some (8, 9)
  | .kill _ _ => .ok
  | .removeRecord _ => .removed

/-- The worker of a committed launch is killed although its lifecycle is in the ledger. -/
theorem committed_launch_killed :
    ∃ s, loadPrecommitRecords [.json 512 (some handedOff)] = some s ∧ handedOff ∈ s.values ∧
      handedOff.handoffCommitted = true ∧
      (∃ a3 ∈ elsewhere.records, a3.lifecycleId = handedOff.lifecycleId ∧ validateRecord a3 = true) ∧
      (⟨.kill 41 sigkill, .ok⟩ : Sigma StartupCall.Answer) ∈
        (((PreCommitRuntimeStore.open s).reconcileStartup (some "boot-1") (some elsewhere)).run
          workerAlive []).2 := by
  refine ⟨PrecommitRecords.empty.insert handedOff, rfl, List.mem_cons_self, rfl, ?_, ?_⟩
  · exact ⟨_, List.mem_singleton.mpr rfl, by decide⟩
  · have hlog : (((PreCommitRuntimeStore.open (PrecommitRecords.empty.insert handedOff)).reconcileStartup
        (some "boot-1") (some elsewhere)).run workerAlive []).2[3]? =
        some ⟨.kill 41 sigkill, .ok⟩ := by
      rfl
    exact List.mem_of_getElem? hlog

end PreCommitRuntimeStore

end Niralis
