import Niralis.LedgerFrames
import Niralis.StartupProgram

namespace Niralis
open PersistentRecoveryLedger

/-- If the step writes record `id` and the new file reaches the disk, the write is a safe one. -/
def SafeStep (id : String) (w : StartupWorld) (request : StartupRequest) (answer : StartupAnswer) :
    Prop :=
  ∀ write r next, request = .write id write → w.ledger.get id = some r →
    write.apply r answer.write.bootId = some next → validateRecord next = true →
    answer.write.commit ≠ .notRenamed → SafeWrite r write

/-- The record in memory and the one on disk both have a property. -/
structure RecordHas (P : PersistentRecoveryRecord → Prop) (id : String)
    (l : PersistentRecoveryLedger) : Prop where
  memory : ∀ r, l.get id = some r → P r
  disk : ∀ f, l.file id = some f → P f.record

/-- The record in memory and the one on disk can both be read back. -/
abbrev RecordReadable (id : String) (l : PersistentRecoveryLedger) : Prop :=
  RecordHas ReadableRecord id l

structure RecordKept (id : String) (l l' : PersistentRecoveryLedger) : Prop where
  memory : l'.get id = l.get id ∨ l'.get id = none
  disk : l'.file id = l.file id ∨ l'.file id = none

theorem RecordKept.refl (id : String) (l : PersistentRecoveryLedger) : RecordKept id l l :=
  ⟨Or.inl rfl, Or.inl rfl⟩

theorem RecordHas.kept {P : PersistentRecoveryRecord → Prop} {id : String}
    {l l' : PersistentRecoveryLedger} (h : RecordHas P id l) (hk : RecordKept id l l') :
    RecordHas P id l' := by
  constructor
  · intro r hr
    rcases hk.memory with hm | hm
    · exact h.memory r (hm ▸ hr)
    · rw [hm] at hr
      cases hr
  · intro f hf
    rcases hk.disk with hd | hd
    · exact h.disk f (hd ▸ hf)
    · rw [hd] at hf
      cases hf

theorem recordKept_removeResolved (id id' : String) (l : PersistentRecoveryLedger)
    (answer : RemoveAnswer) : RecordKept id l (l.removeResolved id' answer).2 := by
  have hfile : ∀ k, KeyedList.lookup RecordFile.lifecycleId id
      (KeyedList.erase RecordFile.lifecycleId k l.files) = l.file id ∨
      KeyedList.lookup RecordFile.lifecycleId id
        (KeyedList.erase RecordFile.lifecycleId k l.files) = none := fun k => by
    by_cases hk : id = k
    · rw [hk]
      exact Or.inr KeyedList.lookup_erase_self
    · exact Or.inl (KeyedList.lookup_erase_of_ne hk)
  have hget : ∀ k, KeyedList.lookup (·.lifecycleId) id
      (KeyedList.erase (·.lifecycleId) k l.records) = l.get id ∨
      KeyedList.lookup (·.lifecycleId) id
        (KeyedList.erase (·.lifecycleId) k l.records) = none := fun k => by
    by_cases hk : id = k
    · rw [hk]
      exact Or.inr KeyedList.lookup_erase_self
    · exact Or.inl (KeyedList.lookup_erase_of_ne hk)
  unfold removeResolved
  split
  · exact RecordKept.refl id l
  · split
    · exact RecordKept.refl id l
    · cases answer with
      | notRemoved => exact RecordKept.refl id l
      | notSynced => exact ⟨Or.inl rfl, hfile id'⟩
      | synced => exact ⟨hget id', hfile id'⟩

theorem recordKept_write_of_ne {id id' : String} (h : id ≠ id') (l : PersistentRecoveryLedger)
    (w : RecordWrite) (answer : WriteAnswer) : RecordKept id l (l.write id' w answer).2 := by
  rcases write_cases l id' w answer with hw | ⟨r, next, hget, happly, -, -, hw⟩
  · rw [hw]
    exact RecordKept.refl id l
  · have hid : id ≠ next.lifecycleId := by
      rw [(writeResult_of_apply happly).lifecycleId, lifecycleId_of_get hget]
      exact h
    rw [hw]
    split
    · exact ⟨Or.inl (by simp [get_putRecord, hid]), Or.inl (by simp [file_putFile, hid])⟩
    · exact ⟨Or.inl rfl, Or.inl (by simp [file_putFile, hid])⟩

theorem recordKept_perform {id : String} (w : StartupWorld) (request : StartupRequest)
    (answer : StartupAnswer) (h : ∀ write, request ≠ .write id write) :
    RecordKept id w.ledger (w.perform request answer).2.ledger := by
  cases request with
  | write id' write =>
    refine recordKept_write_of_ne (fun heq => ?_) w.ledger write answer.write
    exact h write (heq ▸ rfl)
  | removeResolved id' => exact recordKept_removeResolved id id' w.ledger answer.remove
  | removeRecordExact id' expected =>
    simp only [StartupWorld.perform, StartupWorld.onLedger]
    rcases removeRecordExact_cases w.ledger id' expected answer.remove with hr | hr
    · rw [hr]
      exact RecordKept.refl id _
    · rw [hr]
      exact recordKept_removeResolved id id' w.ledger answer.remove
  | persistJournal journal =>
    simp only [StartupWorld.perform, StartupWorld.onLedger]
    rcases w.ledger.persistJournal_cases journal answer.journal with hp | ⟨-, -, -, hp⟩
    · rw [hp]
      exact RecordKept.refl id _
    · rw [hp]
      exact ⟨Or.inl rfl, Or.inl rfl⟩
  | inspect => exact RecordKept.refl id _
  | effect e id' => exact ⟨Or.inl rfl, Or.inl rfl⟩
  | markStartupQuarantine => exact ⟨Or.inl rfl, Or.inl rfl⟩
  | markSeatStartupQuarantine seat cause => exact ⟨Or.inl rfl, Or.inl rfl⟩
  | clearSeatStartupQuarantine seat cause => exact ⟨Or.inl rfl, Or.inl rfl⟩
  | countFree id' => exact RecordKept.refl id _
  | countQuarantined id' => exact RecordKept.refl id _
  | addToSummary free quarantined => exact RecordKept.refl id _

section Kept
variable {w : StartupWorld} {request : StartupRequest} {x : StartupAnswer} {id : String}

theorem memory_write (l : PersistentRecoveryLedger) (id' : String) (write : RecordWrite)
    (answer : WriteAnswer) (h : (l.get id).isSome = true) :
    ((l.write id' write answer).2.get id).isSome = true := by
  rcases write_cases l id' write answer with hw | ⟨r, next, -, -, -, -, hw⟩
  · rwa [hw]
  · rw [hw]
    split
    · rw [get_putRecord]
      split
      · rfl
      · exact h
    · exact h

theorem memory_perform (h : (w.ledger.get id).isSome = true)
    (hremove : request ≠ .removeResolved id)
    (hexact : ∀ file, request ≠ .removeRecordExact id file) :
    ((w.perform request x).2.ledger.get id).isSome = true := by
  cases request with
  | write id' write => exact memory_write w.ledger id' write x.write h
  | removeResolved id' =>
    have hne : id ≠ id' := fun heq => hremove (heq ▸ rfl)
    simp only [StartupWorld.perform, StartupWorld.onLedger]
    rwa [(w.ledger.onRecord_removeResolved id' x.remove).get id hne]
  | removeRecordExact id' file =>
    have hne : id ≠ id' := fun heq => hexact file (heq ▸ rfl)
    simp only [StartupWorld.perform, StartupWorld.onLedger]
    rcases removeRecordExact_cases w.ledger id' file x.remove with hr | hr
    · rwa [hr]
    · rwa [hr, (w.ledger.onRecord_removeResolved id' x.remove).get id hne]
  | persistJournal journal =>
    simp only [StartupWorld.perform, StartupWorld.onLedger]
    rcases w.ledger.persistJournal_cases journal x.journal with hp | ⟨-, -, -, hp⟩
    · rwa [hp]
    · rw [hp]
      exact h
  | _ => exact h

end Kept

section Has
variable {P : PersistentRecoveryRecord → Prop} {id : String}

/-- A write that keeps the property when it takes the record to another leaves that one in both
places, or in the file alone. -/
theorem RecordHas.write {l : PersistentRecoveryLedger} (h : RecordHas P id l) (w : RecordWrite)
    (answer : WriteAnswer)
    (hP : ∀ r next, l.get id = some r → w.apply r answer.bootId = some next →
      validateRecord next = true → answer.commit ≠ .notRenamed → P r → P next) :
    RecordHas P id (l.write id w answer).2 := by
  rcases write_cases l id w answer with hw | ⟨r, next, hget, happly, hvalid, hcommit, hw⟩
  · rwa [hw]
  · have hid : next.lifecycleId = id := by
      rw [(writeResult_of_apply happly).lifecycleId, lifecycleId_of_get hget]
    have hnext := hP r next hget happly hvalid hcommit (h.memory r hget)
    rw [hw]
    split
    · refine ⟨fun r' hr' => ?_, fun f hf => ?_⟩
      · simp only [get_putRecord, hid, if_pos, Option.some.injEq] at hr'
        exact hr' ▸ hnext
      · simp only [file_putRecord, file_putFile, hid, if_pos, Option.some.injEq] at hf
        exact hf ▸ hnext
    · -- the file was renamed and its directory not synced: memory keeps the old record
      refine ⟨h.memory, fun f hf => ?_⟩
      simp only [file_putFile, hid, if_pos, Option.some.injEq] at hf
      exact hf ▸ hnext

/-- A property that every write of the record keeps stays with it. -/
theorem RecordHas.perform {w : StartupWorld} (h : RecordHas P id w.ledger)
    (request : StartupRequest) (x : StartupAnswer)
    (hP : ∀ write r next, request = .write id write → w.ledger.get id = some r →
      write.apply r x.write.bootId = some next → validateRecord next = true → P r → P next) :
    RecordHas P id (w.perform request x).2.ledger := by
  by_cases hwrite : ∃ write, request = .write id write
  · obtain ⟨write, rfl⟩ := hwrite
    exact h.write write x.write fun r next hget happly hvalid _ =>
      hP write r next rfl hget happly hvalid
  · exact h.kept (recordKept_perform w request x fun write hw => hwrite ⟨write, hw⟩)

/-- One write of the record: the new file is readable exactly if the write was safe, and then the
record in memory is readable too. -/
theorem write_readable_iff {l : PersistentRecoveryLedger}
    (h : RecordReadable id l) (w : RecordWrite) (answer : WriteAnswer) :
    ((∀ f, (l.write id w answer).2.file id = some f → ReadableRecord f.record) →
      ∀ r next, l.get id = some r → w.apply r answer.bootId = some next →
        validateRecord next = true → answer.commit ≠ .notRenamed → SafeWrite r w) ∧
    ((∀ r next, l.get id = some r → w.apply r answer.bootId = some next →
        validateRecord next = true → answer.commit ≠ .notRenamed → SafeWrite r w) →
      RecordReadable id (l.write id w answer).2) := by
  have hiff : ∀ r next, l.get id = some r → w.apply r answer.bootId = some next →
      validateRecord next = true → (ReadableRecord next ↔ SafeWrite r w) :=
    fun r next hget happly hvalid =>
      readable_apply_iff (h.memory r hget) happly (lastUpdatedBoot_of_valid hvalid)
  constructor
  · rcases write_cases l id w answer with hw | ⟨r, next, hget, happly, hvalid, -, hw⟩
    · intro _ r next hget happly hvalid hcommit
      -- a write that changes nothing although it could be applied was never renamed
      exfalso
      simp only [write, hget, happly, commit, hvalid, Bool.not_true, Bool.false_eq_true,
        if_false] at hw
      cases hc : answer.commit with
      | notRenamed => exact hcommit hc
      | notSynced =>
        rw [hc] at hw
        have := congrArg (fun p => p.2.filesCreated) hw
        simp [putFile] at this
      | synced =>
        rw [hc] at hw
        cases hw
    · have hid : next.lifecycleId = id := by
        rw [(writeResult_of_apply happly).lifecycleId, lifecycleId_of_get hget]
      have hfile : (l.write id w answer).2.file id = some ⟨l.freshInode, next⟩ := by
        rw [hw]
        split <;> simp [file_putFile, hid]
      intro hread r' next' hget' _ _ _
      cases hget.symm.trans hget'
      exact (hiff r next hget happly hvalid).mp (hread _ hfile)
  · exact fun hsafe => h.write w answer fun r next hget happly hvalid hcommit _ =>
      (hiff r next hget happly hvalid).mpr (hsafe r next hget happly hvalid hcommit)

end Has

section Runs
variable {σ ρ χ α : Type} {perform : σ → ρ → χ → Bool × σ} {ok : σ → ρ → χ → Prop}

/-- `ok` admits exactly the requests that leave a readable record on disk, and keeps the one in
memory readable too. -/
structure AdmitsReadable (perform : σ → ρ → χ → Bool × σ) (ok : σ → ρ → χ → Prop)
    (ledgerOf : σ → PersistentRecoveryLedger) (id : String) : Prop where
  keeps : ∀ s request x, RecordReadable id (ledgerOf s) → ok s request x →
    RecordReadable id (ledgerOf (perform s request x).2)
  needed : ∀ s request x, RecordReadable id (ledgerOf s) →
    (∀ f, (ledgerOf (perform s request x).2).file id = some f → ReadableRecord f.record) →
      ok s request x

variable {ledgerOf : σ → PersistentRecoveryLedger} {id : String}

theorem AdmitsReadable.step (hok : AdmitsReadable perform ok ledgerOf id)
    {s : σ × Program σ ρ α} {x : χ} (h : RecordReadable id (ledgerOf s.1))
    (hx : Program.Admits ok s x) : RecordReadable id (ledgerOf (Program.step perform s x).1) := by
  obtain ⟨w, p⟩ := s
  cases p with
  | done a => exact h
  | ask request next => exact hok.keeps w request x h (hx request rfl)

theorem AdmitsReadable.admits (hok : AdmitsReadable perform ok ledgerOf id)
    {s : σ × Program σ ρ α} {x : χ} (h : RecordReadable id (ledgerOf s.1))
    (hd : ∀ f, (ledgerOf (Program.step perform s x).1).file id = some f →
      ReadableRecord f.record) : Program.Admits ok s x := by
  obtain ⟨w, p⟩ := s
  intro request hrequest
  cases p with
  | done a => cases hrequest
  | ask request' next =>
    cases hrequest
    exact hok.needed w request x h hd

/-- Every file on disk along the run is readable exactly if every request of the run is
admitted. -/
theorem AdmitsReadable.run_iff (hok : AdmitsReadable perform ok ledgerOf id)
    {s : σ × Program σ ρ α} (h : RecordReadable id (ledgerOf s.1)) (answers : List χ) :
    (∀ n f, (ledgerOf ((answers.take n).foldl (Program.step perform) s).1).file id = some f →
      ReadableRecord f.record) ↔
      StepsMeet (Program.step perform) (Program.Admits ok) s answers := by
  constructor
  · -- induction on the run: the file after a step is the file at the start of the rest
    intro hread
    induction answers generalizing s with
    | nil => trivial
    | cons a as ih =>
      have ha := hok.admits h (hread 1)
      exact ⟨ha, ih (hok.step h ha) fun n => hread (n + 1)⟩
  · intro hmeets n
    have hrun : RecordReadable id
        (ledgerOf ((answers.take n).foldl (Program.step perform) s).1) :=
      foldl_invariant (fun s => RecordReadable id (ledgerOf s.1))
        (fun _ _ hs ha => hok.step hs ha) _ s h (stepsMeet_take hmeets n)
    exact hrun.disk

/-- Every file on disk of every run is readable exactly if every request that the program can make
is admitted, whatever the world answers. -/
theorem AdmitsReadable.sat_iff (hok : AdmitsReadable perform ok ledgerOf id) {p : Program σ ρ α}
    {s : σ} (h : RecordReadable id (ledgerOf s)) :
    (∀ (answers : List χ) f, (ledgerOf (answers.foldl (Program.step perform) (s, p)).1).file id = some f →
      ReadableRecord f.record) ↔
      p.Sat perform (fun _ _ _ => True) (fun s request => ∀ x, ok s request x) s
        fun _ _ => True := by
  constructor
  · -- induction on the program: a single answer reaches every request that it can make
    intro hread
    induction p generalizing s with
    | done a => trivial
    | ask request next ih =>
      have hall : ∀ x, ok s request x := fun x => hok.needed s request x h fun f hf => hread [x] f hf
      exact ⟨hall, fun x _ => ih _ _ (hok.keeps s request x h (hall x))
        fun answers => hread (x :: answers)⟩
  · intro hsat answers f hf
    have hadmits : p.Sat perform ok (fun s request => ∀ x, ok s request x) s
        fun _ _ => True ∧ True :=
      hsat.strengthen (fun _ => True) trivial (fun _ _ _ _ => trivial) (fun _ _ _ h => h)
        fun _ _ _ _ _ _ => trivial
    have hmeets := hadmits.stepsMeet (fun _ _ x hgood => hgood x) answers
    refine (hok.run_iff (s := (s, p)) h answers).mpr hmeets answers.length f ?_
    rwa [List.take_length]

end Runs

theorem safeStep_admitsReadable (id : String) :
    AdmitsReadable StartupWorld.perform (SafeStep id) StartupWorld.ledger id where
  keeps := by
    intro w request x h hsafe
    by_cases hwrite : ∃ write, request = .write id write
    · obtain ⟨write, rfl⟩ := hwrite
      exact (write_readable_iff h write x.write).2 fun r next => hsafe write r next rfl
    · exact h.kept (recordKept_perform w request x fun write hw => hwrite ⟨write, hw⟩)
  needed := by
    rintro w request x h hd write r next rfl
    exact (write_readable_iff h write x.write).1 hd r next

/-- A record of the current boot as startup finds it: loaded from its file, without violations. -/
structure LoadedRecord (l : PersistentRecoveryLedger) (r : PersistentRecoveryRecord) : Prop where
  memory : l.get r.lifecycleId = some r
  disk : ∀ f, l.file r.lifecycleId = some f → f.record = r
  noViolation : validateHistoricalRecord r = []

theorem LoadedRecord.readable {l : PersistentRecoveryLedger} {r : PersistentRecoveryRecord}
    (h : LoadedRecord l r) : RecordReadable r.lifecycleId l := by
  have hread := (validateHistoricalRecord_eq_nil r).mp h.noViolation
  constructor
  · intro r' hr'
    cases h.memory.symm.trans hr'
    exact hread
  · intro f hf
    rw [h.disk f hf]
    exact hread

/-- Every request of the program is safe for record `id`, whatever the file system answers. -/
abbrev ReadableSat (id : String) {α : Type} (p : StartupM α) (w : StartupWorld)
    (post : α → StartupWorld → Prop) : Prop :=
  p.Sat StartupWorld.perform (fun _ _ _ => True)
    (fun w request => ∀ x, SafeStep id w request x) w post

section Writing
variable {id : String} {w : StartupWorld} {r : PersistentRecoveryRecord} {ε α : Type} {e : ε}

theorem safeStep_of_not_write {request : StartupRequest} {x : StartupAnswer}
    (h : ∀ write, request ≠ .write id write) : SafeStep id w request x :=
  fun write _ _ hrequest => absurd hrequest (h write)

theorem safeStep_write_iff {write : RecordWrite} (hget : w.ledger.get id = some r) :
    (∀ x, SafeStep id w (.write id write) x) ↔ ∀ next, write.Reaches r next → SafeWrite r write := by
  constructor
  · rintro h next ⟨boot, happly, hvalid⟩
    exact h { write := ⟨some boot, .synced⟩ } write r next rfl hget happly hvalid nofun
  · rintro h x _ r' next ⟨⟩ hget' happly hvalid -
    cases hget.symm.trans hget'
    exact h next (reaches_of_apply happly hvalid)

/-- A request other than a write of the record is safe, and what follows it decides. -/
theorem readableSat_ask_iff {request : StartupRequest} {next : Bool → StartupWorld → StartupM α}
    {post : α → StartupWorld → Prop} (h : ∀ write, request ≠ .write id write) :
    ReadableSat id (.ask request next) w post ↔ ∀ x, ReadableSat id
      (next (w.perform request x).1 (w.perform request x).2) (w.perform request x).2 post := by
  constructor
  · exact fun hsat x => hsat.2 x trivial
  · exact fun hnext => ⟨fun x => safeStep_of_not_write h, fun x _ => hnext x⟩

theorem readableSat_inspect_iff {next : Bool → StartupWorld → StartupM α}
    {post : α → StartupWorld → Prop} :
    ReadableSat id (.ask .inspect next) w post ↔ ReadableSat id (next true w) w post := by
  refine (readableSat_ask_iff ?_).trans ?_
  · exact fun _ h => StartupRequest.noConfusion h
  · exact ⟨fun h => h { write := ⟨none, .synced⟩ }, fun h _ => h⟩

theorem readableSat_readLedger_iff
    {f : PersistentRecoveryLedger → Attempt StartupWorld StartupRequest ε α}
    {result : Except ε α → StartupWorld → Prop} :
    ReadableSat id (readLedger >>= f : Attempt StartupWorld StartupRequest ε α) w result ↔
      ReadableSat id (f w.ledger) w result := readableSat_inspect_iff

theorem readableSat_readRecord_iff (hget : w.ledger.get id = some r)
    {f : PersistentRecoveryRecord → Attempt StartupWorld StartupRequest ε α}
    {result : Except ε α → StartupWorld → Prop} :
    ReadableSat id (readRecord id e >>= f : Attempt StartupWorld StartupRequest ε α) w result ↔
      ReadableSat id (f r) w result := by
  have hread : ReadableSat id (Attempt.okOr (w.ledger.get id) e >>= f : Attempt _ _ ε α) w result ↔
      ReadableSat id (f r) w result := by
    rw [hget]
    exact Iff.rfl
  exact readableSat_inspect_iff.trans hread

/-- A write that succeeds puts its record into memory and on disk; one that fails leaves memory as
it was. -/
theorem readableSat_persist_iff {write : RecordWrite} {result : Except ε Unit → StartupWorld → Prop}
    (rest : Prop) (hget : w.ledger.get id = some r) (hread : ReadableRecord r)
    (hfail : ∀ w', w'.ledger.get id = some r → result (.error e) w')
    (hdone : ∀ next w', write.Reaches r next → ReadableRecord next →
      w'.ledger.get id = some next → (w'.ledger.file id).isSome = true →
      (result (.ok ()) w' ↔ rest)) :
    ReadableSat id (persist id write e) w result ↔
      ∀ next, write.Reaches r next → SafeWrite r write ∧ rest := by
  have hreadable : ∀ {next : PersistentRecoveryRecord} {boot : Option String},
      write.apply r boot = some next → validateRecord next = true → SafeWrite r write →
        ReadableRecord next := fun happly hvalid hsafe =>
    (readable_apply_iff hread happly (lastUpdatedBoot_of_valid hvalid)).mpr hsafe
  have hput : ∀ {next : PersistentRecoveryRecord} {boot : Option String} (event : DurableEvent),
      write.apply r boot = some next →
        ((w.ledger.putFile next event).putRecord next).get id = some next ∧
          ((w.ledger.putFile next event).putRecord next).file id =
            some ⟨w.ledger.freshInode, next⟩ := fun event happly => by
    have hid : id = _ :=
      ((writeResult_of_apply happly).lifecycleId.trans (lifecycleId_of_get hget)).symm
    rw [get_putRecord, file_putRecord, file_putFile, if_pos hid, if_pos hid]
    exact ⟨rfl, rfl⟩
  constructor
  · -- a file system that takes the write shows what it leads to
    rintro ⟨hsafe, hnext⟩ next ⟨boot, happly, hvalid⟩
    have hwrite := hsafe { write := ⟨some boot, .synced⟩ } write r next rfl hget happly hvalid nofun
    refine ⟨hwrite, ?_⟩
    have hok := hnext { write := ⟨some boot, .synced⟩ } trivial
    have hperform : w.perform (.write id write) { write := ⟨some boot, .synced⟩ } =
        (true, { w with
          ledger := (w.ledger.putFile next (.committed write r next)).putRecord next }) := by
      simp only [StartupWorld.perform, StartupWorld.onLedger, PersistentRecoveryLedger.write, hget,
        happly, commit, hvalid, Bool.not_true, Bool.false_eq_true, if_false]
    rw [hperform] at hok
    obtain ⟨hmemory, hdisk⟩ := hput (.committed write r next) happly
    refine (hdone next _ ⟨boot, happly, hvalid⟩ (hreadable happly hvalid hwrite) hmemory ?_).mp hok
    rw [hdisk]
    rfl
  · intro h
    have hsafe := (safeStep_write_iff hget).mpr fun next hnext => (h next hnext).1
    refine ⟨hsafe, fun x _ => ?_⟩
    rcases write_cases w.ledger id write x.write with hw | ⟨r', next, hget', happly, hvalid, hc, hw⟩
    · simp only [StartupWorld.perform, StartupWorld.onLedger, hw]
      exact hfail _ hget
    · cases hget.symm.trans hget'
      have hreaches := reaches_of_apply happly hvalid
      obtain ⟨hwrite, hrest⟩ := h next hreaches
      simp only [StartupWorld.perform, StartupWorld.onLedger, hw]
      split
      · obtain ⟨hmemory, hdisk⟩ := hput (.committed write r next) happly
        refine (hdone next _ hreaches (hreadable happly hvalid hwrite) hmemory ?_).mpr hrest
        rw [hdisk]
        rfl
      · exact hfail _ hget

theorem readableSat_countQuarantined {i : String} :
    ReadableSat id (.ask (.countQuarantined i) fun _ _ => .done ()) w fun _ _ => True := by
  rw [readableSat_ask_iff fun _ h => StartupRequest.noConfusion h]
  exact fun _ => trivial

theorem readableSat_countFree {i : String} :
    ReadableSat id (.ask (.countFree i) fun _ _ => .done ()) w fun _ _ => True := by
  rw [readableSat_ask_iff fun _ h => StartupRequest.noConfusion h]
  exact fun _ => trivial

/-- After the write of a quarantine the record is counted, whether the write succeeded or not. -/
theorem readableSat_countAfterQuarantine {done : Bool} :
    ReadableSat id (if done then .ask (.countQuarantined id) fun _ _ => .done ()
      else .ask .markStartupQuarantine fun _ _ => .ask (.countQuarantined id) fun _ _ => .done ())
      w fun _ _ => True := by
  cases done with
  | true => exact readableSat_countQuarantined
  | false =>
    refine (readableSat_ask_iff fun _ h => ?_).mpr fun _ => readableSat_countQuarantined
    exact StartupRequest.noConfusion h

theorem safeWrite_quarantine_iff {reason : StartupRecoveryFailure} :
    SafeWrite r (.quarantine reason) ↔ r.operationLedger.runtimeRelease.isConfirmed = false ∧
      r.operationLedger.recordResolution.isConfirmed = false := by
  have hstate : ("quarantined" : String) ≠ "record_resolved" := by decide
  constructor
  · intro h
    constructor
    · exact Bool.eq_false_iff.mpr fun hconfirmed => hstate (h.agrees.release hconfirmed)
    · exact Bool.eq_false_iff.mpr fun hconfirmed => hstate (h.agrees.resolution hconfirmed)
  · rintro ⟨hrelease, hresolution⟩
    exact {
      attempt := fun _ _ hchange => by cases hchange
      agrees := ⟨fun h => absurd h (Bool.eq_false_iff.mp hrelease), fun h => absurd h hstate,
        fun h => absurd h (Bool.eq_false_iff.mp hresolution)⟩
      vtKept := fun _ hchange => by cases hchange
      vtFinished := fun _ hgiven => by cases hgiven
      vtAppended := fun _ happend => by cases happend }

theorem readableSat_quarantine_iff {reason : StartupRecoveryFailure}
    (hget : w.ledger.get id = some r) :
    ReadableSat id (quarantineStartupRecord id reason) w (fun _ _ => True) ↔
      (r.state = "quarantined" ∧ r.quarantineReason = some reason.persistentReason) ∨
        ∀ next, (RecordWrite.quarantine reason).Reaches r next →
          SafeWrite r (.quarantine reason) := by
  unfold quarantineStartupRecord
  rw [readableSat_inspect_iff]
  simp only [hget, Option.any_some, Bool.and_eq_true, decide_eq_true_eq]
  split
  next halready => exact ⟨fun _ => Or.inl halready, fun _ => readableSat_countQuarantined⟩
  next hnot =>
    rw [or_iff_right hnot, ← safeStep_write_iff hget]
    exact ⟨fun h => h.1, fun h => ⟨h, fun _ _ => readableSat_countAfterQuarantine⟩⟩

theorem readableSat_quarantine_none {reason : StartupRecoveryFailure}
    (hget : w.ledger.get id = none) :
    ReadableSat id (quarantineStartupRecord id reason) w fun _ _ => True := by
  unfold quarantineStartupRecord
  rw [readableSat_inspect_iff]
  simp only [hget, Option.any_none, Bool.false_eq_true, if_false]
  refine ⟨fun x write r next _ hr => ?_, fun _ _ => readableSat_countAfterQuarantine⟩
  rw [hget] at hr
  cases hr

/-- The quarantine of a record that is not resolved can always be read back. -/
theorem readableSat_quarantine {reason : StartupRecoveryFailure} (hget : w.ledger.get id = some r)
    (hread : ReadableRecord r) (hstate : r.state ≠ "record_resolved") :
    ReadableSat id (quarantineStartupRecord id reason) w fun _ _ => True := by
  refine (readableSat_quarantine_iff hget).mpr (Or.inr fun _ _ => safeWrite_quarantine_iff.mpr ?_)
  exact ⟨Bool.eq_false_iff.mpr fun h => hstate (hread.release h),
    Bool.eq_false_iff.mpr fun h => hstate (hread.resolution h)⟩

/-- The record in memory is not resolved; it passes the field checks and can be read back. -/
structure OpenRecord (id : String) (r : PersistentRecoveryRecord) (w : StartupWorld) : Prop where
  memory : w.ledger.get id = some r
  readable : ReadableRecord r
  valid : validateRecord r = true
  unresolved : r.state ≠ "record_resolved"

/-- Nothing that can be read back is lost if the program fails. -/
def FailsSafely (id : String) (result : Except ε α → StartupWorld → Prop) : Prop :=
  ∀ e r w, OpenRecord id r w → result (.error e) w

theorem OpenRecord.lifecycleId_eq (h : OpenRecord id r w) : r.lifecycleId = id :=
  lifecycleId_of_get h.memory

theorem readableSat_operation_iff {op : DurableOperation} {s : DurableOperationState}
    {result : Except ε Unit → StartupWorld → Prop} (rest : Prop) (h : OpenRecord id r w)
    (hresult : FailsSafely id result)
    (hdone : ∀ boot w', OpenRecord id (r.advanced 1 (r.operationLedger.set op s) boot) w' →
      (result (.ok ()) w' ↔ rest)) :
    ReadableSat id (persist id (.operation op s) e) w result ↔
      (r.Takes 1 → SafeWrite r (.operation op s) ∧ rest) := by
  have hpersist := readableSat_persist_iff rest h.memory h.readable
    (fun w' hget => hresult e r w' ⟨hget, h.readable, h.valid, h.unresolved⟩)
    fun next w' hreaches hread hget _ => by
      obtain ⟨-, boot, hboot, rfl⟩ := (operation_reaches_iff h.valid).mp hreaches
      exact hdone boot w' ⟨hget, hread, validateRecord_advanced h.valid hboot, h.unresolved⟩
  rw [hpersist]
  constructor
  · intro hall htakes
    refine hall (r.advanced 1 (r.operationLedger.set op s) r.lastUpdatedBootId) ?_
    exact (operation_reaches_iff h.valid).mpr ⟨htakes, _, h.readable.updatedBoot, rfl⟩
  · intro hsafe next hreaches
    exact hsafe ((operation_reaches_iff h.valid).mp hreaches).1

theorem readableSat_rewrite_iff {write : RecordWrite} {attempts : List VtRecoveryAttempt}
    {provenance : Option VtBusyProvenance} {result : Except ε Unit → StartupWorld → Prop}
    (rest : Prop) (h : OpenRecord id r w) (hwrite : write.Rewrites r attempts provenance)
    (hresult : FailsSafely id result)
    (hdone : ∀ boot w', OpenRecord id (r.rewritten boot attempts provenance) w' →
      (result (.ok ()) w' ↔ rest)) :
    ReadableSat id (persist id write e) w result ↔ (r.Takes 1 → SafeWrite r write ∧ rest) := by
  have hpersist := readableSat_persist_iff rest h.memory h.readable
    (fun w' hget => hresult e r w' ⟨hget, h.readable, h.valid, h.unresolved⟩)
    fun next w' hreaches hread hget _ => by
      have hvalid : validateRecord next = true := by
        obtain ⟨_, -, hvalid⟩ := hreaches
        exact hvalid
      obtain ⟨-, boot, -, rfl⟩ := (rewrite_reaches_iff hwrite h.valid).mp hreaches
      exact hdone boot w' ⟨hget, hread, hvalid, h.unresolved⟩
  rw [hpersist]
  constructor
  · intro hall htakes
    refine hall (r.rewritten r.lastUpdatedBootId attempts provenance) ?_
    exact (rewrite_reaches_iff hwrite h.valid).mpr ⟨htakes, _, h.readable.updatedBoot, rfl⟩
  · intro hsafe next hreaches
    exact hsafe ((rewrite_reaches_iff hwrite h.valid).mp hreaches).1

/-- What the rest of a program has to satisfy when its first part has ended. -/
abbrev Following {β : Type} (id : String) (f : α → Attempt StartupWorld StartupRequest ε β)
    (result : Except ε β → StartupWorld → Prop) : Except ε α → StartupWorld → Prop :=
  Attempt.Continues StartupWorld.perform (fun _ _ _ => True)
    (fun w request => ∀ x, SafeStep id w request x) f result

section Sequences
variable {β : Type} {p : Attempt StartupWorld StartupRequest ε α}
  {f : α → Attempt StartupWorld StartupRequest ε β} {result : Except ε β → StartupWorld → Prop}

theorem failsSafely_following (h : FailsSafely id result) : FailsSafely id (Following id f result) :=
  fun e r w hw => h e r w hw

theorem readableSat_bind_iff : ReadableSat id (p >>= f : Attempt StartupWorld StartupRequest ε β) w
    result ↔ ReadableSat id p w (Following id f result) := Attempt.sat_bind_result

theorem readableSat_require_iff {c : Bool} {f : Unit → Attempt StartupWorld StartupRequest ε β}
    (h : OpenRecord id r w) (hresult : FailsSafely id result) :
    ReadableSat id (.require c e >>= f : Attempt StartupWorld StartupRequest ε β) w result ↔
      (c = true → ReadableSat id (f ()) w result) :=
  Attempt.sat_require_result fun _ => hresult e r w h

theorem readableSat_okOr_iff {o : Option α} (h : OpenRecord id r w)
    (hresult : FailsSafely id result) :
    ReadableSat id (.okOr o e >>= f : Attempt StartupWorld StartupRequest ε β) w result ↔
      ∀ a, o = some a → ReadableSat id (f a) w result :=
  Attempt.sat_okOr_result fun _ => hresult e r w h

theorem readableSat_check_iff {c : Except ε α} (h : OpenRecord id r w)
    (hresult : FailsSafely id result) :
    ReadableSat id (.check c >>= f : Attempt StartupWorld StartupRequest ε β) w result ↔
      ∀ a, c = .ok a → ReadableSat id (f a) w result :=
  Attempt.sat_check_result fun e _ => hresult e r w h

theorem readableSat_mapErr_iff {ε' : Type} {g : ε → ε'} {result : Except ε' α → StartupWorld → Prop} :
    ReadableSat id (p.mapErr g) w result ↔
      ReadableSat id p w fun r w' => result (r.mapError g) w' := Attempt.sat_mapErr_result

end Sequences

theorem failsSafely_mapError {ε' : Type} {g : ε' → ε} {result : Except ε α → StartupWorld → Prop}
    (h : FailsSafely id result) : FailsSafely id fun r w => result (r.mapError g) w :=
  fun e r w hw => h (g e) r w hw

end Writing

end Niralis
