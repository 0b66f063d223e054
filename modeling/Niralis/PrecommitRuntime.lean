import Niralis.Calls
import Niralis.KeyedTable
import Niralis.RecoveryLedger
import Niralis.Text

namespace Niralis
open Text

structure PreCommitRuntimeRecord where
  formatVersion : Nat
  transactionId : String
  admissionAttemptId : Nat
  lifecycleId : String
  seat : String
  seatGeneration : Nat
  bootId : String
  stage : String
  workerPid : Option Nat
  workerStarttime : Option Nat
  workerExecutable : Option (Nat × Nat)
  channelWorkerId : Option String
  sequence : Nat
  handoffCommitted : Bool
  deriving DecidableEq, Repr

def precommitFormatVersion : Nat := 1

def maxPrecommitRecordBytes : Nat := 32 * 1024

def PreCommitRuntimeRecord.validateLifecycleId (value : String) : Bool :=
  value ≠ "" && value.utf8ByteSize ≤ 128 &&
    value.toList.all fun c => asciiAlphanumeric c || c = '-' || c = '_'

def PreCommitRuntimeRecord.validate (r : PreCommitRuntimeRecord) : Bool :=
  r.formatVersion = precommitFormatVersion && r.transactionId ≠ "" && r.lifecycleId ≠ "" &&
    r.transactionId = r.lifecycleId && r.admissionAttemptId ≠ 0 && r.seat ≠ "" &&
    r.seatGeneration ≠ 0 && r.bootId ≠ "" &&
    ["reserved", "worker_attached", "authentication_inflight", "authenticated", "preparing_launch",
      "handoff_started"].contains r.stage &&
    PreCommitRuntimeRecord.validateLifecycleId r.lifecycleId

/-- An entry of the runtime directory: what is passed over, what cannot be read, and a record file
with its length and what `serde_json::from_slice` makes of it. -/
inductive PrecommitEntry
  | ignored
  | unreadable
  | json (length : Nat) (content : Option PreCommitRuntimeRecord)

structure PrecommitRecords where
  table : KeyedTable String PreCommitRuntimeRecord
  keyed : ∀ entry ∈ table.entries, entry.2.lifecycleId = entry.1

namespace PrecommitRecords

def empty : PrecommitRecords where
  table := .empty
  keyed := by simp [KeyedTable.empty]

def insert (t : PrecommitRecords) (r : PreCommitRuntimeRecord) : PrecommitRecords where
  table := t.table.insert r.lifecycleId r
  keyed := by
    intro entry hentry
    rcases List.mem_cons.mp hentry with rfl | hentry
    · rfl
    · exact t.keyed entry (List.mem_of_mem_filter hentry)

def remove (t : PrecommitRecords) (lifecycleId : String) : PrecommitRecords where
  table := t.table.remove lifecycleId
  keyed := fun entry hentry => t.keyed entry (List.mem_of_mem_filter hentry)

def get (t : PrecommitRecords) (lifecycleId : String) : Option PreCommitRuntimeRecord :=
  t.table.get lifecycleId

def values (t : PrecommitRecords) : List PreCommitRuntimeRecord := t.table.entries.map Prod.snd

end PrecommitRecords

/-- `load_records`; an error anywhere leaves nothing. -/
def loadPrecommitRecords : List PrecommitEntry → Option PrecommitRecords
  | [] => some .empty
  | .ignored :: entries => loadPrecommitRecords entries
  | .unreadable :: _ => none
  | .json length content :: entries =>
    if maxPrecommitRecordBytes < length then none
    else match content with
      | none => none
      | some record =>
        if record.validate then (loadPrecommitRecords entries).map (·.insert record) else none

structure PreCommitRuntimeStore where
  records : PrecommitRecords
  startupQuarantined : Bool := false
  startupQuarantinedSeats : List String := []

structure PreCommitStartupSummary where
  cleared : Nat := 0
  quarantined : Nat := 0
  deriving DecidableEq, Repr

inductive WorkerIdentityStatus
  | absent | exact | indeterminate
  deriving DecidableEq, Repr

/-- What `kill` returns: zero, an error that counts as no such process, or another one. -/
inductive SignalAnswer
  | ok | notFound | failed
  deriving DecidableEq, Repr

/-- How far the removal of a record file gets: it is removed and the directory synced, it cannot be
removed, or the sync fails. -/
inductive RecordRemoval
  | removed | notRemoved | notSynced
  deriving DecidableEq, Repr

inductive StartupCall
  | readStat (pid : Nat)
  | statExe (pid : Nat)
  | kill (target : Int) (signal : Nat)
  | removeRecord (lifecycleId : String)
  deriving DecidableEq, Repr

abbrev StartupCall.Answer : StartupCall → Type
  | readStat _ => Option (List Char)
  | statExe _ => Option (Nat × Nat)
  | kill _ _ => SignalAnswer
  | removeRecord _ => RecordRemoval

/-- Nothing in the reconciliation returns an error. -/
abbrev Reconciling := Calls StartupCall StartupCall.Answer Empty

def afterLast (pattern : List Char) : List Char → Option (List Char)
  | [] => none
  | c :: cs =>
    match afterLast pattern cs with
    | some rest => some rest
    | none => if pattern.isPrefixOf (c :: cs) then some ((c :: cs).drop pattern.length) else none

def wordsFrom (current : List Char) : List Char → List (List Char)
  | [] => if current = [] then [] else [current]
  | c :: cs =>
    if isWhitespace c then
      if current = [] then wordsFrom [] cs else current :: wordsFrom [] cs
    else wordsFrom (current ++ [c]) cs

def parseU64 (text : List Char) : Option Nat :=
  let digits := if text.head? = some '+' then text.tail else text
  if digits ≠ [] ∧ digits.all Char.isDigit ∧ decimalValue digits < u64Bound then
    some (decimalValue digits)
  else none

/-- `proc_starttime` on the text of `/proc/<pid>/stat`. -/
def procStarttime (stat : Option (List Char)) : Option Nat := do
  let fields ← afterLast [')', ' '] (← stat)
  parseU64 (← (wordsFrom [] fields)[19]?)

def procState (stat : Option (List Char)) : Option Char := do
  (← afterLast [')', ' '] (← stat)).head?

def asPid (pid : Nat) : Int := if pid < 2 ^ 31 then pid else (pid : Int) - 2 ^ 32

def sigkill : Nat := 9

def inspectWorkerIdentity (r : PreCommitRuntimeRecord) : Reconciling WorkerIdentityStatus :=
  match r.workerPid, r.workerStarttime, r.workerExecutable with
  | none, _, _ => pure .absent
  | some _, none, _ => pure .indeterminate
  | some _, some _, none => pure .indeterminate
  | some pid, some starttime, some executable => do
    let stat : Option (List Char) ← Calls.ask (StartupCall.readStat pid)
    if procStarttime stat = none then pure .absent
    else do
      let stat : Option (List Char) ← Calls.ask (StartupCall.readStat pid)
      if procStarttime stat ≠ some starttime then pure .indeterminate
      else do
        let exe : Option (Nat × Nat) ← Calls.ask (StartupCall.statExe pid)
        pure (if exe = some executable then .exact else .indeterminate)

/-- The wait for a killed process to go, up to a number of looks. -/
def awaitExit (pid : Nat) : Nat → Reconciling Bool
  | 0 => pure false
  | looks + 1 => do
    let stat : Option (List Char) ← Calls.ask (StartupCall.readStat pid)
    if procState stat = some 'Z' then pure true
    else do
      let probe : SignalAnswer ← Calls.ask (StartupCall.kill (asPid pid) 0)
      if probe = .notFound then pure true else awaitExit pid looks

/-- `kill_exact_pid`, with whether it is `Ok`. -/
def killExactPid (pid : Nat) : Reconciling Bool := do
  let sent : SignalAnswer ← Calls.ask (StartupCall.kill (asPid pid) sigkill)
  match sent with
  | .notFound => pure true
  | .failed => pure false
  | .ok => awaitExit pid 64

def exactA3RecordExists (ledger : Option PersistentRecoveryLedger) (r : PreCommitRuntimeRecord) : Bool :=
  match ledger with
  | none => false
  | some l => l.records.any fun a3 =>
    a3.lifecycleId = r.lifecycleId && a3.seat = r.seat && a3.createdBootId = r.bootId

namespace PreCommitRuntimeStore

def «open» (records : PrecommitRecords) : PreCommitRuntimeStore where
  records := records

/-- `remove_record_by_id`, with whether it is `Ok`. -/
def removeRecordById (s : PreCommitRuntimeStore) (lifecycleId : String) :
    Reconciling (Bool × PreCommitRuntimeStore) :=
  if !PreCommitRuntimeRecord.validateLifecycleId lifecycleId then pure (false, s)
  else do
    let answer : RecordRemoval ← Calls.ask (StartupCall.removeRecord lifecycleId)
    pure (if answer = .removed then (true, { s with records := s.records.remove lifecycleId })
      else (false, s))

/-- A store and what has been counted so far. -/
abbrev Counted := PreCommitRuntimeStore × PreCommitStartupSummary

def countCleared (c : Counted) : Counted := (c.1, { c.2 with cleared := c.2.cleared + 1 })

def quarantineSeat (c : Counted) (seat : String) : Counted :=
  ({ c.1 with startupQuarantinedSeats := c.1.startupQuarantinedSeats ++ [seat] },
    { c.2 with quarantined := c.2.quarantined + 1 })

def clearOrQuarantine (c : Counted) (r : PreCommitRuntimeRecord) : Reconciling Counted := do
  let (removed, s) ← c.1.removeRecordById r.lifecycleId
  pure (if removed then countCleared (s, c.2) else quarantineSeat (s, c.2) r.seat)

def clearEarlierBoot (c : Counted) (r : PreCommitRuntimeRecord) : Reconciling Counted := do
  let (removed, s) ← c.1.removeRecordById r.lifecycleId
  let summary := if removed then (countCleared (s, c.2)).2 else c.2
  pure (if (s.records.get r.lifecycleId).isNone then (s, summary)
    else ({ s with startupQuarantined := true }, { summary with quarantined := summary.quarantined + 1 }))

def reconcileRecord (currentBoot : String) (ledger : Option PersistentRecoveryLedger) (c : Counted)
    (r : PreCommitRuntimeRecord) : Reconciling Counted :=
  if r.bootId ≠ currentBoot then clearEarlierBoot c r
  else if r.handoffCommitted && exactA3RecordExists ledger r then clearOrQuarantine c r
  else do
    let status ← inspectWorkerIdentity r
    match status with
    | .absent => clearOrQuarantine c r
    | .exact => do
      -- the worker's pid is there wherever its identity is exact
      let killed ← killExactPid (r.workerPid.getD 0)
      if killed then clearOrQuarantine c r else pure (quarantineSeat c r.seat)
    | .indeterminate => pure (quarantineSeat c r.seat)

def reconcileRecords (currentBoot : String) (ledger : Option PersistentRecoveryLedger) :
    Counted → List PreCommitRuntimeRecord → Reconciling Counted
  | c, [] => pure c
  | c, r :: rs => do
    let c ← reconcileRecord currentBoot ledger c r
    reconcileRecords currentBoot ledger c rs

def reconcileStartup (s : PreCommitRuntimeStore) (currentBoot : Option String)
    (ledger : Option PersistentRecoveryLedger) : Reconciling Counted :=
  match currentBoot with
  | none => pure ({ s with startupQuarantined := true },
      { quarantined := max s.records.values.length 1 })
  | some boot => do
    let (s, summary) ← reconcileRecords boot ledger (s, {}) s.records.values
    pure ({ s with startupQuarantined := s.startupQuarantined || 0 < summary.quarantined }, summary)

end PreCommitRuntimeStore

end Niralis
