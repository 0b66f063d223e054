import Niralis.LedgerOpen
import Niralis.PreviousBootRecovery
import Niralis.SameBootRecovery

namespace Niralis

inductive UnknownScopeInventory
  | none
  | knownSeats (seats : List String)
  | globalQuarantine
  deriving DecidableEq, Repr

/-- What the host answers in one startup: the text of the boot id file, the payload scopes that no
record knows, and for each record what its reconciliation asks for. -/
structure StartupHost where
  bootId : Option String
  inventory : Option UnknownScopeInventory
  sameBoot : String → SameBootHost
  previousBoot : String → PreviousBootHost

section Conflicts

inductive ConflictKey
  | seat (seat : String)
  | vt (number : Nat)
  | invocation (id : String)
  deriving DecidableEq, Repr

def conflictKeys (r : PersistentRecoveryRecord) : List ConflictKey :=
  .seat r.seat :: (r.targetVt.map .vt).toList ++ (r.invocationId.map .invocation).toList

/-- `seen` maps a key to the last record that has it. -/
def conflictsFrom : List (ConflictKey × String) → List (ConflictKey × String) → List String
  | _, [] => []
  | seen, (key, id) :: rest =>
    let conflicted := match seen.lookup key with
      | some previous => [previous, id]
      | none => []
    conflicted ++ conflictsFrom ((key, id) :: seen) rest

/-- The records that share a seat, a terminal or an invocation with another. -/
def conflicts (records : List PersistentRecoveryRecord) : List String :=
  conflictsFrom [] (records.flatMap fun r => (conflictKeys r).map (·, r.lifecycleId))

end Conflicts

section PreviousBoot

def unavailableFacts : PreviousBootCurrentFacts where
  conflicts := ⟨.inspectionUnavailable, .inspectionUnavailable, .inspectionUnavailable,
    .inspectionUnavailable, .inspectionUnavailable⟩
  inspectionFailed := true

def previousBootCurrentFacts (host : PreviousBootHost) (ambiguousNeighbor : Bool) :
    PreviousBootCurrentFacts :=
  { host.planned.getD unavailableFacts with ambiguousNeighbor }

/-- `execute_previous_boot_plan`, and how its outcome is counted. -/
def executeAndCount (host : PreviousBootHost) (currentBoot : String)
    (record : PersistentRecoveryRecord) (facts : PreviousBootCurrentFacts) : StartupM Unit :=
  let plan := planPreviousBootReconciliation record facts
  Program.bind (executePreviousBootPlan host record currentBoot facts plan) fun
    | .ok .seatFreed => .ask (.countFree record.lifecycleId) fun _ _ => .done ()
    | .ok .preservedQuarantine => .ask (.countQuarantined record.lifecycleId) fun _ _ => .done ()
    | .error _ => .ask (.countQuarantined record.lifecycleId) fun _ _ => .done ()

/-- The body of the startup loop for a record of an earlier boot. -/
def reconcilePreviousBootEntry (host : PreviousBootHost) (currentBoot : String)
    (recordSet : RecoveryRecordSetClassification) (record : PersistentRecoveryRecord) :
    StartupM Unit :=
  if recordSet.globalQuarantine || recordSet.seatBlocked record.seat then
    .ask (.markSeatStartupQuarantine record.seat (.record record.lifecycleId)) fun _ _ =>
      .ask (.countQuarantined record.lifecycleId) fun _ _ => .done ()
  else
    .ask .inspect fun _ w =>
      let facts := previousBootCurrentFacts host w.ledger.startupQuarantined
      .ask (.markSeatStartupQuarantine record.seat (.record record.lifecycleId)) fun _ _ =>
        executeAndCount host currentBoot record facts

end PreviousBoot

section Reconcile
variable (host : StartupHost)

structure StartupContext where
  currentBoot : String
  blockedSeats : List String
  conflicted : List String
  recordSet : RecoveryRecordSetClassification

def reconcileEntry (ctx : StartupContext) (record : PersistentRecoveryRecord) : StartupM Unit :=
  if record.createdBootId = ctx.currentBoot then
    reconcileSameBootEntry (host.sameBoot record.lifecycleId) ctx.currentBoot
      (ctx.blockedSeats.contains record.seat) (ctx.conflicted.contains record.lifecycleId) record
  else
    reconcilePreviousBootEntry (host.previousBoot record.lifecycleId) ctx.currentBoot
      ctx.recordSet record

def reconcileEntries (ctx : StartupContext) : List PersistentRecoveryRecord → StartupM Unit
  | [] => .done ()
  | record :: rest => Program.bind (reconcileEntry host ctx record) fun _ =>
    reconcileEntries ctx rest

def markSeats : List String → StartupM Unit
  | [] => .done ()
  | seat :: seats => .ask (.markSeatStartupQuarantine seat .unknownScope) fun _ _ =>
    markSeats seats

def quarantineStartup (records : List PersistentRecoveryRecord) : StartupM Unit :=
  .ask .markStartupQuarantine fun _ _ =>
    .ask (.addToSummary 0 (max records.length 1)) fun _ _ => .done ()

def resumeAndCount : StartupM Unit :=
  Program.bind resumeRemovedPreviousBootFinalization fun
    | .ok completed => .ask (.addToSummary completed 0) fun _ _ => .done ()
    | .error _ => .done ()

def reconcileRecordSet (currentBoot : String) (blockedSeats : List String)
    (recordSet : RecoveryRecordSetClassification) (records : List PersistentRecoveryRecord) :
    StartupM Unit :=
  if recordSet.globalQuarantine then quarantineStartup records
  else
    let sameBoot := records.filter (·.createdBootId = currentBoot)
    Program.bind
      (reconcileEntries host ⟨currentBoot, blockedSeats, conflicts sameBoot, recordSet⟩ records)
      fun _ => resumeAndCount

def reconcileRecords (recordSet : RecoveryRecordSetClassification)
    (records : List PersistentRecoveryRecord) : StartupM Unit :=
  match host.bootId.filter bootIdentityValid with
  | none => quarantineStartup records
  | some currentBoot =>
    if !records.all (bootIdentityValid ·.createdBootId) then quarantineStartup records
    else
      match host.inventory.getD .globalQuarantine with
      | .none => reconcileRecordSet host currentBoot [] recordSet records
      | .knownSeats seats => Program.bind (markSeats seats) fun _ =>
        reconcileRecordSet host currentBoot seats recordSet records
      | .globalQuarantine => quarantineStartup records

/-- `StartupRecoveryCoordinator::reconcile` -/
def reconcile : StartupM Unit :=
  .ask .inspect fun _ w => reconcileRecords host w.ledger.recordSet w.ledger.records

end Reconcile

/-- The ledger of a process that opened the directory and reconciled it. -/
def startup (directory : PersistentRecoveryLedger) (bootId : Option String) (host : StartupHost)
    (answers : Nat → StartupAnswer) : StartupWorld :=
  ((reconcile host).run StartupWorld.perform answers { ledger := directory.openDirectory bootId }
    0).2

end Niralis
