import Niralis.LedgerRuns
import Niralis.SameBootEffects

namespace Niralis
open PersistentRecoveryLedger

/-- The supervisor's startup on one record. `loaded` is the host and the record as the last start
found them; `finishedBy` remembers the starts that finished the record, and is read by nothing. -/
structure RestartState where
  world : StartupWorld
  program : StartupM Unit
  loaded : Option (SameBootHost × PersistentRecoveryRecord)
  finishedBy : List (SameBootHost × PersistentRecoveryRecord)

/-- A start of the supervisor, which ends whatever ran before, or one request of the running
startup. -/
inductive RestartMove
  | start (host : SameBootHost) (blocked conflicted : Bool)
  | advance (answer : StartupAnswer)

/-- The startup waits for a write after which the record is finished. -/
def RestartState.finishes (id : String) (s : RestartState) : Bool :=
  match s.program.pending with
  | some (.write i write) =>
    i = id && (s.world.ledger.get id).any fun r => finishedState (write.target r)
  | _ => false

section Invariant
variable (settled : Prop) (boot id : String)

end Invariant

section Steps
variable {settled : Prop} {boot id : String} {s : RestartState}

section Seen
variable {r : PersistentRecoveryRecord} {seen seen' : ExternalEffect → Prop} {w : StartupWorld}

theorem AllSeen.mono (h : AllSeen r seen) (hsub : ∀ effect, seen effect → seen' effect) :
    AllSeen r seen' := fun effect hundecided => hsub effect (h effect hundecided)

theorem Careful.mono {request : StartupRequest} (h : Careful r seen w request)
    (hsub : ∀ effect, seen effect → seen' effect) : Careful r seen' w request :=
  ⟨h.effect, fun write current hw hget hfinished =>
    ⟨(h.finishes write current hw hget hfinished).1.mono hsub,
      (h.finishes write current hw hget hfinished).2⟩, fun hfrees => (h.frees hfrees).mono hsub⟩

end Seen

end Steps

def notStarted (l : PersistentRecoveryLedger) : RestartState := ⟨{ ledger := l }, .done (), none, []⟩

section RepeatedUnref

/-- A session whose worker and leader are gone and whose scope is still loaded. -/
def emptyScopeRecord (unref : DurableOperationState) (sequence : Nat) :
    PersistentRecoveryRecord where
  lifecycleId := "worker-1"
  sequence := sequence
  createdBootId := "boot-1"
  lastUpdatedBootId := "boot-1"
  state := "started"
  uid := 1000
  seat := "seat0"
  workerPid := 100
  launcherPid := 99
  leaderPid := some 101
  payloadUnit := some "niralis-payload-1.scope"
  transient := some true
  invocationId := some "0123456789abcdef0123456789abcdef"
  controlGroup := some "/user.slice/user-1000.slice/niralis-payload-1.scope"
  logindSessionId := some "c1"
  operationLedger := { supervisorUnref := unref }

/-- The unit can be pinned, its boundary is empty, and the unref call is answered. -/
def emptyScopeHost : SameBootHost where
  worker := .originalGone
  exitsOnSigterm := false
  workerAfterSigterm := .originalGone
  exitsOnSigkill := false
  leader := .originalGone
  ownerWatches := true
  pin := .ok "/user.slice/user-1000.slice/niralis-payload-1.scope"
  absentBoundary := .error .boundaryIdentityChanged
  boundaryPopulated := some false
  payloadOwnerStable := true
  emergencyKill := .boundaryEmpty
  ownerAfterKill := true
  boundaryEmptied := .ok ()
  proofOwnerStable := true
  boundaryProof := .ok ()
  unrefOwnerValid := true
  unref := .answered (.ok ()) true
  logindOwnerStable := true
  logindOwner := true
  sessionExists := some false
  session := none
  logindAuthorized := true
  terminate := .refused
  logindAuthorizedAfter := true
  logindOwnerSame := true
  vtState := none
  bootIdAtVt := none
  ttyContextRestored := false
  vtOwnerStable := true
  vtRecover := .refused
  vtProvenance := ⟨3, some 2, some false, .kernelBusyUnattributed⟩
  logindOwnerSameAtEnd := true

def answered : RestartMove := .advance { write := { bootId := some "boot-1" } }

end RepeatedUnref

end Niralis
