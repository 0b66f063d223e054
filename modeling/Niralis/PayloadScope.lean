import Niralis.CallSteps
import Niralis.EmptyProof

namespace Niralis.PayloadScope
open Calls

inductive Signal
  | term | kill
  deriving DecidableEq, Repr

/-- What the `JobRemoved` stream brings before the timer does. -/
inductive JobSignal
  | timer
  | malformed
  | removed (id : Nat) (path result : String)
  deriving DecidableEq, Repr

inductive UnitProperty
  | id | activeState | subState | transient | invocationId | slice | controlGroup
  deriving DecidableEq, Repr

abbrev UnitProperty.Value : UnitProperty → Type
  | id | activeState | subState | slice | controlGroup => String
  | transient => Bool
  | invocationId => List UInt8

/-- The calls on the clock, on `/dev/urandom`, on the system manager and on the control groups. Those of
the empty proof are among them. -/
inductive ScopeCall
  | proof (q : ProofCall)
  | refPinnedUnit (invocationId objectPath : String)
  | killPinnedUnit (invocationId objectPath : String) (signal : Signal)
  | createBoundaryObserver (invocationId objectPath controlGroup : String)
  | unrefPinnedUnit (invocationId objectPath : String)
  | readMembers (cgroup : String)
  | pidfdCgroup (pidfd : Int)
  | timeLeft
  | connect
  | random
  | managerProxy
  | unitProxy (objectPath : String)
  | scopeProxy (objectPath : String)
  | receiveJobs (unitName : String)
  | nextJob
  | startTransientUnit (unitName slice : String) (pid : Nat)
  | stopUnit (unitName : String)
  | getUnit (unitName : String)
  | property (objectPath : String) (name : UnitProperty)
  | unref (objectPath : String)
  deriving DecidableEq

abbrev ScopeCall.Answer : ScopeCall → Type
  | proof q => q.Answer
  | refPinnedUnit _ _ | killPinnedUnit _ _ _ | createBoundaryObserver _ _ _ | unrefPinnedUnit _ _ =>
    Except InvocationBackendError Unit
  | readMembers _ => Except PayloadScopeError (List Nat)
  | pidfdCgroup _ => Except PayloadScopeError String
  | timeLeft | connect | managerProxy | unitProxy _ | scopeProxy _ | receiveJobs _ | unref _ => Bool
  | random => Option (Vector UInt8 16)
  | nextJob => JobSignal
  | startTransientUnit _ _ _ | stopUnit _ | getUnit _ => Option String
  | property _ name => Option name.Value

abbrev Scoping := Calls ScopeCall ScopeCall.Answer PayloadScopeError

abbrev ScopeLog := List (Sigma ScopeCall.Answer)

structure SystemdPayloadScope where
  identity : PayloadScopeIdentity
  pinnedUnit : PinnedInvocationUnit
  controlGroup : String
  workerPid : Nat
  launcherPid : Nat
  deriving DecidableEq, Repr

def hexByte (byte : UInt8) : List Char :=
  [(byte.toNat / 16).digitChar, (byte.toNat % 16).digitChar]

def hexText (bytes : List UInt8) : String := String.ofList (bytes.flatMap hexByte)

def hexId (bytes : List UInt8) : Option String :=
  if bytes.length = 16 then some (hexText bytes) else none

def sliceName (uid : Nat) : String := "user-" ++ toString uid ++ ".slice"

def validSliceName (value : String) (uid : Nat) : Bool := value = sliceName uid && uid ≠ 0

def remaining : Scoping Unit := do
  let left : Bool ← ask ScopeCall.timeLeft
  ensure .timedOut left

def waitJob (expectedPath : String) : Scoping Unit := do
  remaining
  let next : JobSignal ← ask ScopeCall.nextJob
  match next with
  | .timer => fail .timedOut
  | .malformed => fail .jobFailed
  | .removed id path result =>
    if id = 0 ∨ path ≠ expectedPath ∨ result ≠ "done" then fail .jobFailed else pure ()

def stopCreatedUnit (unitName : String) : Scoping Unit := do
  let subscribed : Bool ← ask (ScopeCall.receiveJobs unitName)
  ensure .cleanupFailed subscribed
  let stop : Option String ← ask (ScopeCall.stopUnit unitName)
  let job ← require .cleanupFailed stop
  (waitJob job).handle (orFail fun _ => .cleanupFailed)

/-- `checked!`: once the unit exists, nothing fails without stopping it. -/
def checked {α : Type} (unitName : String) : Except PayloadScopeError α → Scoping α
  | .ok value => pure value
  | .error e => (stopCreatedUnit unitName).handle fun
    | .ok _ => fail e
    | .error _ => fail .cleanupFailed

def validatePinning (unitName invocationId controlGroup slice objectPath : String)
    (reading : Except InvocationBackendError InvocationUnitProperties) : Except PayloadScopeError Unit :=
  match reading with
  | .error e => .error (mapInvocationError .readPropertiesAfterRef e)
  | .ok properties =>
    if properties.objectPath ≠ objectPath ∨ properties.id ≠ unitName ∨
        properties.invocationId ≠ invocationId ∨ properties.controlGroup ≠ controlGroup ∨
        properties.slice ≠ slice ∨ properties.activeState ≠ "active" ∨
        properties.subState ≠ "running" ∨ !properties.transient then
      .error .unitReplaced
    else .ok ()

def pinInvocationUnit (unitName invocationId controlGroup slice : String) :
    Scoping PinnedInvocationUnit := do
  let resolution : Except InvocationBackendError String ←
    ask (ScopeCall.proof (.resolveByInvocation invocationId))
  let objectPath ← orFail (mapInvocationError .resolveByInvocation) resolution
  let reference : Except InvocationBackendError Unit ← ask (ScopeCall.refPinnedUnit invocationId objectPath)
  orFail (mapInvocationError .refPinnedUnit) reference
  let reading : Except InvocationBackendError InvocationUnitProperties ←
    ask (ScopeCall.proof (.readProperties .readPropertiesAfterRef invocationId objectPath unitName))
  match validatePinning unitName invocationId controlGroup slice objectPath reading with
  | .ok _ => pure { objectPath, referenceHeld := true }
  | .error e => do
    let _ ← ask (ScopeCall.unrefPinnedUnit invocationId objectPath)
    fail e

/-- A process whose control group cannot be read counts as inside. -/
def confirmOutside (controlGroup : String) (members : List Nat) : List Nat → Scoping Unit
  | [] => pure ()
  | pid :: pids => do
    let lookup : Except PayloadScopeError String ← ask (ScopeCall.proof (.pidCgroup pid))
    let outside ← orFail id lookup
    ensure .workerInsideBoundary
      !(outside = controlGroup || isAncestor controlGroup outside || members.contains pid)
    confirmOutside controlGroup members pids

def readMembers (controlGroup : String) : Scoping (List Nat) := do
  let members : Except PayloadScopeError (List Nat) ← ask (ScopeCall.readMembers controlGroup)
  orFail id members

section Prepare
variable (unitName slice : String) (pid : Nat) (pidfd : Int) (expectedUid : Nat)
  (logindSessionId : String) (workerPid launcherPid : Nat)

def unitProperty (objectPath : String) (name : UnitProperty) : Scoping name.Value := do
  let value : Option name.Value ← ask (ScopeCall.property objectPath name)
  checked unitName (value.elim (.error .invalidIdentity) .ok)

/-- The unit that the finished job has left: its invocation and its control group. -/
def inspectCreated : Scoping (String × String) := do
  let found : Option String ← ask (ScopeCall.getUnit unitName)
  let objectPath ← checked unitName (found.elim (.error .invalidIdentity) .ok)
  let unitProxy : Bool ← ask (ScopeCall.unitProxy objectPath)
  checked unitName (if unitProxy then .ok () else .error .invalidIdentity)
  let scopeProxy : Bool ← ask (ScopeCall.scopeProxy objectPath)
  checked unitName (if scopeProxy then .ok () else .error .invalidIdentity)
  let id ← unitProperty unitName objectPath .id
  let active ← unitProperty unitName objectPath .activeState
  let sub ← unitProperty unitName objectPath .subState
  let transient ← unitProperty unitName objectPath .transient
  let invocation ← unitProperty unitName objectPath .invocationId
  let observedSlice ← unitProperty unitName objectPath .slice
  let controlGroup ← unitProperty unitName objectPath .controlGroup
  let invocationId ← checked unitName ((hexId invocation).elim (.error .invalidIdentity) .ok)
  checked unitName
    (if id ≠ unitName ∨ active ≠ "active" ∨ sub ≠ "running" ∨ !transient ∨ observedSlice ≠ slice ∨
        !validPayloadCgroup controlGroup expectedUid unitName then
      .error .invalidIdentity
    else .ok ())
  pure (invocationId, controlGroup)

/-- The session child is alone in the control group, the worker and the launcher outside of it. -/
def confirmMembership (controlGroup : String) : Scoping Unit := do
  let authoritative : Except PayloadScopeError String ← ask (ScopeCall.pidfdCgroup pidfd)
  let authoritativeCgroup ← checked unitName authoritative
  checked unitName (if authoritativeCgroup ≠ controlGroup then .error .cgroupMismatch else .ok ())
  let members ← (readMembers controlGroup).handle (checked unitName)
  checked unitName (if members ≠ [pid] then .error .invalidMembership else .ok ())
  (confirmOutside controlGroup members [workerPid, launcherPid]).handle (checked unitName)

/-- `prepare_scope` from the accepted start job on. -/
def adoptCreated (job : String) : Scoping SystemdPayloadScope := do
  (waitJob job).handle (checked unitName)
  let (invocationId, controlGroup) ← inspectCreated unitName slice expectedUid
  confirmMembership unitName pid pidfd workerPid launcherPid controlGroup
  let pinnedUnit ← (pinInvocationUnit unitName invocationId controlGroup slice).handle (checked unitName)
  pure
    { identity := { unitName, invocationId, expectedUid, logindSessionId }
      pinnedUnit, controlGroup, workerPid, launcherPid }

def prepareScope : Scoping SystemdPayloadScope := do
  remaining
  let connected : Bool ← ask ScopeCall.connect
  ensure .busUnavailable connected
  let manager : Bool ← ask ScopeCall.managerProxy
  ensure .busUnavailable manager
  let random : Option (Vector UInt8 16) ← ask ScopeCall.random
  let bytes ← require .startFailed random
  let unitName := "niralis-payload-" ++ hexText bytes.toList ++ ".scope"
  let slice := sliceName expectedUid
  ensure .invalidIdentity (validSliceName slice expectedUid)
  let subscribed : Bool ← ask (ScopeCall.receiveJobs unitName)
  ensure .startFailed subscribed
  let start : Option String ← ask (ScopeCall.startTransientUnit unitName slice pid)
  let job ← require .startFailed start
  adoptCreated unitName slice pid pidfd expectedUid logindSessionId workerPid launcherPid job

end Prepare

structure ProcessIdentityProof where
  pid : Nat
  sid : Nat
  pgid : Nat
  deriving DecidableEq, Repr

/-- `SystemdPayloadScopeManager::prepare`. -/
def prepare (childPid : Nat) (processIdentity : ProcessIdentityProof) (authoritativePidfd : Int)
    (expectedUid : Nat) (logindSessionId : String) (workerPid launcherPid : Nat) :
    Scoping SystemdPayloadScope :=
  if expectedUid = 0 ∨ childPid ≠ processIdentity.pid ∨ processIdentity.sid ≠ childPid ∨
      processIdentity.pgid ≠ childPid ∨ authoritativePidfd < 0 then
    fail .invalidIdentity
  else
    prepareScope childPid authoritativePidfd expectedUid logindSessionId workerPid launcherPid

def validatePinnedProperties (identity : PayloadScopeIdentity) (pinned : PinnedInvocationUnit)
    (controlGroup : String) (properties : InvocationUnitProperties) : Except PayloadScopeError Unit :=
  validatePinnedPropertiesWithControlGroup identity pinned controlGroup properties .exact

def validateDisappearedBoundaryProperties (identity : PayloadScopeIdentity)
    (pinned : PinnedInvocationUnit) (controlGroup : String) (properties : InvocationUnitProperties) :
    Except PayloadScopeError Unit :=
  if properties.objectPath ≠ pinned.objectPath ∨ properties.invocationId ≠ identity.invocationId ∨
      properties.id ≠ identity.unitName ∨ properties.slice ≠ sliceName identity.expectedUid ∨
      !properties.transient ∨
      (properties.controlGroup ≠ "" ∧ properties.controlGroup ≠ controlGroup) ∨
      !terminalUnitState properties.activeState properties.subState then
    .error .unitReplaced
  else .ok ()

namespace SystemdPayloadScope
variable (scope : SystemdPayloadScope)

def resolve (mapped : InvocationBackendError → PayloadScopeError) : Scoping String := do
  let resolution : Except InvocationBackendError String ←
    ask (ScopeCall.proof (.resolveByInvocation scope.identity.invocationId))
  orFail mapped resolution

def readProperties (operation : InvocationOperation)
    (mapped : InvocationBackendError → PayloadScopeError) : Scoping InvocationUnitProperties := do
  let reading : Except InvocationBackendError InvocationUnitProperties ←
    ask (ScopeCall.proof (.readProperties operation scope.identity.invocationId scope.pinnedUnit.objectPath
      scope.identity.unitName))
  orFail mapped reading

def killPinnedUnit (signal : Signal) : Scoping Unit := do
  let killed : Except InvocationBackendError Unit ←
    ask (ScopeCall.killPinnedUnit scope.identity.invocationId scope.pinnedUnit.objectPath signal)
  orFail (mapInvocationError .killPinnedUnit) killed

def unrefPinnedUnit (e : PayloadScopeError) : Scoping Unit := do
  let released : Except InvocationBackendError Unit ←
    ask (ScopeCall.unrefPinnedUnit scope.identity.invocationId scope.pinnedUnit.objectPath)
  orFail (fun _ => e) released

/-- The unit that the invocation has now is the pinned one, with the properties it was pinned with. -/
def validateForcedInvocationEligibility : Scoping InvocationUnitProperties := do
  let resolved ← scope.resolve (mapInvocationError .resolveByInvocation)
  ensure .unitReplaced (resolved = scope.pinnedUnit.objectPath)
  let properties ← scope.readProperties .readPropertiesAfterRef
    (mapInvocationError .readPropertiesAfterRef)
  orFail id (validatePinnedProperties scope.identity scope.pinnedUnit scope.controlGroup properties)
  pure properties

def confirmWorkerOutside : Scoping Unit := do
  let members ← readMembers scope.controlGroup
  confirmOutside scope.controlGroup members [scope.workerPid, scope.launcherPid]

/-- The checks before the signal are those of `validate_forced_invocation_eligibility`, which the source
writes out again. -/
def requestGracefulTerminationInvocation : Scoping Unit := do
  ensure .invalidIdentity scope.pinnedUnit.referenceHeld
  let properties ← scope.validateForcedInvocationEligibility
  ensure .invalidIdentity (properties.activeState = "active" && properties.subState = "running")
  scope.killPinnedUnit .term
  let after ← scope.readProperties .readPropertiesAfterKill
    (mapInvocationError .readPropertiesAfterKill)
  orFail id
    (validateTerminalTransitionProperties scope.identity scope.pinnedUnit scope.controlGroup after)

def requestGracefulTermination : Scoping Unit := do
  scope.confirmWorkerOutside
  scope.requestGracefulTerminationInvocation

def validateForcedTerminationEligibility : Scoping Unit := do
  ensure .invalidIdentity (scope.pinnedUnit.referenceHeld &&
    validPayloadCgroup scope.controlGroup scope.identity.expectedUid scope.identity.unitName)
  scope.confirmWorkerOutside
  let _ ← scope.validateForcedInvocationEligibility

def requestForcedSignalInvocation : Scoping Unit := do
  let _ ← scope.validateForcedInvocationEligibility
  scope.killPinnedUnit .kill

def requestForcedTermination : Scoping Unit := do
  scope.validateForcedTerminationEligibility
  scope.requestForcedSignalInvocation

/-- A unit that is gone after the signal is what the signal was for. -/
def validateForcedTerminationPostKill : Scoping Unit := do
  let resolution : Except InvocationBackendError String ←
    ask (ScopeCall.proof (.resolveByInvocation scope.identity.invocationId))
  match resolution with
  | .error .noSuchUnit | .error .unknownObject => pure ()
  | .error e => fail (mapInvocationError .readPropertiesAfterKill e)
  | .ok path =>
    if path = scope.pinnedUnit.objectPath then do
      let reading : Except InvocationBackendError InvocationUnitProperties ←
        ask (ScopeCall.proof (.readProperties .readPropertiesAfterKill scope.identity.invocationId
          scope.pinnedUnit.objectPath scope.identity.unitName))
      match reading with
      | .error .noSuchUnit | .error .unknownObject => pure ()
      | .error e => fail (mapInvocationError .readPropertiesAfterKill e)
      | .ok properties =>
        orFail id (validateTerminalTransitionProperties scope.identity scope.pinnedUnit
          scope.controlGroup properties)
    else fail .unitReplaced

def boundaryAppearsTerminal : Scoping Bool := do
  let resolved ← scope.resolve (mapInvocationError .resolveByInvocation)
  ensure .unitReplaced (resolved = scope.pinnedUnit.objectPath)
  let properties ← scope.readProperties .readPropertiesAfterObserver
    (mapInvocationError .readPropertiesAfterObserver)
  orFail id (validateTerminalTransitionProperties scope.identity scope.pinnedUnit scope.controlGroup
    properties)
  pure (terminalUnitState properties.activeState properties.subState)

def createBoundaryObserver : Scoping Unit := do
  let created : Except InvocationBackendError Unit ←
    ask (ScopeCall.createBoundaryObserver scope.identity.invocationId scope.pinnedUnit.objectPath
      scope.controlGroup)
  orFail (mapInvocationError .createBoundaryObserver) created

/-- The invocation, resolved to `expectedPath`, and its unit at rest. -/
def readDisappeared (expectedPath : String) : Scoping InvocationUnitProperties := do
  let path ← scope.resolve fun _ => .cleanupFailed
  ensure .unitReplaced (path = expectedPath)
  let properties ← scope.readProperties .readPropertiesDuringCleanup fun _ => .cleanupFailed
  orFail id (validateDisappearedBoundaryProperties scope.identity scope.pinnedUnit scope.controlGroup
    properties)
  pure properties

def provePrecommitDisappearance : Scoping Unit := do
  ensure .cleanupFailed scope.pinnedUnit.referenceHeld
  let first ← scope.readDisappeared scope.pinnedUnit.objectPath
  let second ← scope.readDisappeared scope.pinnedUnit.objectPath
  ensure .unitReplaced (first = second)

/-- The invocation is still the unit's own, and no process is left in it. -/
def confirmAbandoned : Scoping Unit := do
  let unitProxy : Bool ← ask (ScopeCall.unitProxy scope.pinnedUnit.objectPath)
  ensure .cleanupFailed unitProxy
  let value : Option (List UInt8) ← ask (ScopeCall.property scope.pinnedUnit.objectPath .invocationId)
  let observed ← require .cleanupFailed value
  ensure .cleanupFailed (hexId observed = some scope.identity.invocationId)
  let members ← readMembers scope.controlGroup
  ensure .cleanupFailed members.isEmpty
  let manager : Bool ← ask ScopeCall.managerProxy
  ensure .cleanupFailed manager

/-- The source repeats the steps of `stop_created_unit` here. -/
def cleanupUnit (releasePin : Bool) : Scoping Unit := do
  let boundary : Except InvocationBackendError CgroupEmptyState ←
    ask (ScopeCall.proof (.readBoundaryState scope.identity.invocationId scope.pinnedUnit.objectPath
      scope.controlGroup))
  match boundary with
  | .error _ => fail .cleanupFailed
  | .ok .absent => do
    scope.provePrecommitDisappearance
    if releasePin then scope.unrefPinnedUnit .cleanupFailed else pure ()
  | .ok .presentEmpty => do
    scope.confirmAbandoned
    stopCreatedUnit scope.identity.unitName
    if releasePin then do
      let released : Bool ← ask (ScopeCall.unref scope.pinnedUnit.objectPath)
      ensure .cleanupFailed released
    else pure ()

def releasePin : Scoping SystemdPayloadScope :=
  if !scope.pinnedUnit.referenceHeld then pure scope
  else do
    scope.unrefPinnedUnit .unrefFailed
    pure { scope with pinnedUnit := { scope.pinnedUnit with referenceHeld := false } }

end SystemdPayloadScope

/-- The methods of `AuthoritativePayloadScope` that leave the scope with its owner. -/
inductive ScopeOperation
  | requestGracefulTermination
  | validateForcedTerminationEligibility
  | requestForcedTermination
  | validateForcedTerminationPostKill
  | boundaryAppearsTerminal
  | createBoundaryObserver
  | proveEmptyBoundary (leaderExit : LeaderExit)
  | cleanupPreservingPin
  | releasePin
  deriving DecidableEq, Repr

namespace SystemdPayloadScope

def proveEmptyBoundary (scope : SystemdPayloadScope) (leaderExit : LeaderExit) :
    Scoping BoundaryEmptyProof :=
  (Niralis.proveEmptyBoundary scope.identity scope.pinnedUnit scope.controlGroup scope.workerPid
    scope.launcherPid leaderExit).embed ScopeCall.proof fun _ answer => answer

/-- The scope after the operation. Only the release of the pin changes it. -/
def perform (scope : SystemdPayloadScope) : ScopeOperation → Scoping SystemdPayloadScope
  | .requestGracefulTermination => do scope.requestGracefulTermination; pure scope
  | .validateForcedTerminationEligibility => do
    scope.validateForcedTerminationEligibility
    pure scope
  | .requestForcedTermination => do scope.requestForcedTermination; pure scope
  | .validateForcedTerminationPostKill => do scope.validateForcedTerminationPostKill; pure scope
  | .boundaryAppearsTerminal => do let _ ← scope.boundaryAppearsTerminal; pure scope
  | .createBoundaryObserver => do scope.createBoundaryObserver; pure scope
  | .proveEmptyBoundary leaderExit => do let _ ← scope.proveEmptyBoundary leaderExit; pure scope
  | .cleanupPreservingPin => do scope.cleanupUnit false; pure scope
  | .releasePin => scope.releasePin

/-- One operation after another, also after those that fail. -/
def use : SystemdPayloadScope → List ScopeOperation → Scoping SystemdPayloadScope
  | scope, [] => pure scope
  | scope, operation :: operations => (scope.perform operation).handle fun
    | .ok scope' => scope'.use operations
    | .error _ => scope.use operations

/-- `cleanup` takes the scope from its owner. -/
def live (scope : SystemdPayloadScope) (operations : List ScopeOperation) : Scoping Unit := do
  let scope ← scope.use operations
  scope.cleanupUnit true

end SystemdPayloadScope
end Niralis.PayloadScope
