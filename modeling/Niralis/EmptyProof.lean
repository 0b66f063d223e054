import Niralis.Calls
import Niralis.CgroupReaders
import Niralis.WaitLoop

namespace Niralis

inductive InvocationOperation
  | resolveByInvocation | refPinnedUnit | readPropertiesAfterRef | killPinnedUnit
  | readPropertiesAfterKill | createBoundaryObserver | readPropertiesAfterObserver | readBoundaryState
  | readPropertiesDuringEmptyProof | readPropertiesDuringCleanup | unrefPinnedUnit
  deriving DecidableEq, Repr

inductive InvocationBackendError
  | noSuchUnit | unknownObject | busDisconnected | serviceOwnerChanged | transport
  | boundaryNotEmpty | cgroupAbsent | cgroupIo
  deriving DecidableEq, Repr

structure InvocationUnitProperties where
  objectPath : String
  id : String
  invocationId : String
  controlGroup : String
  slice : String
  transient : Bool
  activeState : String
  subState : String
  deriving DecidableEq, Repr

structure PinnedInvocationUnit where
  objectPath : String
  referenceHeld : Bool
  deriving DecidableEq, Repr

structure BoundaryEmptyProof where
  unitName : String
  invocationId : String
  controlGroup : String
  leaderExit : LeaderExit
  deriving DecidableEq, Repr

def BoundaryEmptyProof.new (identity : PayloadScopeIdentity) (controlGroup : String)
    (leaderExit : LeaderExit) : BoundaryEmptyProof where
  unitName := identity.unitName
  invocationId := identity.invocationId
  controlGroup := controlGroup
  leaderExit := leaderExit

/-- The calls of the proof: three of `InvocationBoundProvider`, and `pid_cgroup`. -/
inductive ProofCall
  | resolveByInvocation (invocationId : String)
  | readProperties (operation : InvocationOperation) (invocationId objectPath unitName : String)
  | readBoundaryState (invocationId objectPath controlGroup : String)
  | pidCgroup (pid : Nat)
  deriving DecidableEq, Repr

abbrev ProofCall.Answer : ProofCall → Type
  | resolveByInvocation _ => Except InvocationBackendError String
  | readProperties _ _ _ _ => Except InvocationBackendError InvocationUnitProperties
  | readBoundaryState _ _ _ => Except InvocationBackendError CgroupEmptyState
  | pidCgroup _ => Except PayloadScopeError String

abbrev Proving := Calls ProofCall ProofCall.Answer PayloadScopeError

def mapInvocationError (_operation : InvocationOperation) : InvocationBackendError → PayloadScopeError
  | .noSuchUnit | .unknownObject => .invocationUnavailable
  | .busDisconnected => .busUnavailable
  | .serviceOwnerChanged => .serviceOwnerChanged
  | .transport => .transportFailure
  | .boundaryNotEmpty => .boundaryNotEmpty
  | .cgroupAbsent => .invalidIdentity
  | .cgroupIo => .invalidMembership

def validPayloadCgroup (cgroup : String) (uid : Nat) (unit : String) : Bool :=
  cgroup = "/user.slice/user-" ++ toString uid ++ ".slice/" ++ unit &&
    "niralis-payload-".toList.isPrefixOf unit.toList && ".scope".toList.isSuffixOf unit.toList

def isAncestor (candidate path : String) : Bool :=
  (candidate.toList ++ ['/']).isPrefixOf path.toList

def terminalUnitState (active sub : String) : Bool :=
  active = "inactive" && sub = "dead" || active = "failed" && sub = "failed"

inductive ControlGroupPropertyMode
  | exact | allowClearedWhenTerminal
  deriving DecidableEq, Repr

def validatePinnedPropertiesWithControlGroup (identity : PayloadScopeIdentity)
    (pinned : PinnedInvocationUnit) (controlGroup : String) (properties : InvocationUnitProperties)
    (mode : ControlGroupPropertyMode) : Except PayloadScopeError Unit :=
  if !pinned.referenceHeld || properties.objectPath ≠ pinned.objectPath then .error .unitReplaced
  else if properties.invocationId ≠ identity.invocationId then .error .unitReplaced
  else
    let controlGroupMatches := properties.controlGroup = controlGroup ||
      mode = .allowClearedWhenTerminal && properties.controlGroup = "" &&
        terminalUnitState properties.activeState properties.subState
    if properties.id ≠ identity.unitName || !controlGroupMatches ||
        properties.slice ≠ "user-" ++ toString identity.expectedUid ++ ".slice" ||
        !properties.transient ||
        !validPayloadCgroup controlGroup identity.expectedUid identity.unitName then
      .error .unitReplaced
    else .ok ()

def validateTerminalTransitionProperties (identity : PayloadScopeIdentity)
    (pinned : PinnedInvocationUnit) (controlGroup : String)
    (properties : InvocationUnitProperties) : Except PayloadScopeError Unit :=
  validatePinnedPropertiesWithControlGroup identity pinned controlGroup properties
    .allowClearedWhenTerminal

inductive ResolvedInvocationState
  | present (path : String)
  | missing
  deriving DecidableEq, Repr

def resolveInvocationForProof (invocationId : String) : Proving ResolvedInvocationState := do
  let resolution : Except InvocationBackendError String ←
    Calls.ask (ProofCall.resolveByInvocation invocationId)
  match resolution with
  | .ok path => pure (.present path)
  | .error .noSuchUnit | .error .unknownObject => pure .missing
  | .error e => Calls.fail (mapInvocationError .resolveByInvocation e)

def validateTerminalUnit (identity : PayloadScopeIdentity) (pinned : PinnedInvocationUnit)
    (controlGroup path : String) : Proving Unit := do
  if path ≠ pinned.objectPath then Calls.fail .unitReplaced
  else
    let reading : Except InvocationBackendError InvocationUnitProperties ←
      Calls.ask (ProofCall.readProperties .readPropertiesDuringEmptyProof identity.invocationId path
        identity.unitName)
    match reading with
    | .error e => Calls.fail (mapInvocationError .readPropertiesDuringEmptyProof e)
    | .ok properties =>
      match validateTerminalTransitionProperties identity pinned controlGroup properties with
      | .error e => Calls.fail e
      | .ok _ =>
        if !terminalUnitState properties.activeState properties.subState then
          Calls.fail .unitNotTerminal
        else pure ()

/-- A process whose control group cannot be read is not looked at further. -/
def checkOutside (controlGroup : String) : List Nat → Proving Unit
  | [] => pure ()
  | pid :: pids => do
    let lookup : Except PayloadScopeError String ← Calls.ask (ProofCall.pidCgroup pid)
    match lookup with
    | .ok path =>
      if path = controlGroup ∨ isAncestor controlGroup path then Calls.fail .workerInsideBoundary
      else checkOutside controlGroup pids
    | .error _ => checkOutside controlGroup pids

def validateFirst (identity : PayloadScopeIdentity) (pinned : PinnedInvocationUnit)
    (controlGroup : String) : ResolvedInvocationState → Proving Unit
  | .present path => validateTerminalUnit identity pinned controlGroup path
  | .missing => pure ()

def validateSecond (identity : PayloadScopeIdentity) (pinned : PinnedInvocationUnit)
    (controlGroup : String) : ResolvedInvocationState → ResolvedInvocationState → Proving Unit
  | .present firstPath, .present path =>
    if firstPath = path then validateTerminalUnit identity pinned controlGroup path
    else Calls.fail .unitReplaced
  | .missing, .missing => pure ()
  | _, _ => Calls.fail .unitReplaced

def proveEmptyBoundary (identity : PayloadScopeIdentity) (pinned : PinnedInvocationUnit)
    (controlGroup : String) (workerPid launcherPid : Nat) (leaderExit : LeaderExit) :
    Proving BoundaryEmptyProof := do
  if !validPayloadCgroup controlGroup identity.expectedUid identity.unitName then
    Calls.fail .invalidIdentity
  else
    let first ← resolveInvocationForProof identity.invocationId
    validateFirst identity pinned controlGroup first
    let boundary : Except InvocationBackendError CgroupEmptyState ←
      Calls.ask (ProofCall.readBoundaryState identity.invocationId pinned.objectPath controlGroup)
    match boundary with
    | .error e => Calls.fail (mapInvocationError .readBoundaryState e)
    | .ok _ =>
      checkOutside controlGroup [workerPid, launcherPid]
      let second ← resolveInvocationForProof identity.invocationId
      validateSecond identity pinned controlGroup first second
      pure (.new identity controlGroup leaderExit)

/-- What the proof asks of the properties of a unit that is still there. -/
structure TerminalUnit (identity : PayloadScopeIdentity) (pinned : PinnedInvocationUnit)
    (controlGroup : String) (properties : InvocationUnitProperties) : Prop where
  held : pinned.referenceHeld = true
  objectPath : properties.objectPath = pinned.objectPath
  invocationId : properties.invocationId = identity.invocationId
  id : properties.id = identity.unitName
  slice : properties.slice = "user-" ++ toString identity.expectedUid ++ ".slice"
  transient : properties.transient = true
  controlGroup : properties.controlGroup = controlGroup ∨ properties.controlGroup = ""
  terminal : terminalUnitState properties.activeState properties.subState = true

/-- A lookup that does not put the process inside the boundary. -/
def Outside (controlGroup : String) (lookup : Except PayloadScopeError String) : Prop :=
  ∀ path, lookup = .ok path → path ≠ controlGroup ∧ isAncestor controlGroup path = false

/-- The answer to a resolution that the proof counts as no unit. -/
def NoUnit (resolution : Except InvocationBackendError String) : Prop :=
  resolution = .error .noSuchUnit ∨ resolution = .error .unknownObject

section Steps
open Calls
variable {identity : PayloadScopeIdentity} {pinned : PinnedInvocationUnit} {controlGroup : String}
  {log : List (Sigma ProofCall.Answer)}

theorem resolve_yields {invocationId : String} {state : ResolvedInvocationState} :
    (resolveInvocationForProof invocationId).Yields log (.ok state) ↔
      ∃ resolution, log = [⟨.resolveByInvocation invocationId, resolution⟩] ∧
        (state = .missing ∧ NoUnit resolution ∨
          ∃ path, state = .present path ∧ resolution = .ok path) := by
  rw [resolveInvocationForProof, yields_ask_bind]
  constructor
  · rintro ⟨resolution, rest, rfl, h⟩
    cases resolution with
    | ok path =>
      obtain ⟨rfl, hstate⟩ := h
      cases hstate
      exact ⟨_, rfl, Or.inr ⟨path, rfl, rfl⟩⟩
    | error e =>
      cases e with
      | noSuchUnit =>
        obtain ⟨rfl, hstate⟩ := h
        cases hstate
        exact ⟨_, rfl, Or.inl ⟨rfl, Or.inl rfl⟩⟩
      | unknownObject =>
        obtain ⟨rfl, hstate⟩ := h
        cases hstate
        exact ⟨_, rfl, Or.inl ⟨rfl, Or.inr rfl⟩⟩
      | _ => cases h.2
  · rintro ⟨resolution, rfl, ⟨rfl, rfl | rfl⟩ | ⟨path, rfl, rfl⟩⟩ <;>
    exact ⟨_, [], rfl, rfl, rfl⟩

theorem validate_ok {properties : InvocationUnitProperties}
    (hcgroup : validPayloadCgroup controlGroup identity.expectedUid identity.unitName = true) :
    validateTerminalTransitionProperties identity pinned controlGroup properties = .ok () ∧
      terminalUnitState properties.activeState properties.subState = true ↔
      TerminalUnit identity pinned controlGroup properties := by
  unfold validateTerminalTransitionProperties validatePinnedPropertiesWithControlGroup
  dsimp only
  constructor
  · rintro ⟨hvalid, hterminal⟩
    split_ifs at hvalid with hpinned hinvocation hrest
    simp only [Bool.or_eq_true, Bool.not_eq_true', decide_eq_true_eq, not_or, Decidable.not_not,
      Bool.not_eq_false, Bool.and_eq_true, hterminal, hcgroup, and_true, true_and] at hpinned hinvocation hrest
    obtain ⟨⟨⟨hid, hgroup⟩, hslice⟩, htransient⟩ := hrest
    exact ⟨hpinned.1, hpinned.2, hinvocation, hid, hslice, htransient, hgroup, hterminal⟩
  · intro h
    have hgroup : (decide (properties.controlGroup = controlGroup) ||
        decide (properties.controlGroup = "")) = true := by
      simpa using h.controlGroup
    simp [h.held, h.objectPath, h.invocationId, h.id, h.slice, h.transient, h.terminal, hcgroup, hgroup]

theorem validateTerminalUnit_yields {path : String}
    (hcgroup : validPayloadCgroup controlGroup identity.expectedUid identity.unitName = true) :
    (validateTerminalUnit identity pinned controlGroup path).Yields log (.ok ()) ↔
      path = pinned.objectPath ∧ ∃ properties, TerminalUnit identity pinned controlGroup properties ∧
        log = [⟨.readProperties .readPropertiesDuringEmptyProof identity.invocationId path
          identity.unitName, .ok properties⟩] := by
  rw [validateTerminalUnit]
  by_cases hpath : path = pinned.objectPath
  swap
  · rw [if_pos hpath]
    exact ⟨fun h => (by cases h.2), fun h => absurd h.1 hpath⟩
  rw [if_neg (not_not_intro hpath), yields_ask_bind]
  constructor
  · rintro ⟨reading, rest, rfl, h⟩
    refine ⟨hpath, ?_⟩
    cases reading with
    | error e => cases h.2
    | ok properties =>
      dsimp only at h
      cases hvalid : validateTerminalTransitionProperties identity pinned controlGroup properties with
      | error e =>
        rw [hvalid] at h
        cases h.2
      | ok _ =>
        rw [hvalid] at h
        dsimp only at h
        cases hterminal : terminalUnitState properties.activeState properties.subState with
        | false =>
          rw [hterminal] at h
          cases h.2
        | true =>
          rw [hterminal] at h
          obtain ⟨rfl, -⟩ := h
          exact ⟨properties, (validate_ok hcgroup).mp ⟨hvalid, hterminal⟩, rfl⟩
  · rintro ⟨-, properties, hunit, rfl⟩
    obtain ⟨hvalid, hterminal⟩ := (validate_ok hcgroup).mpr hunit
    refine ⟨.ok properties, [], rfl, ?_⟩
    dsimp only
    rw [hvalid, hterminal]
    exact ⟨rfl, rfl⟩

theorem checkOutside_yields {pids : List Nat} :
    (checkOutside controlGroup pids).Yields log (.ok ()) ↔
      ∃ lookups : List (Except PayloadScopeError String), lookups.length = pids.length ∧
        (∀ lookup ∈ lookups, Outside controlGroup lookup) ∧
        log = (pids.zip lookups).map fun entry => ⟨.pidCgroup entry.1, entry.2⟩ := by
  induction pids generalizing log with
  | nil =>
    constructor
    · rintro ⟨rfl, -⟩
      exact ⟨[], rfl, by simp, rfl⟩
    · rintro ⟨lookups, hlength, -, rfl⟩
      exact ⟨rfl, rfl⟩
  | cons pid pids ih =>
    rw [checkOutside, yields_ask_bind]
    constructor
    · rintro ⟨lookup, rest, rfl, h⟩
      have hlookup : Outside controlGroup lookup ∧
          (checkOutside controlGroup pids).Yields rest (.ok ()) := by
        cases lookup with
        -- a lookup that fails names no group, and the loop goes on
        | error e => exact ⟨fun path hpath => (by cases hpath), h⟩
        | ok path =>
          dsimp only at h
          split at h
          · cases h.2
          · rename_i hout
            rw [not_or, Bool.not_eq_true] at hout
            refine ⟨fun path' hpath => ?_, h⟩
            cases hpath
            exact hout
      obtain ⟨lookups, hlength, hout, rfl⟩ := ih.mp hlookup.2
      refine ⟨lookup :: lookups, by rw [List.length_cons, List.length_cons, hlength], ?_, rfl⟩
      exact List.forall_mem_cons.mpr ⟨hlookup.1, hout⟩
    · rintro ⟨lookups, hlength, hout, rfl⟩
      cases lookups with
      | nil => cases hlength
      | cons lookup lookups =>
        obtain ⟨hfirst, hmore⟩ := List.forall_mem_cons.mp hout
        have hrest := ih.mpr ⟨lookups, Nat.succ.inj hlength, hmore, rfl⟩
        refine ⟨lookup, _, rfl, ?_⟩
        cases lookup with
        | error e => exact hrest
        | ok path =>
          dsimp only
          obtain ⟨hne, hanc⟩ := hfirst path rfl
          rw [if_neg (by rw [hanc]; simp [hne])]
          exact hrest

end Steps

/-- The calls of a successful proof and what they found, in their order. -/
inductive BoundaryObserved (identity : PayloadScopeIdentity) (pinned : PinnedInvocationUnit)
    (controlGroup : String) (workerPid launcherPid : Nat) : List (Sigma ProofCall.Answer) → Prop
  | gone (first second : Except InvocationBackendError String) (state : CgroupEmptyState)
      (worker launcher : Except PayloadScopeError String) (hfirst : NoUnit first)
      (hworker : Outside controlGroup worker) (hlauncher : Outside controlGroup launcher)
      (hsecond : NoUnit second) :
    BoundaryObserved identity pinned controlGroup workerPid launcherPid
      [⟨.resolveByInvocation identity.invocationId, first⟩,
        ⟨.readBoundaryState identity.invocationId pinned.objectPath controlGroup, .ok state⟩,
        ⟨.pidCgroup workerPid, worker⟩, ⟨.pidCgroup launcherPid, launcher⟩,
        ⟨.resolveByInvocation identity.invocationId, second⟩]
  | rested (before after : InvocationUnitProperties) (state : CgroupEmptyState)
      (worker launcher : Except PayloadScopeError String)
      (hbefore : TerminalUnit identity pinned controlGroup before)
      (hworker : Outside controlGroup worker) (hlauncher : Outside controlGroup launcher)
      (hafter : TerminalUnit identity pinned controlGroup after) :
    BoundaryObserved identity pinned controlGroup workerPid launcherPid
      [⟨.resolveByInvocation identity.invocationId, .ok pinned.objectPath⟩,
        ⟨.readProperties .readPropertiesDuringEmptyProof identity.invocationId pinned.objectPath
          identity.unitName, .ok before⟩,
        ⟨.readBoundaryState identity.invocationId pinned.objectPath controlGroup, .ok state⟩,
        ⟨.pidCgroup workerPid, worker⟩, ⟨.pidCgroup launcherPid, launcher⟩,
        ⟨.resolveByInvocation identity.invocationId, .ok pinned.objectPath⟩,
        ⟨.readProperties .readPropertiesDuringEmptyProof identity.invocationId pinned.objectPath
          identity.unitName, .ok after⟩]

theorem proveEmptyBoundary_yields {identity : PayloadScopeIdentity} {pinned : PinnedInvocationUnit}
    {controlGroup : String} {workerPid launcherPid : Nat} {leaderExit : LeaderExit}
    {proof : BoundaryEmptyProof} {log : List (Sigma ProofCall.Answer)}
    (h : (proveEmptyBoundary identity pinned controlGroup workerPid launcherPid leaderExit).Yields log
      (.ok proof)) :
    validPayloadCgroup controlGroup identity.expectedUid identity.unitName = true ∧
      proof = .new identity controlGroup leaderExit ∧
      BoundaryObserved identity pinned controlGroup workerPid launcherPid log := by
  unfold proveEmptyBoundary at h
  split at h
  · cases h.2
  rename_i hcgroup
  rw [Bool.not_eq_true, Bool.not_eq_false'] at hcgroup
  -- each part of the sequence takes its own piece of the log
  rw [Calls.yields_bind_ok] at h
  obtain ⟨l₁, _, first, rfl, hfirst, h⟩ := h
  rw [Calls.yields_bind_ok] at h
  obtain ⟨l₂, _, _, rfl, hvalidated, h⟩ := h
  rw [Calls.yields_ask_bind] at h
  obtain ⟨boundary, _, rfl, h⟩ := h
  cases boundary with
  | error e => cases h.2
  | ok state =>
    dsimp only at h
    rw [Calls.yields_bind_ok] at h
    obtain ⟨l₃, _, _, rfl, houtside, h⟩ := h
    rw [Calls.yields_bind_ok] at h
    obtain ⟨l₄, _, second, rfl, hsecond, h⟩ := h
    rw [Calls.yields_bind_ok] at h
    obtain ⟨l₅, _, _, rfl, hconfirmed, rfl, hproof⟩ := h
    obtain ⟨lookups, hlength, hout, rfl⟩ := checkOutside_yields.mp houtside
    obtain ⟨worker, launcher, rfl⟩ := List.length_eq_two.mp hlength
    have hworker : Outside controlGroup worker := hout worker (by simp)
    have hlauncher : Outside controlGroup launcher := hout launcher (by simp)
    obtain ⟨resolution, rfl, hfound⟩ := resolve_yields.mp hfirst
    obtain ⟨resolution', rfl, hfound'⟩ := resolve_yields.mp hsecond
    refine ⟨hcgroup, Except.ok.inj hproof, ?_⟩
    rcases hfound with ⟨rfl, hgone⟩ | ⟨path, rfl, rfl⟩ <;>
      rcases hfound' with ⟨rfl, hgone'⟩ | ⟨path', rfl, rfl⟩
    · obtain ⟨rfl, -⟩ := hvalidated
      obtain ⟨rfl, -⟩ := hconfirmed
      exact .gone _ _ state _ _ hgone hworker hlauncher hgone'
    · cases hconfirmed.2
    · cases hconfirmed.2
    · rw [validateSecond] at hconfirmed
      split at hconfirmed
      · obtain ⟨rfl, before, hbefore, rfl⟩ := (validateTerminalUnit_yields hcgroup).mp hvalidated
        obtain ⟨rfl, after, hafter, rfl⟩ := (validateTerminalUnit_yields hcgroup).mp hconfirmed
        exact .rested before after state _ _ hbefore hworker hlauncher hafter
      · cases hconfirmed.2

/-- Whatever the provider and the host answer, and however often they change their minds, a proof
has passed every check in its order. -/
theorem empty_boundary_proved {host : Calls.Host ProofCall.Answer} {identity : PayloadScopeIdentity}
    {pinned : PinnedInvocationUnit} {controlGroup : String} {workerPid launcherPid : Nat}
    {leaderExit : LeaderExit} {proof : BoundaryEmptyProof} {log : List (Sigma ProofCall.Answer)}
    (h : (proveEmptyBoundary identity pinned controlGroup workerPid launcherPid leaderExit).run host [] =
      (.ok proof, log)) :
    controlGroup = expectedControlGroup identity ∧
      BoundaryObserved identity pinned controlGroup workerPid launcherPid log ∧
      proof = { unitName := identity.unitName, invocationId := identity.invocationId,
                controlGroup, leaderExit } := by
  obtain ⟨hcgroup, hproof, hobserved⟩ := proveEmptyBoundary_yields (Calls.yields_of_run h)
  refine ⟨?_, hobserved, hproof⟩
  simp only [validPayloadCgroup, Bool.and_eq_true, decide_eq_true_eq] at hcgroup
  exact hcgroup.1.1

def sampleScope : PayloadScopeIdentity where
  unitName := "niralis-payload-0a.scope"
  invocationId := "0123456789abcdef0123456789abcdef"
  expectedUid := 1000
  logindSessionId := "4"

def samplePin : PinnedInvocationUnit where
  objectPath := "/unit/a"
  referenceHeld := true

/-- The unit has come to rest and its control group is gone. -/
def restedProvider : Calls.Host ProofCall.Answer := fun _ call =>
  match call with
  | .resolveByInvocation _ => .ok "/unit/a"
  | .readProperties _ invocationId objectPath unitName =>
    .ok { objectPath, id := unitName, invocationId, controlGroup := "", slice := "user-1000.slice"
          transient := true, activeState := "inactive", subState := "dead" }
  | .readBoundaryState _ _ _ => .ok .absent
  | .pidCgroup _ => .ok "/system.slice/niralisd.service"

theorem rested_boundary_proved :
    "/user.slice/user-1000.slice/niralis-payload-0a.scope" = expectedControlGroup sampleScope ∧
      ∃ log, BoundaryObserved sampleScope samplePin
        "/user.slice/user-1000.slice/niralis-payload-0a.scope" 41 42 log ∧ log.length = 7 := by
  have hrun : ((proveEmptyBoundary sampleScope samplePin
      "/user.slice/user-1000.slice/niralis-payload-0a.scope" 41 42 .exitedZero).run restedProvider []).1 =
        .ok (.new sampleScope "/user.slice/user-1000.slice/niralis-payload-0a.scope" .exitedZero) := rfl
  have hproved := empty_boundary_proved (Prod.ext hrun rfl)
  exact ⟨hproved.1, _, hproved.2.1, rfl⟩

end Niralis
