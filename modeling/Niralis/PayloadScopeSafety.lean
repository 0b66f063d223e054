import Niralis.PayloadScope

namespace Niralis.PayloadScope
open Calls

/-- A successful call that gives a reference to a unit back. -/
def isRelease : Sigma ScopeCall.Answer → Bool
  | ⟨.unrefPinnedUnit _ _, .ok _⟩ => true
  | ⟨.unref _, released⟩ => released
  | _ => false

def Unreleased (log : ScopeLog) : Prop := ∀ x ∈ log, isRelease x = false

/-- The lookup of a process that is neither in the control group nor below it. -/
structure Apart (controlGroup : String) (members : List Nat) (pid : Nat) (path : String) : Prop where
  ne : path ≠ controlGroup
  notBelow : isAncestor controlGroup path = false
  notMember : pid ∉ members

/-- The properties of a unit that is still the one that was pinned. -/
structure PinnedUnit (scope : SystemdPayloadScope) (properties : InvocationUnitProperties) : Prop where
  held : scope.pinnedUnit.referenceHeld = true
  objectPath : properties.objectPath = scope.pinnedUnit.objectPath
  invocationId : properties.invocationId = scope.identity.invocationId
  id : properties.id = scope.identity.unitName
  slice : properties.slice = sliceName scope.identity.expectedUid
  transient : properties.transient = true
  controlGroup : properties.controlGroup = scope.controlGroup
  validGroup :
    validPayloadCgroup scope.controlGroup scope.identity.expectedUid scope.identity.unitName = true

/-- The unit of the invocation at rest, its control group gone. -/
structure Disappeared (scope : SystemdPayloadScope) (properties : InvocationUnitProperties) :
    Prop where
  objectPath : properties.objectPath = scope.pinnedUnit.objectPath
  invocationId : properties.invocationId = scope.identity.invocationId
  id : properties.id = scope.identity.unitName
  slice : properties.slice = sliceName scope.identity.expectedUid
  transient : properties.transient = true
  controlGroup : properties.controlGroup = "" ∨ properties.controlGroup = scope.controlGroup
  terminal : terminalUnitState properties.activeState properties.subState = true

section Evidence
variable (scope : SystemdPayloadScope)

/-- The worker and the launcher are seen outside of the control group. -/
inductive OutsideSeen : ScopeLog → Prop
  | intro {members : List Nat} {worker launcher : String}
      (hworker : Apart scope.controlGroup members scope.workerPid worker)
      (hlauncher : Apart scope.controlGroup members scope.launcherPid launcher) :
    OutsideSeen
      [⟨.readMembers scope.controlGroup, .ok members⟩, ⟨.proof (.pidCgroup scope.workerPid), .ok worker⟩,
        ⟨.proof (.pidCgroup scope.launcherPid), .ok launcher⟩]

/-- The invocation, resolved to the pinned unit, and the unit's properties. -/
def unitSeen (operation : InvocationOperation) (properties : InvocationUnitProperties) : ScopeLog :=
  [⟨.proof (.resolveByInvocation scope.identity.invocationId), .ok scope.pinnedUnit.objectPath⟩,
    ⟨.proof (.readProperties operation scope.identity.invocationId scope.pinnedUnit.objectPath
      scope.identity.unitName), .ok properties⟩]

inductive Cleared : Signal → ScopeLog → Prop
  | term (earlier outside : ScopeLog) (properties : InvocationUnitProperties)
      (houtside : OutsideSeen scope outside) (hunit : PinnedUnit scope properties)
      (hactive : properties.activeState = "active") (hrunning : properties.subState = "running") :
    Cleared .term (earlier ++ (outside ++ unitSeen scope .readPropertiesAfterRef properties))
  | kill (earlier outside : ScopeLog) (first properties : InvocationUnitProperties)
      (houtside : OutsideSeen scope outside) (hfirst : PinnedUnit scope first)
      (hunit : PinnedUnit scope properties) :
    Cleared .kill (earlier ++ (outside ++ (unitSeen scope .readPropertiesAfterRef first ++
      unitSeen scope .readPropertiesAfterRef properties)))

/-- The boundary is there and empty, and the pinned unit still has the invocation. -/
def abandonedSeen (invocation : List UInt8) : ScopeLog :=
  [⟨.proof (.readBoundaryState scope.identity.invocationId scope.pinnedUnit.objectPath
      scope.controlGroup), .ok .presentEmpty⟩,
    ⟨.unitProxy scope.pinnedUnit.objectPath, true⟩,
    ⟨.property scope.pinnedUnit.objectPath .invocationId, some invocation⟩,
    ⟨.readMembers scope.controlGroup, .ok []⟩, ⟨.managerProxy, true⟩]

def stopDone (unitName job : String) (id : Nat) : ScopeLog :=
  [⟨.receiveJobs unitName, true⟩, ⟨.stopUnit unitName, some job⟩, ⟨.timeLeft, true⟩,
    ⟨.nextJob, .removed id job "done"⟩]

inductive StopCleared : ScopeLog → Prop
  | intro (earlier : ScopeLog) (invocation : List UInt8)
      (hinvocation : hexId invocation = some scope.identity.invocationId) :
    StopCleared (earlier ++ (abandonedSeen scope invocation ++
      [⟨.receiveJobs scope.identity.unitName, true⟩]))

inductive Stopped : ScopeLog → Prop
  | intro (earlier : ScopeLog) (invocation : List UInt8) (job : String) (id : Nat)
      (hinvocation : hexId invocation = some scope.identity.invocationId) (hid : id ≠ 0) :
    Stopped (earlier ++ (abandonedSeen scope invocation ++ stopDone scope.identity.unitName job id))

inductive Gone : ScopeLog → Prop
  | intro (earlier : ScopeLog) (properties : InvocationUnitProperties)
      (hheld : scope.pinnedUnit.referenceHeld = true) (hunit : Disappeared scope properties) :
    Gone (earlier ++ (⟨.proof (.readBoundaryState scope.identity.invocationId
        scope.pinnedUnit.objectPath scope.controlGroup), .ok .absent⟩ ::
      (unitSeen scope .readPropertiesDuringCleanup properties ++
        unitSeen scope .readPropertiesDuringCleanup properties)))

/-- When a call that changes the unit is made. Each is about the scope's own unit, and no other unit is
created or referenced. -/
def Justified (before : ScopeLog) (x : Sigma ScopeCall.Answer) : Prop :=
  match x.1 with
  | .killPinnedUnit invocationId objectPath signal =>
    invocationId = scope.identity.invocationId ∧ objectPath = scope.pinnedUnit.objectPath ∧
      Unreleased before ∧ Cleared scope signal before
  | .stopUnit unitName => unitName = scope.identity.unitName ∧ StopCleared scope before
  | .unrefPinnedUnit invocationId objectPath =>
    invocationId = scope.identity.invocationId ∧ objectPath = scope.pinnedUnit.objectPath ∧
      Unreleased before
  | .unref objectPath => objectPath = scope.pinnedUnit.objectPath ∧ Stopped scope before
  | .startTransientUnit _ _ _ | .refPinnedUnit _ _ => False
  | _ => True

/-- The end of a cleanup that succeeded and has given the reference back. -/
inductive CleanedUp : ScopeLog → Prop
  | gone {before : ScopeLog} (hgone : Gone scope before) :
    CleanedUp (before ++ [⟨.unrefPinnedUnit scope.identity.invocationId scope.pinnedUnit.objectPath,
      .ok ()⟩])
  | stopped {before : ScopeLog} (hstopped : Stopped scope before) :
    CleanedUp (before ++ [⟨.unref scope.pinnedUnit.objectPath, true⟩])

end Evidence

/-- What is called adds to the log and gives no reference back; where it succeeds, `good` holds of the
result and of the calls added. -/
abbrev Performs (scope : SystemdPayloadScope) {α : Type} (p : Scoping α) (log : ScopeLog)
    (good : α → ScopeLog → Prop) : Prop :=
  p.Adds (Justified scope) (fun x => isRelease x = false) log good

theorem unreleased_append {log more : ScopeLog} :
    Unreleased (log ++ more) ↔ Unreleased log ∧ Unreleased more := List.forall_mem_append

theorem unreleased_cons {x : Sigma ScopeCall.Answer} {log : ScopeLog} :
    Unreleased (x :: log) ↔ isRelease x = false ∧ Unreleased log := List.forall_mem_cons

theorem unreleased_nil : Unreleased [] := List.forall_mem_nil _

/-- The calls that only read, or that only the answer changes something. -/
def isReading : ScopeCall → Bool
  | .startTransientUnit _ _ _ | .stopUnit _ | .refPinnedUnit _ _ | .unrefPinnedUnit _ _ | .unref _
  | .killPinnedUnit _ _ _ => false
  | _ => true

section Readings
variable {P : ScopeLog → Sigma ScopeCall.Answer → Prop} {quiet : Sigma ScopeCall.Answer → Prop}
  {log : ScopeLog}

def Reads (P : ScopeLog → Sigma ScopeCall.Answer → Prop) (quiet : Sigma ScopeCall.Answer → Prop) :
    Prop :=
  ∀ log x, isReading x.1 = true → P log x ∧ quiet x

theorem adds_remaining (hreads : Reads P quiet) :
    remaining.Adds P quiet log fun _ more => more = [⟨.timeLeft, true⟩] := by
  refine adds_ask (fun x => hreads _ _ rfl) fun left => adds_ensure ?_
  intro hleft
  rw [hleft]

theorem adds_waitJob (hreads : Reads P quiet) {job : String} :
    (waitJob job).Adds P quiet log fun _ more => ∃ id, id ≠ 0 ∧
      more = [⟨.timeLeft, true⟩, ⟨.nextJob, .removed id job "done"⟩] := by
  apply (adds_remaining hreads).bind
  rintro _ _ - rfl
  refine adds_ask (fun x => hreads _ _ rfl) fun next => ?_
  cases next with
  | timer => exact adds_fail
  | malformed => exact adds_fail
  | removed id path result =>
    dsimp only
    split
    · exact adds_fail
    · rename_i hjob
      simp only [not_or, Decidable.not_not] at hjob
      obtain ⟨hid, rfl, rfl⟩ := hjob
      exact adds_pure ⟨id, hid, rfl⟩

theorem adds_readMembers (hreads : Reads P quiet) {controlGroup : String} :
    (readMembers controlGroup).Adds P quiet log fun members more =>
      more = [⟨.readMembers controlGroup, .ok members⟩] := by
  refine adds_ask (fun x => hreads _ _ rfl) fun members => adds_orFail ?_
  intro pids hpids
  rw [hpids]

theorem adds_confirmOutside (hreads : Reads P quiet) {controlGroup : String} {members pids : List Nat} :
    (confirmOutside controlGroup members pids).Adds P quiet log fun _ more =>
      ∃ paths : List String, List.Forall₂ (Apart controlGroup members) pids paths ∧
        more = (pids.zip paths).map fun entry => ⟨.proof (.pidCgroup entry.1), .ok entry.2⟩ := by
  induction pids generalizing log with
  | nil => exact adds_pure ⟨[], .nil, rfl⟩
  | cons pid pids ih =>
    refine adds_ask (fun x => hreads _ _ rfl) fun lookup => adds_orFail_bind ?_
    intro path hpath
    apply adds_ensure_bind
    intro houtside
    simp only [Bool.not_eq_true', Bool.or_eq_false_iff, decide_eq_false_iff_not, List.contains_eq_mem]
      at houtside
    apply ih.mono
    rintro _ _ ⟨paths, hpaths, rfl⟩
    refine ⟨path :: paths, .cons ⟨houtside.1.1, houtside.1.2, houtside.2⟩ hpaths, ?_⟩
    rw [hpath]
    rfl

end Readings

theorem reads_justified {scope : SystemdPayloadScope} :
    Reads (Justified scope) fun x => isRelease x = false := by
  rintro log ⟨q, answer⟩ hreading
  cases q with
  | startTransientUnit _ _ _ | stopUnit _ | refPinnedUnit _ _ | unrefPinnedUnit _ _ | unref _
  | killPinnedUnit _ _ _ => cases hreading
  | _ => exact ⟨trivial, rfl⟩

section Checks
variable {scope : SystemdPayloadScope} {log : ScopeLog}

theorem adds_resolve {mapped : InvocationBackendError → PayloadScopeError} :
    Performs scope (scope.resolve mapped) log fun path more =>
      more = [⟨.proof (.resolveByInvocation scope.identity.invocationId), .ok path⟩] := by
  refine adds_ask (fun _ => reads_justified _ _ rfl) fun resolution => adds_orFail ?_
  intro path hpath
  rw [hpath]

theorem adds_readProperties {operation : InvocationOperation}
    {mapped : InvocationBackendError → PayloadScopeError} :
    Performs scope (scope.readProperties operation mapped) log fun properties more =>
      more = [⟨.proof (.readProperties operation scope.identity.invocationId
        scope.pinnedUnit.objectPath scope.identity.unitName), .ok properties⟩] := by
  refine adds_ask (fun _ => reads_justified _ _ rfl) fun reading => adds_orFail ?_
  intro properties hproperties
  rw [hproperties]

/-- A reading of the pinned unit, after its invocation has been resolved to it. -/
theorem adds_unitSeen {operation : InvocationOperation} {e : PayloadScopeError}
    {mapped mapped' : InvocationBackendError → PayloadScopeError} {α : Type}
    {f : InvocationUnitProperties → Scoping α} {good : α → ScopeLog → Prop}
    (h : ∀ properties, Performs scope (f properties) (log ++ unitSeen scope operation properties)
      fun a rest => good a (unitSeen scope operation properties ++ rest)) :
    Performs scope (do
      let resolved ← scope.resolve mapped
      ensure e (resolved = scope.pinnedUnit.objectPath)
      let properties ← scope.readProperties operation mapped'
      f properties) log good := by
  apply adds_resolve.bind
  rintro resolved _ - rfl
  apply adds_ensure_bind
  intro hresolved
  rw [decide_eq_true_eq] at hresolved
  subst hresolved
  apply adds_readProperties.bind
  rintro properties _ - rfl
  rw [List.append_assoc]
  exact h properties

theorem pinnedUnit_of_validate {properties : InvocationUnitProperties}
    (h : validatePinnedProperties scope.identity scope.pinnedUnit scope.controlGroup properties =
      .ok ()) : PinnedUnit scope properties := by
  unfold validatePinnedProperties validatePinnedPropertiesWithControlGroup at h
  dsimp only at h
  split_ifs at h with hpinned hinvocation hrest
  simp only [Bool.or_eq_true, Bool.not_eq_true', decide_eq_true_eq, not_or, Decidable.not_not,
    Bool.not_eq_false, decide_false, Bool.false_and, Bool.or_false]
    at hpinned hinvocation hrest
  obtain ⟨⟨⟨⟨hid, hgroup⟩, hslice⟩, htransient⟩, hvalid⟩ := hrest
  exact ⟨hpinned.1, hpinned.2, hinvocation, hid, hslice, htransient, hgroup, hvalid⟩

theorem disappeared_of_validate {properties : InvocationUnitProperties}
    (h : validateDisappearedBoundaryProperties scope.identity scope.pinnedUnit scope.controlGroup
      properties = .ok ()) : Disappeared scope properties := by
  unfold validateDisappearedBoundaryProperties at h
  split_ifs at h with hrest
  simp only [not_or, Decidable.not_not, Bool.not_eq_true', Bool.not_eq_false, not_and] at hrest
  obtain ⟨hpath, hinvocation, hid, hslice, htransient, hgroup, hterminal⟩ := hrest
  exact ⟨hpath, hinvocation, hid, hslice, htransient, or_iff_not_imp_left.mpr hgroup, hterminal⟩

theorem adds_validateForcedInvocationEligibility :
    Performs scope scope.validateForcedInvocationEligibility log fun properties more =>
      more = unitSeen scope .readPropertiesAfterRef properties ∧ PinnedUnit scope properties := by
  apply adds_unitSeen
  intro properties
  apply adds_orFail_bind
  intro _ hvalid
  exact adds_pure ⟨List.append_nil _, pinnedUnit_of_validate hvalid⟩

theorem adds_confirmWorkerOutside :
    Performs scope scope.confirmWorkerOutside log fun _ more => OutsideSeen scope more := by
  apply (adds_readMembers reads_justified).bind
  rintro members _ - rfl
  apply (adds_confirmOutside reads_justified).mono
  rintro _ _ ⟨paths, hpaths, rfl⟩
  cases hpaths with
  | cons hworker hpaths =>
    cases hpaths with
    | cons hlauncher hpaths =>
      cases hpaths
      exact .intro hworker hlauncher

end Checks

section Operations
variable {scope : SystemdPayloadScope} {log : ScopeLog}

theorem adds_killPinnedUnit {signal : Signal} (hlog : Unreleased log)
    (hclear : Cleared scope signal log) :
    Performs scope (scope.killPinnedUnit signal) log fun _ _ => True :=
  adds_ask (fun _ => ⟨⟨rfl, rfl, hlog, hclear⟩, rfl⟩) fun _ => adds_orFail fun _ _ => trivial

theorem adds_requestGracefulTermination
    (hkeep : scope.pinnedUnit.referenceHeld = true → Unreleased log) :
    Performs scope scope.requestGracefulTermination log fun _ _ => True := by
  apply adds_confirmWorkerOutside.bind
  intro _ outside houtside hseen
  apply adds_ensure_bind
  intro hheld
  apply adds_validateForcedInvocationEligibility.bind
  rintro properties _ hmore ⟨rfl, hunit⟩
  apply adds_ensure_bind
  intro hrunning
  rw [Bool.and_eq_true, decide_eq_true_eq, decide_eq_true_eq] at hrunning
  rw [List.append_assoc]
  have hlog : Unreleased (log ++ (outside ++ unitSeen scope .readPropertiesAfterRef properties)) :=
    unreleased_append.mpr ⟨hkeep hheld, unreleased_append.mpr ⟨houtside, hmore⟩⟩
  apply (adds_killPinnedUnit hlog (.term log outside properties hseen hunit hrunning.1 hrunning.2)).bind
  intro _ _ _ _
  apply adds_readProperties.bind
  intro after _ _ _
  exact adds_orFail fun _ _ => trivial

theorem adds_validateForcedTerminationEligibility :
    Performs scope scope.validateForcedTerminationEligibility log fun _ more =>
      ∃ outside properties, more = outside ++ unitSeen scope .readPropertiesAfterRef properties ∧
        OutsideSeen scope outside ∧ PinnedUnit scope properties := by
  apply adds_ensure_bind
  intro _
  apply adds_confirmWorkerOutside.bind
  intro _ outside _ hseen
  apply adds_validateForcedInvocationEligibility.bind
  rintro properties _ - ⟨rfl, hunit⟩
  apply adds_pure
  rw [List.append_nil]
  exact ⟨outside, properties, rfl, hseen, hunit⟩

theorem adds_requestForcedTermination
    (hkeep : scope.pinnedUnit.referenceHeld = true → Unreleased log) :
    Performs scope scope.requestForcedTermination log fun _ _ => True := by
  apply adds_validateForcedTerminationEligibility.bind
  rintro _ _ hmore ⟨outside, first, rfl, hseen, hfirst⟩
  apply adds_validateForcedInvocationEligibility.bind
  rintro properties _ hrest ⟨rfl, hunit⟩
  have hlog := unreleased_append.mpr ⟨unreleased_append.mpr ⟨hkeep hunit.held, hmore⟩, hrest⟩
  apply adds_killPinnedUnit hlog
  rw [List.append_assoc, List.append_assoc]
  exact .kill log outside first properties hseen hfirst hunit

theorem adds_validateForcedTerminationPostKill :
    Performs scope scope.validateForcedTerminationPostKill log fun _ _ => True := by
  refine adds_ask (fun _ => reads_justified _ _ rfl) fun resolution => ?_
  split
  · exact adds_pure trivial
  · exact adds_pure trivial
  · exact adds_fail
  · split
    · refine adds_ask (fun _ => reads_justified _ _ rfl) fun reading => ?_
      split
      · exact adds_pure trivial
      · exact adds_pure trivial
      · exact adds_fail
      · exact adds_orFail fun _ _ => trivial
    · exact adds_fail

theorem adds_boundaryAppearsTerminal :
    Performs scope scope.boundaryAppearsTerminal log fun _ _ => True := by
  apply adds_unitSeen
  intro properties
  exact adds_orFail_bind fun _ _ => adds_pure trivial

theorem adds_createBoundaryObserver :
    Performs scope scope.createBoundaryObserver log fun _ _ => True :=
  adds_ask (fun _ => reads_justified _ _ rfl) fun _ => adds_orFail fun _ _ => trivial

theorem adds_proveEmptyBoundary {leaderExit : LeaderExit} :
    Performs scope (scope.proveEmptyBoundary leaderExit) log fun _ _ => True := by
  have hcalls : (scope.proveEmptyBoundary leaderExit).Sat (Justified scope) log
      fun _ log' => ∃ more, log' = log ++ more ∧ Unreleased more := by
    apply sat_embed
    · rintro _ q x ⟨more, rfl, hmore⟩
      refine ⟨trivial, more ++ [⟨.proof q, x⟩], List.append_assoc _ _ _, ?_⟩
      exact unreleased_append.mpr ⟨hmore, unreleased_cons.mpr ⟨rfl, unreleased_nil⟩⟩
    · exact ⟨[], (List.append_nil log).symm, unreleased_nil⟩
  apply hcalls.mono
  rintro _ _ ⟨more, rfl, hmore⟩
  exact ⟨more, rfl, hmore, fun _ _ => trivial⟩

theorem adds_readDisappeared :
    Performs scope (scope.readDisappeared scope.pinnedUnit.objectPath) log fun properties more =>
      more = unitSeen scope .readPropertiesDuringCleanup properties ∧ Disappeared scope properties := by
  apply adds_unitSeen
  intro properties
  apply adds_orFail_bind
  intro _ hvalid
  exact adds_pure ⟨List.append_nil _, disappeared_of_validate hvalid⟩

theorem adds_provePrecommitDisappearance :
    Performs scope scope.provePrecommitDisappearance log fun _ more =>
      scope.pinnedUnit.referenceHeld = true ∧ ∃ properties, Disappeared scope properties ∧
        more = unitSeen scope .readPropertiesDuringCleanup properties ++
          unitSeen scope .readPropertiesDuringCleanup properties := by
  apply adds_ensure_bind
  intro hheld
  apply adds_readDisappeared.bind
  rintro first _ - ⟨rfl, hfirst⟩
  apply adds_readDisappeared.bind
  rintro second _ - ⟨rfl, -⟩
  apply adds_ensure
  intro hsame
  rw [decide_eq_true_eq] at hsame
  subst hsame
  exact ⟨hheld, first, hfirst, by rw [List.append_nil]⟩

theorem adds_stopCreatedUnit (hclear : StopCleared scope
      (log ++ [⟨.receiveJobs scope.identity.unitName, true⟩])) :
    Performs scope (stopCreatedUnit scope.identity.unitName) log fun _ more =>
      ∃ job id, id ≠ 0 ∧ more = stopDone scope.identity.unitName job id := by
  refine adds_ask (fun _ => reads_justified _ _ rfl) fun subscribed => adds_ensure_bind ?_
  intro hsubscribed
  change subscribed = true at hsubscribed
  subst hsubscribed
  refine adds_ask (fun _ => ⟨⟨rfl, hclear⟩, rfl⟩) fun stop => adds_require_bind ?_
  intro job hjob
  change stop = some job at hjob
  subst hjob
  apply (adds_waitJob reads_justified).handle_orFail.mono
  rintro _ _ ⟨id, hid, rfl⟩
  exact ⟨job, id, hid, rfl⟩

theorem adds_confirmAbandoned :
    Performs scope scope.confirmAbandoned log fun _ more =>
      ∃ invocation, hexId invocation = some scope.identity.invocationId ∧
        ⟨.proof (.readBoundaryState scope.identity.invocationId scope.pinnedUnit.objectPath
          scope.controlGroup), .ok .presentEmpty⟩ :: more = abandonedSeen scope invocation := by
  refine adds_ask (fun _ => reads_justified _ _ rfl) fun unitProxy => adds_ensure_bind ?_
  intro hunit
  change unitProxy = true at hunit
  subst hunit
  refine adds_ask (fun _ => reads_justified _ _ rfl) fun value => adds_require_bind ?_
  intro invocation hvalue
  change value = some invocation at hvalue
  subst hvalue
  apply adds_ensure_bind
  intro hinvocation
  rw [decide_eq_true_eq] at hinvocation
  refine adds_ask (fun _ => reads_justified _ _ rfl) fun members => adds_orFail_bind ?_
  intro pids hmembers
  change members = .ok pids at hmembers
  subst hmembers
  apply adds_ensure_bind
  intro hempty
  rw [List.isEmpty_iff] at hempty
  subst hempty
  refine adds_ask (fun _ => reads_justified _ _ rfl) fun manager => adds_ensure ?_
  intro hmanager
  change manager = true at hmanager
  subst hmanager
  exact ⟨invocation, hinvocation, rfl⟩

theorem Gone.held (h : Gone scope log) : scope.pinnedUnit.referenceHeld = true := by
  cases h with
  | intro _ _ hheld _ => exact hheld

theorem sat_cleanupUnit {releasePin : Bool} {post : Except PayloadScopeError Unit → ScopeLog → Prop}
    (hgone : ∀ more, Unreleased more → Gone scope (log ++ more) →
      (if releasePin then scope.unrefPinnedUnit .cleanupFailed else pure ()).Sat (Justified scope)
        (log ++ more) post)
    (hstopped : ∀ more, Unreleased more → Stopped scope (log ++ more) →
      (if releasePin then do
          let released : Bool ← ask (ScopeCall.unref scope.pinnedUnit.objectPath)
          ensure .cleanupFailed released
        else pure () : Scoping Unit).Sat (Justified scope) (log ++ more) post)
    (herror : ∀ e more, Unreleased more → post (.error e) (log ++ more)) :
    (scope.cleanupUnit releasePin).Sat (Justified scope) log post := by
  rw [SystemdPayloadScope.cleanupUnit, sat_ask_bind]
  intro boundary
  refine ⟨trivial, ?_⟩
  have hfirst : ∀ x : Except InvocationBackendError CgroupEmptyState,
      Unreleased [⟨.proof (.readBoundaryState scope.identity.invocationId scope.pinnedUnit.objectPath
        scope.controlGroup), x⟩] := fun _ => unreleased_cons.mpr ⟨rfl, unreleased_nil⟩
  cases boundary with
  | error e => exact herror .cleanupFailed _ (hfirst _)
  | ok state =>
    cases state with
    -- it is gone: its disappearance is proved, and nothing is stopped
    | absent =>
      refine Sat.bind adds_provePrecommitDisappearance ?_ ?_
      · rintro ⟨⟩ _ ⟨more, rfl, hmore, hproved⟩
        obtain ⟨hheld, properties, hunit, rfl⟩ := hproved () rfl
        rw [List.append_assoc]
        exact hgone _ (unreleased_append.mpr ⟨hfirst _, hmore⟩) (.intro log properties hheld hunit)
      · rintro e _ ⟨more, rfl, hmore, -⟩
        rw [List.append_assoc]
        exact herror e _ (unreleased_append.mpr ⟨hfirst _, hmore⟩)
    -- it is still there: it is confirmed to be abandoned, and stopped then
    | presentEmpty =>
      refine Sat.bind adds_confirmAbandoned ?_ ?_
      · rintro ⟨⟩ _ ⟨more, rfl, hmore, hproved⟩
        obtain ⟨invocation, hinvocation, hseen⟩ := hproved () rfl
        rw [List.append_assoc, List.singleton_append, hseen]
        have hrelease : Unreleased (abandonedSeen scope invocation) := by
          rw [← hseen]
          exact unreleased_cons.mpr ⟨rfl, hmore⟩
        have hclear : StopCleared scope (log ++ abandonedSeen scope invocation ++
            [⟨.receiveJobs scope.identity.unitName, true⟩]) := by
          rw [List.append_assoc]
          exact .intro log invocation hinvocation
        refine Sat.bind (adds_stopCreatedUnit hclear) ?_ ?_
        · rintro ⟨⟩ _ ⟨rest, rfl, hrest, hdone⟩
          obtain ⟨job, id, hid, rfl⟩ := hdone () rfl
          rw [List.append_assoc]
          exact hstopped _ (unreleased_append.mpr ⟨hrelease, hrest⟩)
            (.intro log invocation job id hinvocation hid)
        · rintro e _ ⟨rest, rfl, hrest, -⟩
          rw [List.append_assoc]
          exact herror e _ (unreleased_append.mpr ⟨hrelease, hrest⟩)
      · rintro e _ ⟨more, rfl, hmore, -⟩
        rw [List.append_assoc]
        exact herror e _ (unreleased_append.mpr ⟨hfirst _, hmore⟩)

theorem adds_cleanupPreservingPin : Performs scope (scope.cleanupUnit false) log fun _ more =>
    Gone scope (log ++ more) ∨ Stopped scope (log ++ more) := by
  apply sat_cleanupUnit
  · intro more hmore hgone
    exact ⟨more, rfl, hmore, fun _ _ => Or.inl hgone⟩
  · intro more hmore hstopped
    exact ⟨more, rfl, hmore, fun _ _ => Or.inr hstopped⟩
  · intro e more hmore
    exact ⟨more, rfl, hmore, fun _ hok => (by cases hok)⟩

theorem sat_cleanup (hkeep : scope.pinnedUnit.referenceHeld = true → Unreleased log) :
    (scope.cleanupUnit true).Sat (Justified scope) log fun r log' =>
      r = .ok () → CleanedUp scope log' := by
  apply sat_cleanupUnit
  · intro more hmore hgone released
    refine ⟨⟨rfl, rfl, unreleased_append.mpr ⟨hkeep hgone.held, hmore⟩⟩, ?_⟩
    cases released with
    | ok _ => exact fun _ => .gone hgone
    | error e => exact fun h => (by cases h)
  · intro more _ hstopped released
    refine ⟨⟨rfl, hstopped⟩, ?_⟩
    cases released with
    | true => exact fun _ => .stopped hstopped
    | false => exact fun h => (by cases h)
  · intro e _ _ h
    cases h

def SystemdPayloadScope.released (scope : SystemdPayloadScope) : SystemdPayloadScope :=
  { scope with pinnedUnit := { scope.pinnedUnit with referenceHeld := false } }

/-- A scope as long as it holds its reference, and what comes of it. -/
structure Keeps (scope : SystemdPayloadScope) (log : ScopeLog) (scope' : SystemdPayloadScope) :
    Prop where
  same : scope' = scope ∨ scope' = scope.released
  unreleased : scope'.pinnedUnit.referenceHeld = true → Unreleased log

theorem Keeps.added (hkeep : scope.pinnedUnit.referenceHeld = true → Unreleased log)
    {more : ScopeLog} (hmore : Unreleased more) : Keeps scope (log ++ more) scope :=
  ⟨Or.inl rfl, fun hheld => unreleased_append.mpr ⟨hkeep hheld, hmore⟩⟩

theorem sat_of_adds {α : Type} {p : Scoping α}
    (hkeep : scope.pinnedUnit.referenceHeld = true → Unreleased log)
    (h : Performs scope p log fun _ _ => True) :
    (p >>= fun _ => pure scope).Sat (Justified scope) log fun r log' =>
      Keeps scope log' (r.toOption.getD scope) := by
  refine Sat.bind h ?_ ?_
  · rintro a _ ⟨more, rfl, hmore, -⟩
    exact .added hkeep hmore
  · rintro e _ ⟨more, rfl, hmore, -⟩
    exact .added hkeep hmore

theorem sat_releasePin (hkeep : scope.pinnedUnit.referenceHeld = true → Unreleased log) :
    scope.releasePin.Sat (Justified scope) log fun r log' =>
      Keeps scope log' (r.toOption.getD scope) := by
  unfold SystemdPayloadScope.releasePin
  split
  · exact ⟨Or.inl rfl, hkeep⟩
  · rename_i hheld
    rw [Bool.not_eq_true, Bool.not_eq_false'] at hheld
    intro released
    refine ⟨⟨rfl, rfl, hkeep hheld⟩, ?_⟩
    cases released with
    | ok _ => exact ⟨Or.inr rfl, fun h => (by cases h)⟩
    | error e => exact .added hkeep (unreleased_cons.mpr ⟨rfl, unreleased_nil⟩)

theorem sat_perform (hkeep : scope.pinnedUnit.referenceHeld = true → Unreleased log)
    (operation : ScopeOperation) :
    (scope.perform operation).Sat (Justified scope) log fun r log' =>
      Keeps scope log' (r.toOption.getD scope) := by
  cases operation with
  | requestGracefulTermination => exact sat_of_adds hkeep (adds_requestGracefulTermination hkeep)
  | validateForcedTerminationEligibility =>
    exact sat_of_adds hkeep (adds_validateForcedTerminationEligibility.mono fun _ _ _ => trivial)
  | requestForcedTermination => exact sat_of_adds hkeep (adds_requestForcedTermination hkeep)
  | validateForcedTerminationPostKill => exact sat_of_adds hkeep adds_validateForcedTerminationPostKill
  | boundaryAppearsTerminal => exact sat_of_adds hkeep adds_boundaryAppearsTerminal
  | createBoundaryObserver => exact sat_of_adds hkeep adds_createBoundaryObserver
  | proveEmptyBoundary leaderExit => exact sat_of_adds hkeep adds_proveEmptyBoundary
  | cleanupPreservingPin => exact sat_of_adds hkeep (adds_cleanupPreservingPin.mono fun _ _ _ => trivial)
  | releasePin => exact sat_releasePin hkeep

theorem justified_of_released {before : ScopeLog} {x : Sigma ScopeCall.Answer}
    (h : Justified scope.released before x) : Justified scope before x := by
  obtain ⟨q, answer⟩ := x
  cases q with
  | killPinnedUnit invocationId objectPath signal =>
    obtain ⟨-, -, -, hclear⟩ := h
    cases hclear with
    | term _ _ _ _ hunit _ _ => cases hunit.held
    | kill _ _ _ _ _ _ hunit => cases hunit.held
  | stopUnit unitName =>
    obtain ⟨hunit, hclear⟩ := h
    cases hclear with
    | intro earlier invocation hinvocation => exact ⟨hunit, .intro earlier invocation hinvocation⟩
  | unref objectPath =>
    obtain ⟨hpath, hstopped⟩ := h
    cases hstopped with
    | intro earlier invocation job id hinvocation hid =>
      exact ⟨hpath, .intro earlier invocation job id hinvocation hid⟩
  | _ => exact h

theorem cleanedUp_of_released (h : CleanedUp scope.released log) : CleanedUp scope log := by
  cases h with
  | gone hgone =>
    cases hgone with
    | intro _ _ hheld _ => cases hheld
  | stopped hstopped =>
    cases hstopped with
    | intro earlier invocation job id hinvocation hid =>
      exact .stopped (.intro earlier invocation job id hinvocation hid)

theorem sat_use (hkeep : scope.pinnedUnit.referenceHeld = true → Unreleased log)
    (operations : List ScopeOperation) :
    (scope.use operations).Sat (Justified scope) log fun r log' =>
      ∃ scope', r = .ok scope' ∧ Keeps scope log' scope' := by
  induction operations generalizing scope log with
  | nil => exact ⟨scope, rfl, Or.inl rfl, hkeep⟩
  | cons operation operations ih =>
    refine sat_handle.mpr ((sat_perform hkeep operation).mono ?_)
    rintro r log' ⟨hsame, hkeep'⟩
    cases r with
    | error e => exact ih hkeep'
    | ok scope' =>
      change scope' = scope ∨ scope' = scope.released at hsame
      change scope'.pinnedUnit.referenceHeld = true → Unreleased log' at hkeep'
      rcases hsame with rfl | rfl
      · exact ih hkeep'
      · refine ((ih hkeep').imp fun _ _ => justified_of_released).mono ?_
        rintro r _ ⟨scope', rfl, hsame, hkeep''⟩
        exact ⟨scope', rfl, Or.inr (hsame.elim id id), hkeep''⟩

/-- Whatever is asked of a scope, in any order and with any answers: it signals, stops and gives back only
its own unit; a signal follows readings in which the invocation is still the pinned unit's and the worker
and the launcher are outside, and none follows a release; a cleanup that succeeds has seen the boundary
gone or has stopped the unit it found empty, also where it leaves the reference alone. -/
theorem scope_life_justified (scope : SystemdPayloadScope) (operations : List ScopeOperation)
    (host : Host ScopeCall.Answer) :
    Throughout (Justified scope) ((scope.live operations).run host []).2 ∧
      (((scope.live operations).run host []).1 = .ok () →
        CleanedUp scope ((scope.live operations).run host []).2) ∧
      ∀ log, ((scope.perform .cleanupPreservingPin).run host log).1.isOk = true →
        Gone scope ((scope.perform .cleanupPreservingPin).run host log).2 ∨
          Stopped scope ((scope.perform .cleanupPreservingPin).run host log).2 := by
  have hlive : (scope.live operations).Sat (Justified scope) [] fun r log =>
      r = .ok () → CleanedUp scope log := by
    refine (sat_use (fun _ => unreleased_nil) operations).bind ?_ ?_
    · rintro scope' log ⟨_, hscope, hsame, hkeep⟩
      cases hscope
      rcases hsame with rfl | rfl
      · exact sat_cleanup hkeep
      · refine ((sat_cleanup hkeep).imp fun _ _ => justified_of_released).mono ?_
        exact fun _ _ hclean h => cleanedUp_of_released (hclean h)
    · rintro e log ⟨_, hscope, -⟩
      cases hscope
  obtain ⟨hjustified, hcleaned⟩ := hlive.run host
  refine ⟨hjustified, hcleaned, fun log hok => ?_⟩
  have hpreserving : (scope.perform .cleanupPreservingPin).Sat (fun _ _ => True) log fun r log' =>
      r.isOk = true → Gone scope log' ∨ Stopped scope log' := by
    refine Sat.imp (Sat.bind adds_cleanupPreservingPin ?_ ?_) fun _ _ _ => trivial
    · rintro ⟨⟩ _ ⟨more, rfl, -, hdone⟩ _
      exact hdone () rfl
    · rintro e _ - hok
      cases hok
  exact (hpreserving.run_from (fun _ _ _ _ => trivial) host).2 hok

end Operations

section Sample

def sampleUnit : SystemdPayloadScope where
  identity := sampleScope
  pinnedUnit := samplePin
  controlGroup := expectedControlGroup sampleScope
  workerPid := 41
  launcherPid := 42

/-- The unit runs until it is signalled, and is at rest then. -/
def mortalHost : Host ScopeCall.Answer := fun log call =>
  match call with
  | .proof (.readProperties operation invocationId objectPath unitName) =>
    if log.any fun x => x.1 = .killPinnedUnit invocationId objectPath .term then
      restedProvider [] (.readProperties operation invocationId objectPath unitName)
    else
      .ok { objectPath, id := unitName, invocationId, controlGroup := expectedControlGroup sampleScope
            slice := "user-1000.slice", transient := true, activeState := "active"
            subState := "running" }
  | .proof q => restedProvider [] q
  | .readMembers _ => .ok [43]
  | .pidfdCgroup _ => .ok (expectedControlGroup sampleScope)
  | .refPinnedUnit _ _ | .killPinnedUnit _ _ _ | .createBoundaryObserver _ _ _
  | .unrefPinnedUnit _ _ => .ok ()
  | .timeLeft | .connect | .managerProxy | .unitProxy _ | .scopeProxy _ | .receiveJobs _
  | .unref _ => true
  | .nextJob => .timer
  | .random | .startTransientUnit _ _ _ | .stopUnit _ | .getUnit _ | .property _ _ => none

/-- A session that is asked to terminate once more when it is gone: there is one signal. -/
example :
    let run := (sampleUnit.live [.requestGracefulTermination, .requestGracefulTermination,
      .cleanupPreservingPin]).run mortalHost []
    run.1.isOk = true ∧ (run.2.map (·.1)).filter (!isReading ·) =
      [.killPinnedUnit sampleScope.invocationId "/unit/a" .term,
        .unrefPinnedUnit sampleScope.invocationId "/unit/a"] := by decide +kernel

end Sample
end Niralis.PayloadScope
