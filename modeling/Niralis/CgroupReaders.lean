import Niralis.RecoveryModel
import Niralis.Text

namespace Niralis

open Text

/-- A control group with its own processes and its child groups. `frozen` is absent on kernels
whose `cgroup.events` has no such line. -/
inductive Cgroup where
  | node (pids : List Nat) (frozen : Option Bool) (children : List Cgroup)

namespace Cgroup

def pids : Cgroup → List Nat
  | node pids _ _ => pids

def frozen : Cgroup → Option Bool
  | node _ frozen _ => frozen

def children : Cgroup → List Cgroup
  | node _ _ children => children

mutual
/-- The processes of the group and of every group below it. -/
def processes : Cgroup → List Nat
  | node pids _ children => pids ++ processesBelow children

def processesBelow : List Cgroup → List Nat
  | [] => []
  | c :: cs => c.processes ++ processesBelow cs
end

/-- `cgroup.events` as the kernel writes it. -/
def events (c : Cgroup) : List Char :=
  (if c.processes = [] then "populated 0\n" else "populated 1\n").toList ++
    match c.frozen with
    | none => []
    | some false => "frozen 0\n".toList
    | some true => "frozen 1\n".toList

/-- `cgroup.procs` as the kernel writes it: one process id a line. -/
def procs (c : Cgroup) : List Char :=
  c.pids.flatMap fun pid => Nat.toDigits 10 pid ++ ['\n']

end Cgroup

/-- What the path below the cgroup mount leads to. -/
inductive CgroupEntry where
  | absent
  | directory (group : Cgroup)
  | notDirectory
  | inaccessible

/-- The mounted hierarchy; path resolution is the kernel's. -/
structure CgroupFs where
  entry : List Char → CgroupEntry

def relativePath (controlGroup : String) : List Char := controlGroup.toList.dropWhile (· = '/')

/-- The reading of a file that exists, cut off at a limit. -/
def readBounded (limit : Nat) (text : List Char) : Option (List Char) :=
  if text.length > limit then none else some text

def validControlGroup (controlGroup : String) : Bool :=
  controlGroup.toList.head? = some '/' && !containsPair '.' '.' controlGroup.toList

section Worker

inductive CgroupEmptyState
  | absent
  | presentEmpty
  deriving DecidableEq, Repr

def maxCgroupStateBytes : Nat := 4096

def workerParseLine (populated : Option Nat) (line : List Char) :
    Except PayloadScopeError (Option Nat) :=
  match splitAsciiWhitespace line with
  | [] => .ok populated
  | [key, value] =>
    if key = "populated".toList then
      if populated.isSome then .error .invalidMembership
      else
        match (parseU8 value).filter (· ≤ 1) with
        | some v => .ok (some v)
        | none => .error .invalidMembership
    else .ok populated
  | _ => .error .invalidMembership

/-- The worker's `parse_populated`: every line is a key and a value. -/
def workerParsePopulated (text : List Char) : Except PayloadScopeError Nat :=
  match (lines text).foldlM workerParseLine none with
  | .ok (some v) => .ok v
  | .ok none => .error .invalidMembership
  | .error e => .error e

def readCgroupEmptyStateAt (fs : CgroupFs) (controlGroup : String) :
    Except PayloadScopeError CgroupEmptyState :=
  if !validControlGroup controlGroup then .error .invalidIdentity
  else
    match fs.entry (relativePath controlGroup) with
    | .absent => .ok .absent
    | .notDirectory | .inaccessible => .error .invalidMembership
    | .directory group => do
      let some events := readBounded maxCgroupStateBytes group.events
        | .error .invalidMembership
      if (← workerParsePopulated events) ≠ 0 then
        .error .boundaryNotEmpty
      else
        let some procs := readBounded maxCgroupStateBytes group.procs
          | .error .invalidMembership
        if trim procs ≠ [] then .error .boundaryNotEmpty else .ok .presentEmpty

end Worker

section Supervisor

inductive SupervisorBoundaryState
  | empty
  | populated
  | absent
  deriving DecidableEq, Repr

def maxCgroupFileBytes : Nat := 64 * 1024

/-- The supervisor's `parse_populated`: exactly one line is `populated` with `0` or `1`. -/
def supervisorParsePopulated (text : List Char) : Option Nat :=
  let values := (lines text).filterMap fun line =>
    match splitAsciiWhitespace line with
    | [key, value] => if key = "populated".toList then parseU8 value else none
    | _ => none
  match values with
  | [value] => if value ≤ 1 then some value else none
  | _ => none

def holdsText (procs : List Char) : Bool := procs.any fun c => !isAsciiWhitespace c

mutual
def readSupervisorBoundaryStateFromPath :
    Cgroup → Except SupervisorRecoveryError SupervisorBoundaryState
  | .node pids frozen children =>
    let group := Cgroup.node pids frozen children
    match readBounded maxCgroupFileBytes group.events,
        readBounded maxCgroupFileBytes group.procs with
    | some events, some procs =>
      if supervisorParsePopulated events ≠ some 0 || holdsText procs then .ok .populated
      else readSupervisorChildren children
    | _, _ => .error .invalidPayloadIdentity

/-- The loop over the directory entries that are directories. -/
def readSupervisorChildren :
    List Cgroup → Except SupervisorRecoveryError SupervisorBoundaryState
  | [] => .ok .empty
  | c :: cs =>
    match readSupervisorBoundaryStateFromPath c with
    | .error e => .error e
    | .ok .populated => .ok .populated
    | .ok .empty | .ok .absent => readSupervisorChildren cs
end

def readSupervisorBoundaryState (fs : CgroupFs) (controlGroup : String) :
    Except SupervisorRecoveryError SupervisorBoundaryState :=
  if !validControlGroup controlGroup then .error .invalidPayloadIdentity
  else
    match fs.entry (relativePath controlGroup) with
    | .absent => .ok .absent
    | .notDirectory | .inaccessible => .error .invalidPayloadIdentity
    | .directory group =>
      match readBounded maxCgroupFileBytes group.events with
      | none => .error .invalidPayloadIdentity
      | some events =>
        match supervisorParsePopulated events with
        | none => .error .invalidPayloadIdentity
        | some populated =>
          match readBounded maxCgroupFileBytes group.procs with
          | none => .error .invalidPayloadIdentity
          | some procs =>
            if populated ≠ 0 || holdsText procs then .ok .populated
            else readSupervisorChildren group.children

end Supervisor

section Verifier

def boundaryAbsent (fs : CgroupFs) (controlGroup : String) :
    Except PayloadScopeRecoveryReason Bool :=
  match fs.entry (relativePath controlGroup) with
  | .absent => .ok true
  | .directory _ | .notDirectory => .ok false
  | .inaccessible => .error .verificationUnavailable

/-- The release verifier reads the boundary's own `cgroup.procs` and nothing below it. -/
def boundaryEmptyOrAbsent (fs : CgroupFs) (controlGroup : String) :
    Except PayloadScopeRecoveryReason Bool :=
  match fs.entry (relativePath controlGroup) with
  | .directory group => .ok (!(lines group.procs).any fun line => line ≠ [])
  | .absent => boundaryAbsent fs controlGroup
  | .notDirectory | .inaccessible => .error .verificationUnavailable

structure ReleaseObservation where
  id : String
  invocationId : String
  active : String
  sub : String
  slice : String
  controlGroup : String
  transient : Bool
  deriving DecidableEq, Repr

/-- The answers of the system bus during one verification: the unit the invocation resolves to,
before and after the first reading of its properties, and the two readings. -/
structure ReleaseBus where
  connected : Bool
  first : Except PayloadScopeRecoveryReason (Option String)
  firstObservation : Except PayloadScopeRecoveryReason ReleaseObservation
  second : Except PayloadScopeRecoveryReason (Option String)
  secondObservation : Except PayloadScopeRecoveryReason ReleaseObservation

def expectedControlGroup (identity : PayloadScopeIdentity) : String :=
  "/user.slice/user-" ++ toString identity.expectedUid ++ ".slice/" ++ identity.unitName

/-- The unit is the expected one and has come to rest. -/
def checkObservation (identity : PayloadScopeIdentity) (observation : ReleaseObservation) :
    Option PayloadScopeRecoveryReason :=
  if observation.id ≠ identity.unitName || observation.invocationId ≠ identity.invocationId ||
      observation.slice ≠ "user-" ++ toString identity.expectedUid ++ ".slice" ||
      !observation.transient ||
      (observation.controlGroup ≠ "" && observation.controlGroup ≠ expectedControlGroup identity)
  then some .identityMismatch
  else if !(observation.active = "inactive" || observation.active = "failed") ||
      !(observation.sub = "dead" || observation.sub = "failed" || observation.sub = "exited")
  then some .unitStillActive
  else none

def verifySystemd (fs : CgroupFs) (identity : PayloadScopeIdentity) (timeLeft : Bool)
    (bus : ReleaseBus) : Except PayloadScopeRecoveryReason ScopeReleaseVerification :=
  if !identity.validate then .ok (.recoveryRequired .identityMismatch)
  else if !timeLeft || !bus.connected then .error .verificationUnavailable
  else do
    let first ← bus.first
    let firstObservation ← match first with
      | some _ => bus.firstObservation.map some
      | none => .ok none
    let second ← bus.second
    match first, second with
    | none, none =>
      if ← boundaryAbsent fs (expectedControlGroup identity) then .ok .released
      else .ok (.recoveryRequired .membershipNotEmpty)
    | some firstPath, some secondPath =>
      if firstPath ≠ secondPath then .ok (.recoveryRequired .invocationIdMismatch)
      else
        let observation ← bus.secondObservation
        if firstObservation ≠ some observation then .ok (.recoveryRequired .identityMismatch)
        else
          match checkObservation identity observation with
          | some reason => .ok (.recoveryRequired reason)
          | none =>
            if ← boundaryEmptyOrAbsent fs (expectedControlGroup identity) then .ok .released
            else .ok (.recoveryRequired .membershipNotEmpty)
    | _, _ => .ok (.recoveryRequired .invocationIdMismatch)

end Verifier

section KernelFiles
variable (c : Cgroup)

theorem events_length_le : c.events.length ≤ 21 := by
  unfold Cgroup.events
  split <;> split <;> decide

theorem workerParsePopulated_events :
    workerParsePopulated c.events = .ok (if c.processes = [] then 0 else 1) := by
  unfold Cgroup.events
  split <;> split <;> decide

theorem supervisorParsePopulated_events :
    supervisorParsePopulated c.events = some (if c.processes = [] then 0 else 1) := by
  unfold Cgroup.events
  split <;> split <;> decide

theorem readBounded_eq_some {limit : Nat} {text : List Char} (h : text.length ≤ limit) :
    readBounded limit text = some text := if_neg (Nat.not_lt.mpr h)

variable {c}

theorem procs_eq_nil (h : c.pids = []) : c.procs = [] := by simp [Cgroup.procs, h]

theorem procs_head (h : c.pids ≠ []) :
    ∃ d ds, c.procs = d :: ds ∧ d.isDigit = true := by
  obtain ⟨pid, rest, hp⟩ := List.exists_cons_of_ne_nil h
  obtain ⟨d, ds, hd⟩ := List.exists_cons_of_ne_nil (Nat.toDigits_ne_nil (n := pid) (b := 10))
  refine ⟨d, ds ++ ['\n'] ++ rest.flatMap fun pid => Nat.toDigits 10 pid ++ ['\n'], ?_, ?_⟩
  · simp [Cgroup.procs, hp, hd]
  · exact Nat.isDigit_of_mem_toDigits (by decide) (by decide) (hd ▸ List.mem_cons_self)

theorem lines_procs (h : c.pids ≠ []) : ∃ line ∈ lines c.procs, line ≠ [] := by
  obtain ⟨d, ds, hp, hd⟩ := procs_head h
  have hn : d ≠ '\n' := by rintro rfl; exact absurd hd (by decide)
  have hr : d ≠ '\r' := by rintro rfl; exact absurd hd (by decide)
  simpa [lines, hp, linesFrom, hn] using exists_nonempty_line hr [] ds

theorem processes_eq_nil_iff (c : Cgroup) :
    c.processes = [] ↔ c.pids = [] ∧ Cgroup.processesBelow c.children = [] := by
  cases c
  simp [Cgroup.processes, Cgroup.pids, Cgroup.children]

end KernelFiles

/-- No process runs in the boundary or in any group below it. -/
def NoProcess (fs : CgroupFs) (controlGroup : String) : Prop :=
  ∀ group, fs.entry (relativePath controlGroup) = .directory group → group.processes = []

section Readers
variable {fs : CgroupFs} {controlGroup : String}

theorem readCgroupEmptyStateAt_directory {group : Cgroup} (hv : validControlGroup controlGroup)
    (he : fs.entry (relativePath controlGroup) = .directory group) :
    readCgroupEmptyStateAt fs controlGroup =
      if group.processes = [] then .ok .presentEmpty else .error .boundaryNotEmpty := by
  have hb : readBounded maxCgroupStateBytes group.events = some group.events :=
    readBounded_eq_some (Nat.le_trans (events_length_le group) (by decide))
  simp only [readCgroupEmptyStateAt, hv, he, hb, workerParsePopulated_events, Bool.not_true]
  by_cases hp : group.processes = []
  · have : group.procs = [] := procs_eq_nil ((processes_eq_nil_iff group).mp hp).1
    simp [hp, this, readBounded, bind, Except.bind, trim]
  · simp [hp, bind, Except.bind]

theorem valid_of_worker (h : (readCgroupEmptyStateAt fs controlGroup).isOk = true) :
    validControlGroup controlGroup = true := by
  by_contra hv
  have : readCgroupEmptyStateAt fs controlGroup = .error .invalidIdentity := by
    simp [readCgroupEmptyStateAt, hv]
  rw [this] at h
  cases h

theorem noProcess_of_worker (h : (readCgroupEmptyStateAt fs controlGroup).isOk = true) :
    NoProcess fs controlGroup := by
  intro group he
  rw [readCgroupEmptyStateAt_directory (valid_of_worker h) he] at h
  by_contra hp
  rw [if_neg hp] at h
  cases h

theorem noProcess_of_supervisor {state : SupervisorBoundaryState}
    (h : readSupervisorBoundaryState fs controlGroup = .ok state) (hs : state ≠ .populated) :
    NoProcess fs controlGroup := by
  intro group he
  by_contra hp
  have hb : readBounded maxCgroupFileBytes group.events = some group.events :=
    readBounded_eq_some (Nat.le_trans (events_length_le group) (by decide))
  simp only [readSupervisorBoundaryState, he, hb, supervisorParsePopulated_events, if_neg hp] at h
  split at h
  · cases h
  · split at h
    · cases h
    · simp only [ne_eq, Nat.one_ne_zero, not_false_eq_true, decide_true, Bool.true_or, if_true,
        Except.ok.injEq] at h
      exact hs h.symm

theorem boundaryEmptyOrAbsent_directory {group : Cgroup}
    (he : fs.entry (relativePath controlGroup) = .directory group) :
    boundaryEmptyOrAbsent fs controlGroup = .ok (decide (group.pids = [])) := by
  simp only [boundaryEmptyOrAbsent, he]
  by_cases hp : group.pids = []
  · simp [hp, procs_eq_nil hp, lines, linesFrom]
  · obtain ⟨line, hl, hne⟩ := lines_procs hp
    simpa [hp] using ⟨line, hl, hne⟩

end Readers

/-- What cleanup relies on: a reader that answers empty or absent is right, and the verifier is
not more lenient than the worker. -/
structure EmptinessSound (fs : CgroupFs) (controlGroup : String) : Prop where
  worker : (readCgroupEmptyStateAt fs controlGroup).isOk = true → NoProcess fs controlGroup
  supervisor : ∀ state, readSupervisorBoundaryState fs controlGroup = .ok state →
    state ≠ .populated → NoProcess fs controlGroup
  verifier : boundaryEmptyOrAbsent fs controlGroup = .ok true → NoProcess fs controlGroup
  agreement : boundaryEmptyOrAbsent fs controlGroup = .ok true →
    (readCgroupEmptyStateAt fs controlGroup).isOk = true

/-- A boundary that has no process of its own has none below it either, and its control group
is one the worker's reader does not refuse; an absent boundary needs only the latter. -/
def NoProcessHidden (fs : CgroupFs) (controlGroup : String) : Prop :=
  match fs.entry (relativePath controlGroup) with
  | .directory group => group.pids = [] →
      Cgroup.processesBelow group.children = [] ∧ validControlGroup controlGroup = true
  | .absent => validControlGroup controlGroup = true
  | .notDirectory | .inaccessible => True

theorem emptinessSound_of_noProcessHidden {fs : CgroupFs} {controlGroup : String}
    (h : NoProcessHidden fs controlGroup) : EmptinessSound fs controlGroup := by
  unfold NoProcessHidden at h
  refine ⟨noProcess_of_worker, fun _ => noProcess_of_supervisor, ?_, ?_⟩
  · intro hv group he
    rw [boundaryEmptyOrAbsent_directory he] at hv
    have hp : group.pids = [] := by simpa using hv
    rw [he] at h
    exact (processes_eq_nil_iff group).mpr ⟨hp, (h hp).1⟩
  · intro hv
    split at h
    next group he =>
      rw [boundaryEmptyOrAbsent_directory he] at hv
      have hp : group.pids = [] := by simpa using hv
      obtain ⟨hb, hc⟩ := h hp
      rw [readCgroupEmptyStateAt_directory hc he,
        if_pos ((processes_eq_nil_iff group).mpr ⟨hp, hb⟩)]
      rfl
    next he =>
      simp only [readCgroupEmptyStateAt, h, he, Bool.not_true]
      rfl
    next he => simp [boundaryEmptyOrAbsent, he] at hv
    next he => simp [boundaryEmptyOrAbsent, he] at hv

/-- The readers are sound exactly where no process hides below an empty boundary. -/
theorem emptinessSound_iff (fs : CgroupFs) (controlGroup : String) :
    EmptinessSound fs controlGroup ↔ NoProcessHidden fs controlGroup := by
  refine ⟨fun h => ?_, emptinessSound_of_noProcessHidden⟩
  unfold NoProcessHidden
  split
  next group he =>
    intro hp
    have hv : boundaryEmptyOrAbsent fs controlGroup = .ok true := by
      simp [boundaryEmptyOrAbsent_directory he, hp]
    exact ⟨((processes_eq_nil_iff group).mp (h.verifier hv group he)).2,
      valid_of_worker (h.agreement hv)⟩
  next he =>
    exact valid_of_worker (h.agreement (by simp [boundaryEmptyOrAbsent, boundaryAbsent, he]))
  next => trivial
  next => trivial

theorem ok_of_bind {ε α β : Type} {x : Except ε α} {f : α → Except ε β} {b : β}
    (h : (x >>= f) = .ok b) : ∃ a, x = .ok a ∧ f a = .ok b := by
  cases x with
  | ok a => exact ⟨a, rfl, h⟩
  | error e => cases h

/-- An absent boundary is one that its emptiness reader takes for empty. -/
theorem empty_of_absent {fs : CgroupFs} {controlGroup : String}
    (h : boundaryAbsent fs controlGroup = .ok true) :
    boundaryEmptyOrAbsent fs controlGroup = .ok true := by
  have habsent := h
  unfold boundaryAbsent at h
  unfold boundaryEmptyOrAbsent
  cases he : fs.entry (relativePath controlGroup) with
  | absent => exact habsent
  | directory group =>
    rw [he] at h
    cases h
  | notDirectory =>
    rw [he] at h
    cases h
  | inaccessible =>
    rw [he] at h
    cases h

theorem read_of_released {read : Except PayloadScopeRecoveryReason Bool}
    (h : (do if ← read then .ok .released else .ok (.recoveryRequired .membershipNotEmpty) :
      Except PayloadScopeRecoveryReason ScopeReleaseVerification) = .ok .released) :
    read = .ok true := by
  obtain ⟨answer, hread, hreleased⟩ := ok_of_bind h
  cases answer with
  | true => exact hread
  | false => cases hreleased

/-- The verifier releases a scope only on the word of its emptiness reader. -/
theorem empty_of_released {fs : CgroupFs} {identity : PayloadScopeIdentity} {timeLeft : Bool}
    {bus : ReleaseBus} (h : verifySystemd fs identity timeLeft bus = .ok .released) :
    boundaryEmptyOrAbsent fs (expectedControlGroup identity) = .ok true := by
  unfold verifySystemd at h
  split at h
  · cases h
  split at h
  · cases h
  obtain ⟨first, -, h⟩ := ok_of_bind h
  cases first with
  | none =>
    obtain ⟨firstObservation, -, h⟩ := ok_of_bind h
    obtain ⟨second, -, h⟩ := ok_of_bind h
    cases second with
    -- the unit is unknown, and its control group has to be gone
    | none => exact empty_of_absent (read_of_released h)
    | some secondPath => cases h
  | some firstPath =>
    obtain ⟨firstObservation, -, h⟩ := ok_of_bind h
    obtain ⟨second, -, h⟩ := ok_of_bind h
    cases second with
    | none => cases h
    -- the same unit twice, with the same observation of it
    | some secondPath =>
      dsimp only at h
      split at h
      · cases h
      obtain ⟨observation, -, h⟩ := ok_of_bind h
      split at h
      · cases h
      split at h
      · cases h
      · exact read_of_released h

/-- A released scope holds no process, wherever no process hides below an empty boundary. -/
theorem noProcess_of_released {fs : CgroupFs} {identity : PayloadScopeIdentity} {timeLeft : Bool}
    {bus : ReleaseBus} (hc : NoProcessHidden fs (expectedControlGroup identity))
    (h : verifySystemd fs identity timeLeft bus = .ok .released) :
    NoProcess fs (expectedControlGroup identity) :=
  (emptinessSound_of_noProcessHidden hc).verifier (empty_of_released h)

/-- A session whose processes all sit one group below its scope. -/
def nestedSession : CgroupFs where
  entry _ := .directory (.node [] none [.node [4711] none []])

theorem nestedSession_not_sound : ¬ ∀ fs controlGroup, EmptinessSound fs controlGroup := by
  intro h
  have hv := (h nestedSession "/user.slice/user-1000.slice/niralis-payload-0a.scope").verifier
    (by decide)
  have := hv _ rfl
  simp [Cgroup.processes, Cgroup.processesBelow] at this

end Niralis
