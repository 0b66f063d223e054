import Niralis.CallLogs

namespace Niralis.VirtualTerminal

inductive VirtualTerminalError
  | unsupportedSeat
  | libraryUnavailable
  | symbolUnavailable
  | invalidSeatName
  | seatNotGraphical
  | seatQueryFailed (result : Int)
  | deviceOpenFailed (path : String) (errno : Int)
  | openQueryFailed (errno : Int)
  | invalidAllocatedTerminal (number : Int)
  | deviceMetadataFailed (errno : Int)
  | deviceMismatch (expected major minor : Nat)
  | operationFailed
  | cleanupFailed
  | cleanupOperationFailed (stage : String) (errno : Int)
  | cleanupTimedOut
  deriving DecidableEq, Repr

/-- The calls on the seat, on the two devices and on the clock. What fails answers its `errno`. -/
inductive VtCall
  | loadLibrary
  | loadSymbol
  | seatCanGraphical (seat : String)
  | openDevice (path : String)
  | openQuery
  | deviceMetadata
  | active
  | activate (number : Nat)
  | deadlinePassed
  | closeTerminal
  | disallocate (number : Nat)
  deriving DecidableEq, Repr

abbrev VtCall.Answer : VtCall → Type
  | loadLibrary => Bool
  | loadSymbol => Bool
  | seatCanGraphical _ => Int
  | openDevice _ => Except Int Unit
  | openQuery => Except Int Int
  | deviceMetadata => Except Int (Nat × Nat)
  | active => Except Int Nat
  | activate _ => Except Int Unit
  | deadlinePassed => Bool
  | closeTerminal => Unit
  | disallocate _ => Except Int Unit

abbrev VtCalls := Calls VtCall VtCall.Answer

def vtMin : Nat := 1

def vtMax : Nat := 63

structure VirtualTerminalId where
  number : Nat
  positive : 0 < number
  bounded : number ≤ 63
  deriving DecidableEq

def VirtualTerminalId.new (value : Nat) : Option VirtualTerminalId :=
  if h : 0 < value ∧ value ≤ 63 then some ⟨value, h.1, h.2⟩ else none

inductive OwnedTerminalHandleState
  | held
  | terminalClosed
  | released
  deriving DecidableEq, Repr

def OwnedTerminalHandleState.closeTerminal : OwnedTerminalHandleState → OwnedTerminalHandleState
  | held => terminalClosed
  | terminalClosed => terminalClosed
  | released => released

/-- A terminal that was allocated for a seat, and the one that was active before. -/
structure OwnedVirtualTerminal where
  seat : String
  vtnr : VirtualTerminalId
  previousVtnr : VirtualTerminalId
  terminal : OwnedTerminalHandleState
  distinct : vtnr ≠ previousVtnr

/-- `query(..)?` -/
def orFail {ε : Type} {α : Type} (answer : Except Int α) (error : Int → ε) : VtCalls ε α :=
  match answer with
  | .ok a => pure a
  | .error errno => Calls.fail (error errno)

def ensureGraphicalSeat (seat : String) : VtCalls VirtualTerminalError Unit := do
  if Char.ofNat 0 ∈ seat.toList then Calls.fail .invalidSeatName
  else
    let result : Int ← Calls.ask (VtCall.seatCanGraphical seat)
    if 0 < result then pure ()
    else if result = 0 then Calls.fail .seatNotGraphical
    else Calls.fail (.seatQueryFailed result)

namespace OwnedVirtualTerminal

def allocate (seat : String) : VtCalls VirtualTerminalError OwnedVirtualTerminal := do
  let console : Except Int Unit ← Calls.ask (VtCall.openDevice "/dev/console")
  orFail console (.deviceOpenFailed "/dev/console")
  let active : Except Int Nat ← Calls.ask VtCall.active
  let previousNumber ← orFail active fun _ => .operationFailed
  match VirtualTerminalId.new previousNumber with
  | none => Calls.fail .operationFailed
  | some previousVtnr =>
    let query : Except Int Int ← Calls.ask VtCall.openQuery
    let number ← orFail query .openQueryFailed
    if number < 0 ∨ number.toNat < vtMin ∨ vtMax < number.toNat then
      Calls.fail (.invalidAllocatedTerminal number)
    else
      let device := "/dev/tty" ++ toString number.toNat
      let opened : Except Int Unit ← Calls.ask (VtCall.openDevice device)
      orFail opened (.deviceOpenFailed device)
      let metadata : Except Int (Nat × Nat) ← Calls.ask VtCall.deviceMetadata
      let (major, minor) ← orFail metadata .deviceMetadataFailed
      if major ≠ 4 ∨ minor ≠ number.toNat then
        Calls.fail (.deviceMismatch number.toNat major minor)
      else match VirtualTerminalId.new number.toNat with
        | none => Calls.fail (.invalidAllocatedTerminal number)
        | some vtnr =>
          if h : vtnr = previousVtnr then Calls.fail .operationFailed
          else pure ⟨seat, vtnr, previousVtnr, .held, h⟩

end OwnedVirtualTerminal

/-- `LinuxVirtualTerminalAllocator::allocate` -/
def allocateTerminal (seat : String) : VtCalls VirtualTerminalError OwnedVirtualTerminal := do
  if seat ≠ "seat0" then Calls.fail .unsupportedSeat
  else
    let library : Bool ← Calls.ask VtCall.loadLibrary
    if !library then Calls.fail .libraryUnavailable
    else
      let symbol : Bool ← Calls.ask VtCall.loadSymbol
      if !symbol then Calls.fail .symbolUnavailable
      else
        ensureGraphicalSeat seat
        OwnedVirtualTerminal.allocate seat

section Allocation
open Calls
variable {log : List (Sigma VtCall.Answer)}

theorem orFail_yields {ε α : Type} {answer : Except Int α} {error : Int → ε} {a : α} :
    (orFail answer error).Yields log (.ok a) ↔ answer = .ok a ∧ log = [] := by
  cases answer with
  | ok b =>
    constructor
    · rintro ⟨rfl, h⟩
      exact ⟨by rw [Except.ok.inj h], rfl⟩
    · rintro ⟨h, rfl⟩
      exact ⟨rfl, by rw [Except.ok.inj h]⟩
  | error errno => exact ⟨fun h => (by cases h.2), fun h => (by cases h.1)⟩

theorem VirtualTerminalId.number_of_new {value : Nat} {id : VirtualTerminalId}
    (h : VirtualTerminalId.new value = some id) : id.number = value := by
  unfold VirtualTerminalId.new at h
  split at h
  · rw [← Option.some.inj h]
  · cases h

theorem ensureGraphicalSeat_yields {seat : String}
    (h : (ensureGraphicalSeat seat).Yields log (.ok ())) :
    ∃ graphical : Int, 0 < graphical ∧ log = [⟨.seatCanGraphical seat, graphical⟩] := by
  unfold ensureGraphicalSeat at h
  split at h
  · cases h.2
  rw [yields_ask_bind] at h
  obtain ⟨graphical, rest, rfl, h⟩ := h
  split at h
  next hpositive => exact ⟨graphical, hpositive, by rw [h.1]⟩
  next =>
    split at h
    · cases h.2
    · cases h.2

namespace OwnedVirtualTerminal

/-- The kernel has named the terminal, and the device that was opened for it is that one. -/
theorem allocate_yields {seat : String} {t : OwnedVirtualTerminal}
    (h : (allocate seat).Yields log (.ok t)) :
    t.seat = seat ∧ t.terminal = .held ∧
      log = [⟨.openDevice "/dev/console", .ok ()⟩, ⟨.active, .ok t.previousVtnr.number⟩,
        ⟨.openQuery, .ok (t.vtnr.number : Int)⟩,
        ⟨.openDevice ("/dev/tty" ++ toString t.vtnr.number), .ok ()⟩,
        ⟨.deviceMetadata, .ok (4, t.vtnr.number)⟩] := by
  -- every call has answered, as the allocation ends at the first that does not
  unfold allocate at h
  rw [yields_ask_bind] at h
  obtain ⟨console, _, rfl, h⟩ := h
  rw [yields_bind_ok] at h
  obtain ⟨_, _, _, rfl, hconsole, h⟩ := h
  obtain ⟨rfl, rfl⟩ := orFail_yields.mp hconsole
  rw [yields_ask_bind] at h
  obtain ⟨active, _, rfl, h⟩ := h
  rw [yields_bind_ok] at h
  obtain ⟨_, _, previousNumber, rfl, hactive, h⟩ := h
  obtain ⟨rfl, rfl⟩ := orFail_yields.mp hactive
  split at h
  · cases h.2
  rename_i previousVtnr hprevious
  rw [yields_ask_bind] at h
  obtain ⟨query, _, rfl, h⟩ := h
  rw [yields_bind_ok] at h
  obtain ⟨_, _, number, rfl, hquery, h⟩ := h
  obtain ⟨rfl, rfl⟩ := orFail_yields.mp hquery
  split at h
  · cases h.2
  rename_i hnumber
  rw [yields_ask_bind] at h
  obtain ⟨opened, _, rfl, h⟩ := h
  rw [yields_bind_ok] at h
  obtain ⟨_, _, _, rfl, hopened, h⟩ := h
  obtain ⟨rfl, rfl⟩ := orFail_yields.mp hopened
  rw [yields_ask_bind] at h
  obtain ⟨metadata, _, rfl, h⟩ := h
  rw [yields_bind_ok] at h
  obtain ⟨_, _, ⟨major, minor⟩, rfl, hmetadata, h⟩ := h
  obtain ⟨rfl, rfl⟩ := orFail_yields.mp hmetadata
  dsimp only at h
  split at h
  · cases h.2
  rename_i hdevice
  rw [not_or, not_not, not_not] at hdevice
  obtain ⟨rfl, rfl⟩ := hdevice
  split at h
  · cases h.2
  rename_i vtnr hvtnr
  split at h
  · cases h.2
  obtain ⟨rfl, ht⟩ := h
  cases ht
  have hvalue := VirtualTerminalId.number_of_new hvtnr
  have hvalue' := VirtualTerminalId.number_of_new hprevious
  have hint : ((vtnr.number : Nat) : Int) = number := by omega
  refine ⟨rfl, rfl, ?_⟩
  rw [hint, hvalue, hvalue']
  rfl

end OwnedVirtualTerminal

/-- A terminal that the allocator hands out is one that a release may start from. -/
theorem allocateTerminal_yields {seat : String} {t : OwnedVirtualTerminal}
    (h : (allocateTerminal seat).Yields log (.ok t)) :
    seat = "seat0" ∧ t.seat = seat ∧ t.terminal = .held ∧
      ⟨.openQuery, .ok (t.vtnr.number : Int)⟩ ∈ log ∧ ⟨.active, .ok t.previousVtnr.number⟩ ∈ log := by
  unfold allocateTerminal at h
  split at h
  · cases h.2
  rename_i hseat
  rw [yields_ask_bind] at h
  obtain ⟨library, _, rfl, h⟩ := h
  split at h
  · cases h.2
  rw [yields_ask_bind] at h
  obtain ⟨symbol, _, rfl, h⟩ := h
  split at h
  · cases h.2
  rw [yields_bind_ok] at h
  obtain ⟨_, _, _, rfl, hgraphical, h⟩ := h
  obtain ⟨graphical, -, rfl⟩ := ensureGraphicalSeat_yields hgraphical
  obtain ⟨htseat, hheld, rfl⟩ := OwnedVirtualTerminal.allocate_yields h
  exact ⟨not_not.mp hseat, htseat, hheld, by simp, by simp⟩

end Allocation

/-- One look at the active terminal while the previous one is awaited. The loop is left with the
result. -/
def confirmPrevious (previous : Nat) (_ : Unit) :
    VtCalls (Except VirtualTerminalError Unit) Unit := do
  let active : Except Int Nat ← Calls.ask VtCall.active
  match active with
  | .error errno => Calls.fail (.error (.cleanupOperationFailed "confirm_previous" errno))
  | .ok active =>
    if active = previous then Calls.fail (.ok ())
    else
      let passed : Bool ← Calls.ask VtCall.deadlinePassed
      if passed then Calls.fail (.error .cleanupTimedOut) else pure ()

/-- The loop that waits for the previous terminal goes on after so many turns. -/
inductive StillWaiting
  | stillWaiting
  deriving DecidableEq, Repr

def leaveLoop {α β : Type} : Except α β → VtCalls StillWaiting α
  | .error result => pure result
  | .ok _ => Calls.fail .stillWaiting

/-- Activates the previous terminal, if the allocated one is active. -/
def restorePrevious (turns allocated previous : Nat) :
    VtCalls StillWaiting (Except VirtualTerminalError Unit) := do
  let active : Except Int Nat ← Calls.ask VtCall.active
  match active with
  | .error errno => pure (.error (.cleanupOperationFailed "query_active" errno))
  | .ok active =>
    if active = allocated then
      let activated : Except Int Unit ← Calls.ask (VtCall.activate previous)
      match activated with
      | .error errno => pure (.error (.cleanupOperationFailed "restore_previous" errno))
      | .ok () => (Calls.iterate (confirmPrevious previous) turns ()).handle leaveLoop
    else pure (.ok ())

def disallocateTerminal (number : Nat) : VtCalls StillWaiting (Except VirtualTerminalError Unit) := do
  let disallocated : Except Int Unit ← Calls.ask (VtCall.disallocate number)
  match disallocated with
  | .ok () => pure (.ok ())
  | .error errno => pure (.error (.cleanupOperationFailed "disallocate" errno))

/-- With the state that the terminal's handle is left in. -/
def releaseAllocatedTerminal (turns allocated previous : Nat) (terminal : OwnedTerminalHandleState) :
    VtCalls StillWaiting (Except VirtualTerminalError Unit × OwnedTerminalHandleState) := do
  let restored ← restorePrevious turns allocated previous
  match restored with
  | .error e => pure (.error e, terminal)
  | .ok () =>
    let () ← Calls.ask VtCall.closeTerminal
    let result ← disallocateTerminal allocated
    pure (result, terminal.closeTerminal)

namespace OwnedVirtualTerminal

def withResult (t : OwnedVirtualTerminal) (result : Except VirtualTerminalError Unit)
    (terminal : OwnedTerminalHandleState) : Except VirtualTerminalError Unit × OwnedVirtualTerminal :=
  (result, { t with terminal := if result.isOk then .released else terminal })

def release (turns : Nat) (t : OwnedVirtualTerminal) :
    VtCalls StillWaiting (Except VirtualTerminalError Unit × OwnedVirtualTerminal) :=
  match t.terminal with
  | .released => pure (.ok (), t)
  | .held => do
    let (result, terminal) ←
      releaseAllocatedTerminal turns t.vtnr.number t.previousVtnr.number t.terminal
    pure (t.withResult result terminal)
  | .terminalClosed => do
    let result ← disallocateTerminal t.vtnr.number
    pure (t.withResult result t.terminal)

end OwnedVirtualTerminal

namespace OwnedVirtualTerminal

/-- Some releases of one terminal, one after the other. -/
def releases (turns : Nat) : Nat → OwnedVirtualTerminal → VtCalls StillWaiting OwnedVirtualTerminal :=
  Calls.iterate fun t => do
    let (_, t) ← t.release turns
    pure t

end OwnedVirtualTerminal

section Release
open Calls

abbrev VtLog := List (Sigma VtCall.Answer)

/-- The terminal's handle is open, and nothing was disallocated. -/
def Untouched (log : VtLog) : Prop :=
  ∀ x ∈ log, x.1 ≠ .closeTerminal ∧ ∀ number, x.1 ≠ .disallocate number

/-- The last look at the active terminal found another one. -/
def SeenInactive (vtnr : Nat) (log : VtLog) : Prop :=
  ∃ earlier number, log = earlier ++ [⟨.active, .ok number⟩] ∧ number ≠ vtnr

/-- The handle was closed right after such a look, and since then every call was a disallocation
that failed. -/
def ClosedInactive (vtnr : Nat) (log : VtLog) : Prop :=
  ∃ seen failures, log = seen ++ ⟨.closeTerminal, ()⟩ :: failures ∧ Untouched seen ∧
    SeenInactive vtnr seen ∧ ∀ x ∈ failures, ∃ errno, x = ⟨.disallocate vtnr, .error errno⟩

structure ReleaseSafe (vtnr previous : VirtualTerminalId) (before : VtLog)
    (x : Sigma VtCall.Answer) : Prop where
  disallocates : ∀ number, x.1 = .disallocate number →
    number = vtnr.number ∧ ClosedInactive vtnr.number before
  closes : x.1 = .closeTerminal → Untouched before ∧ SeenInactive vtnr.number before
  activates : ∀ number, x.1 = .activate number → number = previous.number

variable {vtnr previous : VirtualTerminalId} {log : VtLog}

theorem Untouched.concat {x : Sigma VtCall.Answer} (hlog : Untouched log)
    (hclose : x.1 ≠ .closeTerminal) (hdisallocate : ∀ number, x.1 ≠ .disallocate number) :
    Untouched (log ++ [x]) := by
  intro y hy
  rcases List.mem_append.mp hy with hy | hy
  · exact hlog y hy
  · rw [List.mem_singleton.mp hy]
    exact ⟨hclose, hdisallocate⟩

theorem releaseSafe_of_query {q : VtCall} {answer : q.Answer}
    (hclose : q ≠ .closeTerminal) (hdisallocate : ∀ number, q ≠ .disallocate number)
    (hactivate : ∀ number, q ≠ .activate number) : ReleaseSafe vtnr previous log ⟨q, answer⟩ where
  disallocates number h := absurd h (hdisallocate number)
  closes h := absurd h hclose
  activates number h := absurd h (hactivate number)

theorem number_inj {a b : VirtualTerminalId} : a.number = b.number ↔ a = b := by
  cases a
  cases b
  simp

/-- The loop is left with a success right after the previous terminal was seen. -/
theorem sat_confirmPrevious (hdistinct : vtnr ≠ previous) (turns : Nat) (hlog : Untouched log) :
    (iterate (confirmPrevious previous.number) turns ()).Sat (ReleaseSafe vtnr previous) log
      fun r log' => Untouched log' ∧ (r = .error (.ok ()) → SeenInactive vtnr.number log') := by
  have hnumber : previous.number ≠ vtnr.number := fun h => hdistinct (number_inj.mp h).symm
  refine Sat.iterate (fun _ log hinv => ?_) turns ⟨hlog, by simp⟩
  rw [confirmPrevious, sat_ask_bind]
  intro active
  refine ⟨releaseSafe_of_query (by simp) (by simp) (by simp), ?_⟩
  have hseen : Untouched (log ++ [⟨.active, active⟩]) := hinv.1.concat (by simp) (by simp)
  cases active with
  | error errno => exact ⟨hseen, by simp⟩
  | ok number =>
    dsimp only
    split
    next hprevious =>
      refine ⟨hseen, fun _ => ⟨log, number, rfl, ?_⟩⟩
      rwa [hprevious]
    next =>
      rw [sat_ask_bind]
      intro passed
      refine ⟨releaseSafe_of_query (by simp) (by simp) (by simp), ?_⟩
      have hafter := hseen.concat (x := ⟨.deadlinePassed, passed⟩) (by simp) (by simp)
      cases passed with
      | true => exact ⟨hafter, by simp⟩
      | false => exact ⟨hafter, by simp⟩

theorem sat_restorePrevious (hdistinct : vtnr ≠ previous) (turns : Nat) (hlog : Untouched log) :
    (restorePrevious turns vtnr.number previous.number).Sat (ReleaseSafe vtnr previous) log
      fun r log' => Untouched log' ∧ (r = .ok (.ok ()) → SeenInactive vtnr.number log') := by
  rw [restorePrevious, sat_ask_bind]
  intro active
  refine ⟨releaseSafe_of_query (by simp) (by simp) (by simp), ?_⟩
  have hseen : Untouched (log ++ [⟨.active, active⟩]) := hlog.concat (by simp) (by simp)
  cases active with
  | error errno => exact ⟨hseen, by simp⟩
  | ok number =>
    dsimp only
    split
    next =>
      rw [sat_ask_bind]
      intro activated
      refine ⟨⟨by simp, by simp, fun n hn => (VtCall.activate.inj hn).symm⟩, ?_⟩
      have hactivated : Untouched (log ++ [⟨.active, .ok number⟩] ++
          [⟨.activate previous.number, activated⟩]) := hseen.concat (by simp) (by simp)
      cases activated with
      | error errno => exact ⟨hactivated, by simp⟩
      | ok _ =>
        refine sat_handle.mpr ((sat_confirmPrevious hdistinct turns hactivated).mono fun r log' hr => ?_)
        cases r with
        | ok _ => exact ⟨hr.1, by simp⟩
        | error result =>
          refine ⟨hr.1, fun hok => hr.2 ?_⟩
          rw [Except.ok.inj hok]
    next hinactive => exact ⟨hseen, fun _ => ⟨log, number, rfl, hinactive⟩⟩

theorem sat_disallocateTerminal (hlog : ClosedInactive vtnr.number log) :
    (disallocateTerminal vtnr.number).Sat (ReleaseSafe vtnr previous) log
      fun r log' => ∀ result, r = .ok result → result ≠ .ok () → ClosedInactive vtnr.number log' := by
  rw [disallocateTerminal, sat_ask_bind]
  intro disallocated
  refine ⟨⟨fun n hn => ⟨(VtCall.disallocate.inj hn).symm, hlog⟩, by simp, by simp⟩, ?_⟩
  obtain ⟨seen, failures, rfl, huntouched, hseen, hfailures⟩ := hlog
  cases disallocated with
  | ok _ =>
    intro result hresult hne
    exact absurd (Except.ok.inj hresult).symm hne
  | error errno =>
    intro _ _ _
    refine ⟨seen, failures ++ [⟨.disallocate vtnr.number, .error errno⟩], ?_, huntouched, hseen, ?_⟩
    · rw [List.append_assoc, List.cons_append]
    · intro x hx
      rcases List.mem_append.mp hx with hx | hx
      · exact hfailures x hx
      · exact ⟨errno, List.mem_singleton.mp hx⟩

theorem sat_releaseAllocatedTerminal (hdistinct : vtnr ≠ previous) (turns : Nat)
    (hlog : Untouched log) :
    (releaseAllocatedTerminal turns vtnr.number previous.number .held).Sat
      (ReleaseSafe vtnr previous) log fun r log' => ∀ result terminal, r = .ok (result, terminal) →
        result ≠ .ok () → terminal = .held ∧ Untouched log' ∨
          terminal = .terminalClosed ∧ ClosedInactive vtnr.number log' := by
  refine (sat_restorePrevious hdistinct turns hlog).bind (fun restored log₁ h₁ => ?_) (by simp)
  cases restored with
  | error e =>
    intro result terminal hr _
    obtain ⟨-, rfl⟩ := Prod.mk.inj (Except.ok.inj hr)
    exact Or.inl ⟨rfl, h₁.1⟩
  | ok _ =>
    have hseen : SeenInactive vtnr.number log₁ := h₁.2 rfl
    refine fun _ => ⟨⟨by simp, fun _ => ⟨h₁.1, hseen⟩, by simp⟩, ?_⟩
    have hclosed : ClosedInactive vtnr.number (log₁ ++ [⟨.closeTerminal, ()⟩]) :=
      ⟨log₁, [], rfl, h₁.1, hseen, by simp⟩
    refine (sat_disallocateTerminal hclosed).bind (fun result log₂ h₂ => ?_) (by simp)
    intro result' terminal hr hne
    obtain ⟨rfl, rfl⟩ := Prod.mk.inj (Except.ok.inj hr)
    exact Or.inr ⟨rfl, h₂ _ rfl hne⟩

end Release

namespace OwnedVirtualTerminal
open Calls

/-- The state of the terminal's handle and what the calls so far say about it. -/
def Handled (vtnr : VirtualTerminalId) (terminal : OwnedTerminalHandleState) (log : VtLog) : Prop :=
  match terminal with
  | .held => Untouched log
  | .terminalClosed => ClosedInactive vtnr.number log
  | .released => True

theorem sat_release (turns : Nat) (t : OwnedVirtualTerminal) {log : VtLog}
    (h : Handled t.vtnr t.terminal log) :
    (t.release turns).Sat (ReleaseSafe t.vtnr t.previousVtnr) log fun r log' =>
      ∀ result t', r = .ok (result, t') →
        t'.vtnr = t.vtnr ∧ t'.previousVtnr = t.previousVtnr ∧ Handled t'.vtnr t'.terminal log' := by
  unfold release
  cases hterminal : t.terminal with
  | released =>
    intro result t' hr
    obtain ⟨-, rfl⟩ := Prod.mk.inj (Except.ok.inj hr)
    rw [hterminal]
    exact ⟨rfl, rfl, trivial⟩
  | held =>
    rw [hterminal] at h
    refine (sat_releaseAllocatedTerminal t.distinct turns h).bind (fun r₁ log₁ h₁ => ?_) (by simp)
    intro result t' hr
    obtain ⟨rfl, rfl⟩ := Prod.mk.inj (Except.ok.inj hr)
    refine ⟨rfl, rfl, ?_⟩
    cases hresult : r₁.1 with
    | ok _ => trivial
    | error e =>
      rcases h₁ r₁.1 r₁.2 rfl (by simp [hresult]) with ⟨hstate, hlog⟩ | ⟨hstate, hlog⟩
      · simpa [hresult, hstate, Except.isOk, Except.toBool, Handled] using hlog
      · simpa [hresult, hstate, Except.isOk, Except.toBool, Handled] using hlog
  | terminalClosed =>
    rw [hterminal] at h
    refine (sat_disallocateTerminal h).bind (fun r₁ log₁ h₁ => ?_) (by simp)
    intro result t' hr
    obtain ⟨rfl, rfl⟩ := Prod.mk.inj (Except.ok.inj hr)
    refine ⟨rfl, rfl, ?_⟩
    cases r₁ with
    | ok _ => trivial
    | error e => exact h₁ _ rfl (by simp)

/-- However often a terminal is given back, and whatever the kernel answers: it is disallocated only
after its handle was closed, right after another terminal was seen to be active; only a disallocation
that failed is tried again; and no other terminal than the previous one is activated. -/
theorem releases_safe (t : OwnedVirtualTerminal) (ht : t.terminal = .held) (turns n : Nat)
    (host : Host VtCall.Answer) :
    Throughout (ReleaseSafe t.vtnr t.previousVtnr) ((t.releases turns n).run host []).2 := by
  have hstart : Handled t.vtnr t.terminal [] := by
    rw [ht]
    simp [Handled, Untouched]
  have hsat : (iterate (fun t : OwnedVirtualTerminal => (do
      let (_, t) ← t.release turns
      pure t : VtCalls StillWaiting OwnedVirtualTerminal)) n t).Sat
        (ReleaseSafe t.vtnr t.previousVtnr) [] fun r log => ∀ t', r = .ok t' →
          t'.vtnr = t.vtnr ∧ t'.previousVtnr = t.previousVtnr ∧ Handled t'.vtnr t'.terminal log := by
    refine Sat.iterate (fun t₁ log h₁ => ?_) n ?_
    · obtain ⟨hvtnr, hprevious, hhandled⟩ := h₁ t₁ rfl
      have hrelease := t₁.sat_release turns hhandled
      rw [hvtnr, hprevious] at hrelease
      refine hrelease.bind (fun r log' hr => ?_) (by simp)
      intro t₂ heq
      cases heq
      exact hr r.1 r.2 rfl
    · intro t' heq
      cases heq
      exact ⟨rfl, rfl, hstart⟩
  exact (hsat.run host).1

end OwnedVirtualTerminal

section BusyTerminal

def sampleTerminal : OwnedVirtualTerminal where
  seat := "seat0"
  vtnr := ⟨2, by decide, by decide⟩
  previousVtnr := ⟨1, by decide, by decide⟩
  terminal := .held
  distinct := by decide

/-- The terminal is active until the previous one is activated, and busy when it is disallocated
first. -/
def busyHost : Calls.Host VtCall.Answer := fun log q =>
  match q with
  | .active => .ok (if log.any fun x => decide (x.1 = .activate 1) then 1 else 2)
  | .disallocate number =>
    if log.any fun x => decide (x.1 = .disallocate number) then .ok () else .error 16
  | .activate _ | .openDevice _ => .ok ()
  | .openQuery => .ok 2
  | .deviceMetadata => .ok (4, 2)
  | .seatCanGraphical _ => 1
  | .closeTerminal => ()
  | .loadLibrary | .loadSymbol | .deadlinePassed => true

theorem sampleTerminal_released :
    ((sampleTerminal.releases 3 3).run busyHost []).2.map (·.1) =
        [.active, .activate 1, .active, .closeTerminal, .disallocate 2, .disallocate 2] ∧
      Calls.Throughout (ReleaseSafe sampleTerminal.vtnr sampleTerminal.previousVtnr)
        ((sampleTerminal.releases 3 3).run busyHost []).2 :=
  ⟨by decide, sampleTerminal.releases_safe rfl 3 3 busyHost⟩

end BusyTerminal

end Niralis.VirtualTerminal
