import Niralis.Flow
import Niralis.RecoveryModel
import Niralis.Runs
import Niralis.WorkerMessages

namespace Niralis

inductive WorkerTerminationSignal
  | sigterm | sigint | sighup
  deriving DecidableEq, Repr

def WorkerTerminationSignal.fromRaw : Int → Option WorkerTerminationSignal
  | 15 => some .sigterm
  | 2 => some .sigint
  | 1 => some .sighup
  | _ => none

inductive LeaderExit
  | exitedZero
  | exitedNonZero (code : Int)
  | killedBySignal (signal : Int)
  | other (raw : Int)
  deriving DecidableEq, Repr

def LeaderExit.fromStatus : ExitStatus → LeaderExit
  | .exited code => if code = 0 then .exitedZero else .exitedNonZero code
  | .signaled signal => .killedBySignal signal
  | .other raw => .other raw

inductive TerminationCause
  | internalTerminateRequest
  | workerSignal (signal : WorkerTerminationSignal)
  | supervisorDisconnected
  | leaderExited (exit : LeaderExit)
  | runtimeFailure
  deriving DecidableEq, Repr

inductive GracefulTerminationError
  | boundaryObserver
  | scopeOperation (error : PayloadScopeError)
  | timer
  | poll
  | leaderReap
  | signal
  | control
  deriving DecidableEq, Repr

inductive RecoveryReason
  | boundaryIdentityChanged
  | boundaryIdentityUnproven
  deriving DecidableEq, Repr

inductive GracefulTerminationOutcome
  | boundaryTerminalCandidate (cause : TerminationCause) (leaderExit : Option LeaderExit)
  | deadlineExpired (cause : TerminationCause) (leaderExit : Option LeaderExit)
  | infrastructureFailure (cause : TerminationCause) (leaderExit : Option LeaderExit)
      (error : GracefulTerminationError)
  | recoveryRequired (cause : TerminationCause) (leaderExit : Option LeaderExit)
      (reason : RecoveryReason)
  deriving DecidableEq, Repr

def GracefulTerminationOutcome.leaderExit : GracefulTerminationOutcome → Option LeaderExit
  | boundaryTerminalCandidate _ e => e
  | deadlineExpired _ e => e
  | infrastructureFailure _ e _ => e
  | recoveryRequired _ e _ => e

structure GracefulTerminationCoordinator where
  cause : Option TerminationCause := none
  leaderExit : Option LeaderExit := none
  requested : Bool := false
  deriving DecidableEq, Repr

namespace GracefulTerminationCoordinator

def causeOrFailure (c : GracefulTerminationCoordinator) : TerminationCause :=
  c.cause.getD .runtimeFailure

def recordLeaderExit (c : GracefulTerminationCoordinator) (exit : LeaderExit) :
    GracefulTerminationCoordinator :=
  if c.leaderExit = none then { c with leaderExit := some exit } else c

def boundaryCandidate (c : GracefulTerminationCoordinator) : GracefulTerminationOutcome :=
  .boundaryTerminalCandidate c.causeOrFailure c.leaderExit

def deadlineExpired (c : GracefulTerminationCoordinator) : GracefulTerminationOutcome :=
  .deadlineExpired c.causeOrFailure c.leaderExit

def infrastructure (c : GracefulTerminationCoordinator) (error : GracefulTerminationError) :
    GracefulTerminationOutcome :=
  .infrastructureFailure c.causeOrFailure c.leaderExit error

def scopeError (c : GracefulTerminationCoordinator) (error : PayloadScopeError) :
    GracefulTerminationOutcome :=
  if error = .unitReplaced then
    .recoveryRequired c.causeOrFailure c.leaderExit .boundaryIdentityChanged
  else c.infrastructure (.scopeOperation error)

end GracefulTerminationCoordinator

/-- What the loop carries from one poll to the next. The last three fields record the outside
world: how often the scope was asked to terminate, the first leader exit, and whether a leader
exit, a termination signal or a matching terminate request has been taken in. -/
structure WaitState where
  coordinator : GracefulTerminationCoordinator := {}
  leaderReaped : Bool := false
  observer : Bool := false
  gracefulRequests : Nat := 0
  firstLeaderExit : Option LeaderExit := none
  consumed : Bool := false
  deriving DecidableEq, Repr

inductive WorkerControlMessage
  | payloadScopeRegistered
  | terminate (workerId : String) (workerPid sessionPid sessionPgid : Nat)
  | other
  deriving DecidableEq, Repr

structure WorkerControlRequest where
  version : Nat
  message : WorkerControlMessage
  deriving DecidableEq, Repr

inductive ControlAccept
  | accepted (peerUid : Option Nat) (request : Except Unit WorkerControlRequest)
  | wouldBlock
  | failed

inductive PollResult
  | ready | interrupted | failed
  deriving DecidableEq, Repr

/-- One return of `poll` with the answers of every call the pass over it may make. -/
structure PollWakeup where
  poll : PollResult := .ready
  pidfd : Bool := false
  pollChild : Except Unit (Option ExitStatus) := .ok none
  observer : Bool := false
  consumeWakeup : Bool := true
  boundaryAppearsTerminal : Except PayloadScopeError Bool := .ok false
  signalFd : Bool := false
  signals : List Int := []
  signalReadFails : Bool := false
  listenerHangup : Bool := false
  supervisor : Bool := false
  listener : Bool := false
  accept : ControlAccept := .wouldBlock
  createBoundaryObserver : Except PayloadScopeError Unit := .ok ()
  requestGracefulTermination : Except PayloadScopeError Unit := .ok ()
  armTimer : Bool := true
  timer : Bool := false
  consumeDeadline : Except Unit Bool := .ok false

structure SessionWaitContext where
  hasListener : Bool
  workerId : String
  workerPid : Nat
  sessionPid : Nat
  sessionPgid : Nat
  expectedControlUid : Nat

abbrev Returned := GracefulTerminationOutcome × WaitState

abbrev Trigger := Option TerminationCause

namespace WaitState

def infrastructure {α : Type} (s : WaitState) (error : GracefulTerminationError) :
    Flow Returned WaitState α :=
  .done (s.coordinator.infrastructure error, s)

end WaitState

def getOrInsert (trigger : Trigger) (cause : TerminationCause) : Trigger :=
  some (trigger.getD cause)

def reapLeader (w : PollWakeup) (s : WaitState) : Flow Returned WaitState (WaitState × Trigger) :=
  if w.pidfd && !s.leaderReaped then
    match w.pollChild with
    | .error () => s.infrastructure .leaderReap
    | .ok none => .value (s, none)
    | .ok (some status) =>
      let exit := LeaderExit.fromStatus status
      .value ({ s with
        coordinator := s.coordinator.recordLeaderExit exit
        leaderReaped := true
        firstLeaderExit := some (s.firstLeaderExit.getD exit)
        consumed := true }, some (.leaderExited exit))
  else .value (s, none)

def observeBoundary (w : PollWakeup) (s : WaitState) : Flow Returned WaitState Unit :=
  if w.observer then
    if !s.observer then s.infrastructure .boundaryObserver
    else if !w.consumeWakeup then s.infrastructure .boundaryObserver
    else
      match w.boundaryAppearsTerminal with
      | .ok true => .done (s.coordinator.boundaryCandidate, s)
      | .ok false => .value ()
      | .error error => .done (s.coordinator.scopeError error, s)
  else .value ()

/-- The loop over the signal descriptor, on the queue it finds there. -/
def drainSignals (w : PollWakeup) (s : WaitState) (trigger : Trigger) :
    List Int → Flow Returned WaitState (WaitState × Trigger)
  | [] => if w.signalReadFails then s.infrastructure .signal else .value (s, trigger)
  | signal :: rest =>
    match WorkerTerminationSignal.fromRaw signal with
    | none => s.infrastructure .signal
    | some signal =>
      drainSignals w { s with consumed := true }
        (getOrInsert trigger (.workerSignal signal)) rest

def readSignals (w : PollWakeup) (s : WaitState) (trigger : Trigger) :
    Flow Returned WaitState (WaitState × Trigger) :=
  if w.signalFd then drainSignals w s trigger w.signals else .value (s, trigger)

def noticeDisconnects (w : PollWakeup) (trigger : Trigger) : Trigger :=
  let trigger :=
    if w.listenerHangup then getOrInsert trigger .supervisorDisconnected else trigger
  if w.supervisor then getOrInsert trigger .supervisorDisconnected else trigger

def acceptControl (ctx : SessionWaitContext) (w : PollWakeup) (s : WaitState)
    (trigger : Trigger) : Flow Returned WaitState (WaitState × Trigger) :=
  if w.listener then
    if !ctx.hasListener then s.infrastructure .control
    else
      match w.accept with
      | .wouldBlock => .value (s, trigger)
      | .failed => s.infrastructure .control
      | .accepted peerUid request =>
        -- a peer with another uid starts the loop over, whatever this pass has collected
        if peerUid ≠ some ctx.expectedControlUid then .restart s
        else
          match request with
          | .error () => s.infrastructure .control
          | .ok request =>
            if request.version ≠ workerControlProtocolVersion then s.infrastructure .control
            else
              match request.message with
              | .terminate workerId workerPid sessionPid sessionPgid =>
                if workerId = ctx.workerId ∧ workerPid = ctx.workerPid ∧
                    sessionPid = ctx.sessionPid ∧ sessionPgid = ctx.sessionPgid then
                  .value ({ s with consumed := true },
                    getOrInsert trigger .internalTerminateRequest)
                else s.infrastructure .control
              | .payloadScopeRegistered | .other => s.infrastructure .control
  else .value (s, trigger)

/-- `GracefulTerminationCoordinator::begin`, with the scope and the timer it drives. -/
def begin (w : PollWakeup) (s : WaitState) (cause : TerminationCause) :
    Flow Returned WaitState WaitState :=
  if s.coordinator.requested then .value s
  else
    let s := { s with coordinator := { s.coordinator with cause := some cause } }
    match w.createBoundaryObserver with
    | .error error => .done (s.coordinator.scopeError error, s)
    | .ok () =>
      let s := { s with gracefulRequests := s.gracefulRequests + 1 }
      match w.requestGracefulTermination with
      | .error error => .done (s.coordinator.scopeError error, s)
      | .ok () =>
        if !w.armTimer then s.infrastructure .timer
        else .value { s with
          coordinator := { s.coordinator with requested := true }
          observer := true }

def actOnTrigger (w : PollWakeup) (s : WaitState) (trigger : Trigger) :
    Flow Returned WaitState WaitState :=
  match trigger with
  | none => .value s
  | some cause => if s.coordinator.cause.isSome then .value s else begin w s cause

def checkDeadline (w : PollWakeup) (s : WaitState) : Flow Returned WaitState WaitState :=
  if w.timer then
    match w.consumeDeadline with
    | .error () => s.infrastructure .timer
    | .ok true => .done (s.coordinator.deadlineExpired, s)
    | .ok false => .value s
  else .value s

def pollCycle (ctx : SessionWaitContext) (w : PollWakeup) (s : WaitState) :
    Flow Returned WaitState WaitState :=
  match w.poll with
  | .interrupted => .restart s
  | .failed => s.infrastructure .poll
  | .ready =>
    (reapLeader w s).bind fun (s, trigger) =>
    (observeBoundary w s).bind fun () =>
    (readSignals w s trigger).bind fun (s, trigger) =>
    (acceptControl ctx w s (noticeDisconnects w trigger)).bind fun (s, trigger) =>
    (actOnTrigger w s trigger).bind fun s =>
    checkDeadline w s

/-- The loop between two polls, or what it returned. -/
inductive WaitProgress
  | waiting (s : WaitState)
  | returned (outcome : GracefulTerminationOutcome) (s : WaitState)

def WaitProgress.state : WaitProgress → WaitState
  | waiting s => s
  | returned _ s => s

def waitStep (ctx : SessionWaitContext) (p : WaitProgress) (w : PollWakeup) : WaitProgress :=
  match p with
  | .returned outcome s => .returned outcome s
  | .waiting s =>
    match pollCycle ctx w s with
    | .value s => .waiting s
    | .restart s => .waiting s
    | .done (outcome, s) => .returned outcome s

section Cycle

/-- What the coordinator, the scope and the leader's bookkeeping agree on between two polls. -/
structure WaitState.Coherent (s : WaitState) : Prop where
  idle : s.coordinator.cause = none →
    s.coordinator.requested = false ∧ s.gracefulRequests = 0 ∧ s.observer = false
  begun : s.coordinator.cause ≠ none →
    s.coordinator.requested = true ∧ s.gracefulRequests = 1
  leaderExit : s.coordinator.leaderExit = s.firstLeaderExit
  reaped : s.leaderReaped = s.firstLeaderExit.isSome

/-- The cause recorded in `s` is still the one recorded in `s'`. -/
def CauseKept (s s' : WaitState) : Prop :=
  ∀ cause, s.coordinator.cause = some cause → s'.coordinator.cause = some cause

/-- What holds of a returned outcome, `s₀` being the state at the start of the pass. -/
structure ReturnedWell (s₀ : WaitState) (r : Returned) : Prop where
  leaderExit : r.1.leaderExit = r.2.firstLeaderExit
  reaped : r.2.leaderReaped = r.2.firstLeaderExit.isSome
  once : r.2.gracefulRequests ≤ 1
  cause : CauseKept s₀ r.2

/-- A state in the middle of a pass that has taken a trigger exactly when `taken`. -/
structure MidPass (s₀ : WaitState) (taken : Prop) (s : WaitState) (trigger : Trigger) : Prop where
  coherent : s.Coherent
  cause : s.coordinator.cause = s₀.coordinator.cause
  consumed : s.consumed = true ↔ s₀.consumed = true ∨ taken
  trigger : taken → trigger ≠ none

def LeaderExits (s : WaitState) (w : PollWakeup) : Prop :=
  w.pidfd = true ∧ s.leaderReaped = false ∧ ∃ status, w.pollChild = .ok (some status)

def TakesSignal (w : PollWakeup) : Prop := w.signalFd = true ∧ w.signals ≠ []

def ForeignPeer (ctx : SessionWaitContext) (w : PollWakeup) : Prop :=
  w.listener = true ∧ ctx.hasListener = true ∧
    ∃ peerUid request, w.accept = .accepted peerUid request ∧
      peerUid ≠ some ctx.expectedControlUid

variable {ctx : SessionWaitContext} {w : PollWakeup} {s s₀ : WaitState} {trigger : Trigger}
  {taken : Prop}

@[simp] theorem leaderExit_infrastructure (c : GracefulTerminationCoordinator)
    (e : GracefulTerminationError) : (c.infrastructure e).leaderExit = c.leaderExit := rfl

@[simp] theorem leaderExit_scopeError (c : GracefulTerminationCoordinator)
    (e : PayloadScopeError) : (c.scopeError e).leaderExit = c.leaderExit := by
  unfold GracefulTerminationCoordinator.scopeError
  split <;> rfl

theorem MidPass.returned (h : MidPass s₀ taken s trigger) {o : GracefulTerminationOutcome}
    (ho : o.leaderExit = s.coordinator.leaderExit) : ReturnedWell s₀ (o, s) where
  leaderExit := ho.trans h.coherent.leaderExit
  reaped := h.coherent.reaped
  once := by
    by_cases hc : s.coordinator.cause = none
    · simp [h.coherent.idle hc]
    · simp [h.coherent.begun hc]
  cause := fun c hc => h.cause.trans hc

theorem midPass_start (hs : s.Coherent) : MidPass s False s none where
  coherent := hs
  cause := rfl
  consumed := by simp
  trigger := False.elim

theorem reapLeader_sat (hs : s.Coherent) {r : WaitState → Prop} :
    (reapLeader w s).Sat
      ⟨fun a => MidPass s (LeaderExits s w) a.1 a.2, r, ReturnedWell s⟩ := by
  have idle (hn : ¬ LeaderExits s w) : MidPass s (LeaderExits s w) s none :=
    ⟨hs, rfl, by simp [hn], fun h => absurd h hn⟩
  unfold reapLeader
  split
  next hw =>
    obtain ⟨hp, hr⟩ : w.pidfd = true ∧ s.leaderReaped = false := by simpa using hw
    split
    next => exact (midPass_start hs).returned rfl
    next hc => exact idle (by rintro ⟨-, -, status, hst⟩; simp [hc] at hst)
    next status hc =>
      have hn : s.firstLeaderExit = none := by simpa [hr] using hs.reaped
      refine ⟨⟨?_, ?_, ?_, ?_⟩, ?_, ?_, by simp⟩
      · intro hcause
        have := hs.idle (by simpa [GracefulTerminationCoordinator.recordLeaderExit, apply_ite,
          hs.leaderExit, hn] using hcause)
        simpa [GracefulTerminationCoordinator.recordLeaderExit, hs.leaderExit, hn] using this
      · intro hcause
        have := hs.begun (by simpa [GracefulTerminationCoordinator.recordLeaderExit,
          hs.leaderExit, hn] using hcause)
        simpa [GracefulTerminationCoordinator.recordLeaderExit, hs.leaderExit, hn] using this
      · simp [GracefulTerminationCoordinator.recordLeaderExit, hs.leaderExit, hn]
      · simp
      · simp [GracefulTerminationCoordinator.recordLeaderExit, hs.leaderExit, hn]
      · simpa using Or.inr ⟨hp, hr, status, hc⟩
  next hw => exact idle (by rintro ⟨hp, hr, -⟩; simp [hp, hr] at hw)

theorem observeBoundary_sat (h : MidPass s₀ taken s trigger) {r : WaitState → Prop} :
    (observeBoundary w s).Sat ⟨fun _ => True, r, ReturnedWell s₀⟩ := by
  unfold observeBoundary
  split
  · split
    · exact h.returned rfl
    split
    · exact h.returned rfl
    split
    · exact h.returned rfl
    · trivial
    · exact h.returned (by simp)
  · trivial

theorem drainSignals_sat (signals : List Int) (h : MidPass s₀ taken s trigger)
    {r : WaitState → Prop} :
    (drainSignals w s trigger signals).Sat
      ⟨fun a => MidPass s₀ (taken ∨ signals ≠ []) a.1 a.2, r, ReturnedWell s₀⟩ := by
  induction signals generalizing s trigger taken with
  | nil =>
    unfold drainSignals
    split
    · exact h.returned rfl
    · simpa [Flow.Sat] using h
  | cons signal rest ih =>
    unfold drainSignals
    split
    · exact h.returned rfl
    next signal' hsig =>
      have hmid : MidPass s₀ True { s with consumed := true }
          (getOrInsert trigger (.workerSignal signal')) :=
        ⟨⟨h.coherent.idle, h.coherent.begun, h.coherent.leaderExit, h.coherent.reaped⟩,
          h.cause, by simp, by simp [getOrInsert]⟩
      simpa using ih hmid

theorem readSignals_sat (h : MidPass s₀ taken s trigger) {r : WaitState → Prop} :
    (readSignals w s trigger).Sat
      ⟨fun a => MidPass s₀ (taken ∨ TakesSignal w) a.1 a.2, r, ReturnedWell s₀⟩ := by
  unfold readSignals TakesSignal
  split
  next hw => simpa [hw] using drainSignals_sat w.signals h
  next hw => simpa [hw, Flow.Sat] using h

theorem midPass_noticeDisconnects (h : MidPass s₀ taken s trigger) :
    MidPass s₀ taken s (noticeDisconnects w trigger) where
  coherent := h.coherent
  cause := h.cause
  consumed := h.consumed
  trigger ht := by
    have := h.trigger ht
    unfold noticeDisconnects
    split <;> split <;> simp_all [getOrInsert]

/-- A pass starts over in the middle only for a peer with another uid. -/
theorem acceptControl_sat (h : MidPass s₀ taken s trigger) :
    (acceptControl ctx w s trigger).Sat
      ⟨fun a => ∃ taken', MidPass s₀ taken' a.1 a.2,
        fun s' => s' = s ∧ ForeignPeer ctx w, ReturnedWell s₀⟩ := by
  unfold acceptControl
  split
  next hl =>
    split
    · exact h.returned rfl
    next hh =>
      split
      · exact ⟨taken, h⟩
      · exact h.returned rfl
      next peerUid request ha =>
        split
        next hp => exact ⟨rfl, hl, by simpa using hh, peerUid, request, ha, hp⟩
        split
        · exact h.returned rfl
        split
        · exact h.returned rfl
        split
        · split
          · refine ⟨True, ⟨h.coherent.idle, h.coherent.begun, h.coherent.leaderExit,
              h.coherent.reaped⟩, h.cause, by simp, by simp [getOrInsert]⟩
          · exact h.returned rfl
        · exact h.returned rfl
        · exact h.returned rfl
  next => exact ⟨taken, h⟩

theorem actOnTrigger_sat (h : MidPass s₀ taken s trigger) {r : WaitState → Prop} :
    (actOnTrigger w s trigger).Sat
      ⟨fun s' => s'.Coherent ∧ CauseKept s₀ s' ∧
        (s'.consumed = true → s₀.consumed = true ∨ s'.coordinator.cause ≠ none),
        r, ReturnedWell s₀⟩ := by
  have kept : CauseKept s₀ s := fun c hc => h.cause.trans hc
  unfold actOnTrigger
  split
  next => exact ⟨h.coherent, kept, fun hc => (h.consumed.mp hc).imp_right fun ht =>
      absurd rfl (h.trigger ht)⟩
  next cause =>
    split
    next hc => exact ⟨h.coherent, kept, fun _ => Or.inr (by simpa [Option.isSome_iff_ne_none] using hc)⟩
    next hc =>
      have hnone : s.coordinator.cause = none := by simpa using hc
      obtain ⟨hreq, hcount, hobs⟩ := h.coherent.idle hnone
      have keptAll (s' : WaitState) : CauseKept s₀ s' := by
        intro c hs₀
        rw [← h.cause, hnone] at hs₀
        cases hs₀
      unfold begin
      rw [if_neg (by simp [hreq])]
      split
      · exact ⟨by simp [h.coherent.leaderExit], h.coherent.reaped, by simp [hcount], keptAll _⟩
      split
      · exact ⟨by simp [h.coherent.leaderExit], h.coherent.reaped, by simp [hcount], keptAll _⟩
      split
      · exact ⟨by simp [h.coherent.leaderExit], h.coherent.reaped, by simp [hcount], keptAll _⟩
      · exact ⟨⟨by simp, by simp [hcount], h.coherent.leaderExit, h.coherent.reaped⟩, keptAll _,
          fun _ => Or.inr (by simp)⟩

theorem checkDeadline_sat {P : WaitState → Prop} (hp : P s) {r : WaitState → Prop}
    (hs : s.Coherent) (hc : CauseKept s₀ s) :
    (checkDeadline w s).Sat ⟨P, r, ReturnedWell s₀⟩ := by
  have well {o : GracefulTerminationOutcome} (ho : o.leaderExit = s.coordinator.leaderExit) :
      ReturnedWell s₀ (o, s) := by
    have := (midPass_start hs).returned ho
    exact ⟨this.leaderExit, this.reaped, this.once, hc⟩
  unfold checkDeadline
  split
  · split
    · exact well rfl
    · exact well rfl
    · exact hp
  · exact hp

/-- A whole pass keeps the bookkeeping, and a pass that ends at its bottom has acted on
everything it took in. -/
theorem pollCycle_sat (hs : s.Coherent) :
    (pollCycle ctx w s).Sat
      ⟨fun s' => s'.Coherent ∧ CauseKept s s' ∧
          (s'.consumed = true → s.consumed = true ∨ s'.coordinator.cause ≠ none),
        fun s' => s'.Coherent ∧ s'.coordinator.cause = s.coordinator.cause ∧
          (s'.consumed = true → s.consumed = true ∨
            (w.poll = .ready ∧ (LeaderExits s w ∨ TakesSignal w) ∧ ForeignPeer ctx w)),
        ReturnedWell s⟩ := by
  unfold pollCycle
  split
  · exact ⟨hs, rfl, Or.inl⟩
  · exact (midPass_start hs).returned rfl
  next hpoll =>
    refine (reapLeader_sat hs).bind fun ⟨s₁, t₁⟩ h₁ => ?_
    refine (observeBoundary_sat h₁).bind fun _ _ => ?_
    refine (readSignals_sat h₁).bind fun ⟨s₂, t₂⟩ h₂ => ?_
    have h₃ : MidPass s (LeaderExits s w ∨ TakesSignal w) s₂ (noticeDisconnects w t₂) :=
      midPass_noticeDisconnects h₂
    refine @Flow.Sat.bind _ _ _ _ _ _ (fun a => ∃ taken, MidPass s taken a.1 a.2) _
      ((acceptControl_sat h₃).mono (fun _ => id) ?_ fun _ => id) ?_
    · rintro s' ⟨rfl, hf⟩
      exact ⟨h₃.coherent, h₃.cause, fun hc => (h₃.consumed.mp hc).imp_right
        fun ht => ⟨hpoll, ht, hf⟩⟩
    · rintro ⟨s₄, t₄⟩ ⟨taken, h₄⟩
      refine (actOnTrigger_sat h₄).bind fun s₅ h₅ => ?_
      exact checkDeadline_sat h₅ h₅.1 h₅.2.1

end Cycle

section Losing
variable {ctx : SessionWaitContext} {w : PollWakeup} {s : WaitState}

/-- Nothing before the control socket makes the pass return. -/
structure ReachesControl (s : WaitState) (w : PollWakeup) : Prop where
  poll : w.poll = .ready
  leader : w.pidfd = true → s.leaderReaped = false → w.pollChild ≠ .error ()
  observer : w.observer = false
  signals : w.signalFd = true → w.signalReadFails = false ∧
    ∀ signal ∈ w.signals, WorkerTerminationSignal.fromRaw signal ≠ none

/-- With no cause recorded, a pass takes in a leader exit or a signal and then accepts a
connection from a peer with another uid. -/
structure LosesTrigger (ctx : SessionWaitContext) (s : WaitState) (w : PollWakeup) : Prop where
  cause : s.coordinator.cause = none
  reaches : ReachesControl s w
  taken : LeaderExits s w ∨ TakesSignal w
  foreign : ForeignPeer ctx w

theorem drainSignals_value {signals : List Int} {trigger : Trigger} {a : WaitState × Trigger}
    (h : drainSignals w s trigger signals = .value a) :
    w.signalReadFails = false ∧
      ∀ signal ∈ signals, WorkerTerminationSignal.fromRaw signal ≠ none := by
  induction signals generalizing s trigger with
  | nil =>
    unfold drainSignals at h
    split at h
    · simp [WaitState.infrastructure] at h
    next hf => exact ⟨by simpa using hf, by simp⟩
  | cons signal rest ih =>
    unfold drainSignals at h
    split at h
    · simp [WaitState.infrastructure] at h
    next signal' hsig =>
      obtain ⟨hf, hr⟩ := ih h
      exact ⟨hf, by simpa [hsig] using hr⟩

/-- A pass that starts over in the middle has come as far as the control socket. -/
theorem reachesControl_of_restart {s' : WaitState} (hs : s.Coherent)
    (hc : s.coordinator.cause = none) (hp : w.poll = .ready)
    (h : pollCycle ctx w s = .restart s') : ReachesControl s w := by
  simp only [pollCycle, hp, Flow.bind_eq_restart] at h
  have hreap := reapLeader_sat (w := w) hs (r := fun _ => False)
  obtain h | ⟨⟨s₁, t₁⟩, h₁, h⟩ := h
  · exact absurd h (hreap.ne_restart s')
  have hmid : MidPass s (LeaderExits s w) s₁ t₁ := by rwa [h₁] at hreap
  obtain h | ⟨u, h₂, h⟩ := h
  · exact absurd h ((observeBoundary_sat hmid).ne_restart s')
  obtain h | ⟨⟨s₃, t₃⟩, h₃, -⟩ := h
  · exact absurd h ((readSignals_sat hmid).ne_restart s')
  refine ⟨hp, ?_, ?_, ?_⟩
  · intro hpid hre herr
    simp [reapLeader, hpid, hre, herr, WaitState.infrastructure] at h₁
  · by_contra hw
    have hobs := (hmid.coherent.idle (hmid.cause.trans hc)).2.2
    simp [observeBoundary, hw, hobs, WaitState.infrastructure] at h₂
  · intro hsig
    exact drainSignals_value (by simpa [readSignals, hsig] using h₃)

theorem drainSignals_eq {trigger : Trigger} (signals : List Int)
    (hf : w.signalReadFails = false)
    (hk : ∀ signal ∈ signals, WorkerTerminationSignal.fromRaw signal ≠ none) :
    ∃ trigger', drainSignals w s trigger signals =
      .value ({ s with consumed := s.consumed || !signals.isEmpty }, trigger') := by
  induction signals generalizing s trigger with
  | nil => exact ⟨trigger, by simp [drainSignals, hf]⟩
  | cons signal rest ih =>
    obtain ⟨signal', hsig⟩ := Option.ne_none_iff_exists'.mp (hk signal (by simp))
    obtain ⟨trigger', ht⟩ := @ih { s with consumed := true }
      (getOrInsert trigger (.workerSignal signal'))
      fun x hx => hk x (List.mem_cons_of_mem _ hx)
    exact ⟨trigger', by simp [drainSignals, hsig, ht]⟩

theorem acceptControl_foreign {trigger : Trigger} (h : ForeignPeer ctx w) :
    acceptControl ctx w s trigger = .restart s := by
  obtain ⟨hl, hh, uid, request, ha, hne⟩ := h
  simp [acceptControl, hl, hh, ha, hne]

/-- The pass that loses its trigger starts over with nothing recorded. -/
theorem pollCycle_of_losesTrigger (hs : s.Coherent) (h : LosesTrigger ctx s w) :
    ∃ s', pollCycle ctx w s = .restart s' ∧ s'.consumed = true ∧
      s'.coordinator.cause = none := by
  have hreap : ∃ s₁ t₁, reapLeader w s = .value (s₁, t₁) := by
    simp only [reapLeader]
    split
    next hw =>
      simp only [Bool.and_eq_true, Bool.not_eq_true'] at hw
      split
      next he => exact absurd he (h.reaches.leader hw.1 hw.2)
      · exact ⟨_, _, rfl⟩
      · exact ⟨_, _, rfl⟩
    · exact ⟨_, _, rfl⟩
  obtain ⟨s₁, t₁, h₁⟩ := hreap
  have hmid : MidPass s (LeaderExits s w) s₁ t₁ := by
    have := reapLeader_sat (w := w) hs (r := fun _ => False)
    rwa [h₁] at this
  have hread : ∃ s₂ t₂, readSignals w s₁ t₁ = .value (s₂, t₂) := by
    by_cases hsig : w.signalFd = true
    · obtain ⟨hf, hk⟩ := h.reaches.signals hsig
      obtain ⟨t₂, ht⟩ := @drainSignals_eq w s₁ t₁ w.signals hf hk
      exact ⟨_, t₂, by simpa [readSignals, hsig] using ht⟩
    · exact ⟨s₁, t₁, by simp [readSignals, hsig]⟩
  obtain ⟨s₂, t₂, h₂⟩ := hread
  have hmid₂ : MidPass s (LeaderExits s w ∨ TakesSignal w) s₂ t₂ := by
    have := readSignals_sat (w := w) hmid (r := fun _ => False)
    rwa [h₂] at this
  refine ⟨s₂, ?_, hmid₂.consumed.mpr (Or.inr h.taken), hmid₂.cause.trans h.cause⟩
  simp [pollCycle, h.reaches.poll, h₁, h₂, Flow.bind, observeBoundary, h.reaches.observer,
    acceptControl_foreign h.foreign]

end Losing

section Run
variable (ctx : SessionWaitContext)

def waitAfter (ws : List PollWakeup) (n : Nat) : WaitProgress :=
  (ws.take n).foldl (waitStep ctx) (.waiting {})

/-- No trigger is lost, the cause is fixed once recorded, the scope is asked at most once, and
every outcome carries the first leader exit. -/
structure LosesNoTrigger (ws : List PollWakeup) : Prop where
  kept : ∀ n s, waitAfter ctx ws n = .waiting s → s.consumed = true →
    s.coordinator.cause ≠ none ∧ s.coordinator.requested = true ∧ s.gracefulRequests = 1
  causeFixed : ∀ m n, m ≤ n → CauseKept (waitAfter ctx ws m).state (waitAfter ctx ws n).state
  once : ∀ n, (waitAfter ctx ws n).state.gracefulRequests ≤ 1
  leaderExit : ∀ n outcome s, waitAfter ctx ws n = .returned outcome s →
    s.leaderReaped = true → outcome.leaderExit = s.firstLeaderExit ∧ s.firstLeaderExit.isSome

/-- The pass over this wakeup does not lose a trigger. -/
def KeepsTrigger : WaitProgress → PollWakeup → Prop
  | .waiting s, w => ¬ LosesTrigger ctx s w
  | .returned .., _ => True

variable {ctx}

/-- The bookkeeping of a loop that still runs, or of what it returned. -/
def WaitProgress.Sound : WaitProgress → Prop
  | waiting s => s.Coherent
  | returned outcome s => ReturnedWell {} (outcome, s)

theorem waitStep_sound {p : WaitProgress} (hp : p.Sound) (w : PollWakeup) :
    (waitStep ctx p w).Sound ∧ CauseKept p.state (waitStep ctx p w).state := by
  cases p with
  | returned outcome s => exact ⟨hp, fun _ h => h⟩
  | waiting s =>
    have hsat := @pollCycle_sat ctx w s hp
    simp only [waitStep]
    split
    next s' h =>
      rw [h] at hsat
      exact ⟨hsat.1, hsat.2.1⟩
    next s' h =>
      rw [h] at hsat
      exact ⟨hsat.1, fun c hc => hsat.2.1.trans hc⟩
    next outcome s' h =>
      rw [h] at hsat
      exact ⟨⟨hsat.leaderExit, hsat.reaped, hsat.once, fun _ hc => by cases hc⟩, hsat.cause⟩

theorem foldl_sound (ws : List PollWakeup) {p : WaitProgress} (hp : p.Sound) :
    (ws.foldl (waitStep ctx) p).Sound ∧ CauseKept p.state (ws.foldl (waitStep ctx) p).state := by
  induction ws generalizing p with
  | nil => exact ⟨hp, fun _ h => h⟩
  | cons w ws ih =>
    obtain ⟨hs, hc⟩ := @waitStep_sound ctx p hp w
    obtain ⟨hs', hc'⟩ := ih hs
    exact ⟨hs', fun c h => hc' c (hc c h)⟩

theorem sound_start : (WaitProgress.waiting {}).Sound := ⟨by simp, by simp, rfl, rfl⟩

theorem waitAfter_sound (ws : List PollWakeup) (n : Nat) : (waitAfter ctx ws n).Sound :=
  (foldl_sound _ sound_start).1

theorem cause_waitAfter (ws : List PollWakeup) {m n : Nat} (h : m ≤ n) :
    CauseKept (waitAfter ctx ws m).state (waitAfter ctx ws n).state := by
  have hsplit : ws.take n = ws.take m ++ (ws.take n).drop m := by
    conv_lhs => rw [← List.take_append_drop m (ws.take n), List.take_take, Nat.min_eq_left h]
  unfold waitAfter
  rw [hsplit, List.foldl_append]
  exact (foldl_sound _ (foldl_sound _ sound_start).1).2

def WaitProgress.Acted : WaitProgress → Prop
  | waiting s => s.consumed = true → s.coordinator.cause ≠ none
  | returned .. => True

theorem waitStep_acted {p : WaitProgress} {w : PollWakeup} (hp : p.Sound) (ha : p.Acted)
    (hk : KeepsTrigger ctx p w) : (waitStep ctx p w).Acted := by
  cases p with
  | returned outcome s => trivial
  | waiting s =>
    have hsat := @pollCycle_sat ctx w s hp
    simp only [waitStep]
    split
    next s' h =>
      rw [h] at hsat
      obtain ⟨-, hkept, hacted⟩ := hsat
      intro hc
      rcases hacted hc with hc | hc
      · obtain ⟨c, hsome⟩ := Option.ne_none_iff_exists'.mp (ha hc)
        simp [hkept c hsome]
      · exact hc
    next s' h =>
      rw [h] at hsat
      obtain ⟨-, hcause, hacted⟩ := hsat
      intro hc hnone
      rw [hcause] at hnone
      rcases hacted hc with hc | ⟨hpoll, htaken, hforeign⟩
      · exact ha hc hnone
      · exact hk ⟨hnone, reachesControl_of_restart hp hnone hpoll h, htaken, hforeign⟩
    next => trivial

/-- A run loses no trigger exactly when none of its passes accepts a foreign peer after taking
one in with no cause recorded. -/
theorem losesNoTrigger_iff (ctx : SessionWaitContext) (ws : List PollWakeup) :
    LosesNoTrigger ctx ws ↔
      StepsMeet (waitStep ctx) (KeepsTrigger ctx) (.waiting {}) ws := by
  constructor
  · intro h
    refine stepsMeet_of_getElem fun n w hw => ?_
    have hsound := @waitAfter_sound ctx ws n
    change KeepsTrigger ctx (waitAfter ctx ws n) w
    cases hp : waitAfter ctx ws n with
    | returned outcome s => trivial
    | waiting s =>
      intro hl
      rw [hp] at hsound
      obtain ⟨s', hr, hc, hn⟩ := pollCycle_of_losesTrigger hsound hl
      have hnext : waitAfter ctx ws (n + 1) = .waiting s' := by
        have := @foldl_take_succ _ _ (waitStep ctx) ws n w hw (.waiting {})
        change waitAfter ctx ws (n + 1) = waitStep ctx (waitAfter ctx ws n) w at this
        rw [this, hp, waitStep, hr]
      exact (h.kept (n + 1) s' hnext hc).1 hn
  · intro h
    refine ⟨?_, fun m n => cause_waitAfter ws, ?_, ?_⟩
    · intro n s hs hc
      have hboth := foldl_invariant (fun p : WaitProgress => p.Sound ∧ p.Acted)
        (fun p w hp hk => ⟨(waitStep_sound hp.1 w).1, waitStep_acted hp.1 hp.2 hk⟩)
        (ws.take n) (.waiting {}) ⟨sound_start, by simp [WaitProgress.Acted]⟩
        (stepsMeet_take h n)
      change (waitAfter ctx ws n).Sound ∧ (waitAfter ctx ws n).Acted at hboth
      rw [hs] at hboth
      have hcause := hboth.2 hc
      exact ⟨hcause, hboth.1.begun hcause⟩
    · intro n
      have hsound := @waitAfter_sound ctx ws n
      cases hp : waitAfter ctx ws n with
      | waiting s =>
        rw [hp] at hsound
        exact ((midPass_start hsound).returned (o := .deadlineExpired .runtimeFailure
          s.coordinator.leaderExit) rfl).once
      | returned outcome s =>
        rw [hp] at hsound
        exact hsound.once
    · intro n outcome s hs hr
      have hsound := @waitAfter_sound ctx ws n
      rw [hs] at hsound
      exact ⟨hsound.leaderExit, hsound.reaped ▸ hr⟩

/-- The leader exits in the same wakeup in which a process of another user connects. -/
def exitWithForeignPeer : List PollWakeup :=
  [{ pidfd := true, pollChild := .ok (some (.exited 0)), listener := true,
     accept := .accepted (some 1000) (.error ()) }]

theorem exitWithForeignPeer_losesTrigger :
    ¬ ∀ ctx ws, LosesNoTrigger ctx ws := by
  intro h
  have := (h ⟨true, "w", 10, 20, 20, 0⟩ exitWithForeignPeer).kept 1 _ rfl rfl
  exact this.1 rfl

end Run

end Niralis
