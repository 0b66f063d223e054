import Niralis.PayloadScope
import Niralis.RecoveryLedger
import Niralis.VirtualTerminal

namespace Niralis.SessionEnd
open PayloadScope (ScopeOperation)
open VirtualTerminal (VirtualTerminalError)

/-- The `SessionError`s of a session that was started. -/
inductive SessionEndError
  | authenticatedSessionFailed
  | workerIoFailed
  | workerProtocolFailed
  deriving DecidableEq, Repr

inductive EscalationEligibility
  | eligible (cause : TerminationCause) (leaderExit : Option LeaderExit)
  | infrastructureFailure (cause : TerminationCause) (leaderExit : Option LeaderExit)
      (error : GracefulTerminationError)
  | recoveryRequired (cause : TerminationCause) (leaderExit : Option LeaderExit)
      (reason : RecoveryReason)
  deriving DecidableEq, Repr

inductive GracefulFinalizationDecision
  | finalizeCooperative (proof : BoundaryEmptyProof)
  | needsEscalation (eligibility : EscalationEligibility)
  | recoveryRequired (cause : TerminationCause) (leaderExit : Option LeaderExit)
      (reason : RecoveryReason)
  deriving DecidableEq, Repr

inductive ForcedTerminationStage
  | eligibility | preKillValidation | kill | postKillValidation | leaderReap | boundaryObservation
  | emptyProof
  deriving DecidableEq, Repr

inductive ForcedTerminationError
  | scopeOperation (error : PayloadScopeError)
  | timer
  | poll
  | leaderReap
  | signal
  | control
  | boundaryObserver
  deriving DecidableEq, Repr

inductive ForcedTerminationOutcome
  | boundaryEmpty (proof : BoundaryEmptyProof) (leaderExit : LeaderExit)
  | forcedDeadlineExpired (cause : TerminationCause) (leaderExit : Option LeaderExit)
  | infrastructureFailure (cause : TerminationCause) (leaderExit : Option LeaderExit)
      (stage : ForcedTerminationStage) (error : ForcedTerminationError)
  | recoveryRequired (cause : TerminationCause) (leaderExit : Option LeaderExit)
      (reason : RecoveryReason)
  deriving DecidableEq, Repr

/-- What the worker reports about its terminal, under its id, its pid and its nonce. -/
inductive TerminalReport
  | intent (workerId : String) (workerPid : Nat) (nonce : String) (identity : PayloadScopeIdentity)
  | result (workerId : String) (workerPid : Nat) (nonce : String) (attemptId : Nat)
      (result : TerminalVtCleanupResult)
  deriving DecidableEq, Repr

inductive TerminalAcknowledgement
  | intentAcknowledged (workerId : String) (workerPid : Nat) (nonce : String) (attemptId : Nat)
  | resultAcknowledged (workerId : String) (workerPid : Nat) (nonce : String) (attemptId : Nat)
  | other
  deriving DecidableEq, Repr

/-- What `poll` reports about the descriptors of the forced wait. -/
structure ForcedWakeup where
  poll : PollResult := .ready
  leader : Bool := false
  observer : Bool := false
  signals : Bool := false
  listener : Bool := false
  timer : Bool := false
  deriving DecidableEq, Repr

/-- The calls on the payload scope, on the descriptors of the forced wait, on PAM, on the terminal and
on the supervisor's channel. -/
inductive SessionCall
  | scope (operation : ScopeOperation)
  | proveEmptyBoundary (leaderExit : LeaderExit)
  | boundaryAppearsTerminal
  | newTimer
  | armTimer
  | signalFd
  | authoritativePidfd
  | poll
  | pollChild
  | consumeWakeup
  | readSignal
  | accept
  | consumeDeadline
  | closeSession
  | dropTransaction
  | releaseTerminal
  | supervisorChannelIsClosed
  | duplicateSupervisorChannel
  | writeControlRequest (report : TerminalReport)
  | setReadTimeout
  | readControlRequest
  deriving DecidableEq, Repr

abbrev SessionCall.Answer : SessionCall → Type
  | scope _ => Except PayloadScopeError Unit
  | proveEmptyBoundary _ => Except PayloadScopeError BoundaryEmptyProof
  | boundaryAppearsTerminal => Except PayloadScopeError Bool
  | newTimer => Bool
  | armTimer => Bool
  | signalFd => Bool
  | authoritativePidfd => Bool
  | poll => ForcedWakeup
  | pollChild => Except Unit (Option ExitStatus)
  | consumeWakeup => Bool
  | readSignal => Except Unit (Option Int)
  | accept => ControlAccept
  | consumeDeadline => Except Unit Bool
  | closeSession => Bool
  | dropTransaction => Unit
  | releaseTerminal => Except VirtualTerminalError Unit
  | supervisorChannelIsClosed => Bool
  | duplicateSupervisorChannel => Except SessionEndError Unit
  | writeControlRequest _ => Except SessionEndError Unit
  | setReadTimeout => Bool
  | readControlRequest => Except SessionEndError (Nat × TerminalAcknowledgement)

abbrev Ending := Calls SessionCall SessionCall.Answer

/-- The errors that mean recovery at every step of the way. -/
def recoveryReason : PayloadScopeError → Option RecoveryReason
  | .unitReplaced => some .boundaryIdentityChanged
  | .workerInsideBoundary | .invalidIdentity | .cgroupMismatch | .invalidMembership =>
    some .boundaryIdentityUnproven
  | _ => none

section Decision
variable {ε : Type}

def eligibilityAfterIdentityValidation (cause : TerminationCause) (leaderExit : Option LeaderExit) :
    Ending ε GracefulFinalizationDecision := do
  let validated : Except PayloadScopeError Unit ←
    Calls.ask (SessionCall.scope .validateForcedTerminationEligibility)
  match validated with
  | .ok () => pure (.needsEscalation (.eligible cause leaderExit))
  | .error error =>
    match recoveryReason error with
    | some reason => pure (.needsEscalation (.recoveryRequired cause leaderExit reason))
    | none =>
      pure (.needsEscalation (.infrastructureFailure cause leaderExit (.scopeOperation error)))

def consumeGracefulOutcome : GracefulTerminationOutcome → Ending ε GracefulFinalizationDecision
  | .boundaryTerminalCandidate cause (some leaderExit) => do
    let proved : Except PayloadScopeError BoundaryEmptyProof ←
      Calls.ask (SessionCall.proveEmptyBoundary leaderExit)
    match proved with
    | .ok proof => pure (.finalizeCooperative proof)
    | .error .boundaryNotEmpty | .error .unitNotTerminal =>
      eligibilityAfterIdentityValidation cause (some leaderExit)
    | .error error =>
      match recoveryReason error with
      | some reason => pure (.recoveryRequired cause (some leaderExit) reason)
      | none => pure (.needsEscalation
          (.infrastructureFailure cause (some leaderExit) (.scopeOperation error)))
  | .boundaryTerminalCandidate cause none => eligibilityAfterIdentityValidation cause none
  | .deadlineExpired cause leaderExit => eligibilityAfterIdentityValidation cause leaderExit
  | .infrastructureFailure cause leaderExit error =>
    pure (.needsEscalation (.infrastructureFailure cause leaderExit error))
  | .recoveryRequired cause leaderExit reason => pure (.recoveryRequired cause leaderExit reason)

end Decision

structure ForcedTerminationCoordinator where
  cause : TerminationCause
  leaderExit : Option LeaderExit
  killAttempted : Bool := false
  deriving DecidableEq, Repr

namespace ForcedTerminationCoordinator
variable {ε : Type}

def recordLeaderExit (c : ForcedTerminationCoordinator) (exit : LeaderExit) :
    ForcedTerminationCoordinator :=
  if c.leaderExit = none then { c with leaderExit := some exit } else c

def boundaryEmpty (proof : BoundaryEmptyProof) : ForcedTerminationOutcome :=
  .boundaryEmpty proof proof.leaderExit

def deadlineExpired (c : ForcedTerminationCoordinator) : ForcedTerminationOutcome :=
  .forcedDeadlineExpired c.cause c.leaderExit

def infrastructure (c : ForcedTerminationCoordinator) (stage : ForcedTerminationStage)
    (error : ForcedTerminationError) : ForcedTerminationOutcome :=
  .infrastructureFailure c.cause c.leaderExit stage error

def scopeError (c : ForcedTerminationCoordinator) (stage : ForcedTerminationStage)
    (error : PayloadScopeError) : ForcedTerminationOutcome :=
  match recoveryReason error with
  | some reason => .recoveryRequired c.cause c.leaderExit reason
  | none => c.infrastructure stage (.scopeOperation error)

/-- `map_err(|error| self.scope_error(stage, error))?` -/
def checked (c : ForcedTerminationCoordinator) (stage : ForcedTerminationStage)
    (operation : ScopeOperation) : Ending ForcedTerminationOutcome Unit := do
  let answer : Except PayloadScopeError Unit ← Calls.ask (SessionCall.scope operation)
  match answer with
  | .ok () => pure ()
  | .error error => Calls.fail (c.scopeError stage error)

def begin (c : ForcedTerminationCoordinator) :
    Ending ForcedTerminationOutcome ForcedTerminationCoordinator := do
  if c.killAttempted then
    Calls.fail (c.infrastructure .kill (.scopeOperation .invalidIdentity))
  else
    c.checked .preKillValidation .validateForcedTerminationEligibility
    c.checked .boundaryObservation .createBoundaryObserver
    let c := { c with killAttempted := true }
    c.checked .kill .requestForcedTermination
    c.checked .postKillValidation .validateForcedTerminationPostKill
    let armed : Bool ← Calls.ask SessionCall.armTimer
    if armed then pure c else Calls.fail (c.infrastructure .kill .timer)

end ForcedTerminationCoordinator

/-- The proof, for a leader that was reaped. It goes on where there is none yet, and else fails with the
outcome. -/
def attemptEmptyProof (c : ForcedTerminationCoordinator) : Ending ForcedTerminationOutcome Unit :=
  match c.leaderExit with
  | none => pure ()
  | some leaderExit => do
    let proved : Except PayloadScopeError BoundaryEmptyProof ←
      Calls.ask (SessionCall.proveEmptyBoundary leaderExit)
    match proved with
    | .ok proof => Calls.fail (ForcedTerminationCoordinator.boundaryEmpty proof)
    | .error .boundaryNotEmpty | .error .unitNotTerminal => pure ()
    | .error error => Calls.fail (c.scopeError .emptyProof error)

def tryForcedEmptyProof (c : ForcedTerminationCoordinator) : Ending ForcedTerminationOutcome Unit := do
  let terminal : Except PayloadScopeError Bool ← Calls.ask SessionCall.boundaryAppearsTerminal
  match terminal with
  -- after a kill, a unit that is gone is left to the proof
  | .ok true | .error .invocationUnavailable => attemptEmptyProof c
  | .ok false => pure ()
  | .error error => Calls.fail (c.scopeError .boundaryObservation error)

abbrev ForcedWaitContext := SessionWaitContext

/-- The coordinator and `leader_reaped`, which the loop carries from one poll to the next. -/
structure ForcedWait where
  coordinator : ForcedTerminationCoordinator
  leaderReaped : Bool
  deriving DecidableEq, Repr

namespace ForcedWait

def observing (s : ForcedWait) (error : ForcedTerminationError) : ForcedTerminationOutcome :=
  s.coordinator.infrastructure .boundaryObservation error

def reapLeader (s : ForcedWait) (w : ForcedWakeup) : Ending ForcedTerminationOutcome ForcedWait := do
  if w.leader && !s.leaderReaped then
    let reaped : Except Unit (Option ExitStatus) ← Calls.ask SessionCall.pollChild
    match reaped with
    | .ok none | .error () => Calls.fail (s.coordinator.infrastructure .leaderReap .leaderReap)
    | .ok (some status) =>
      let coordinator := s.coordinator.recordLeaderExit (.fromStatus status)
      tryForcedEmptyProof coordinator
      pure { coordinator, leaderReaped := true }
  else pure s

def observeBoundary (s : ForcedWait) (w : ForcedWakeup) : Ending ForcedTerminationOutcome Unit := do
  if w.observer then
    let consumed : Bool ← Calls.ask SessionCall.consumeWakeup
    if consumed then tryForcedEmptyProof s.coordinator
    else Calls.fail (s.observing .boundaryObserver)
  else pure ()

/-- One turn of the loop over the signal descriptor, which is left with an outcome or with none. -/
def drainSignal (s : ForcedWait) (_ : Unit) : Ending (Option ForcedTerminationOutcome) Unit := do
  let signal : Except Unit (Option Int) ← Calls.ask SessionCall.readSignal
  match signal with
  | .error () => Calls.fail (some (s.observing .signal))
  | .ok none => Calls.fail none
  | .ok (some signal) =>
    match WorkerTerminationSignal.fromRaw signal with
    | none => Calls.fail (some (s.observing .signal))
    | some _ => pure ()

end ForcedWait

/-- How the forced wait is left: with its outcome, or not in the turns that were taken. -/
inductive Left
  | outcome (outcome : ForcedTerminationOutcome)
  | stillWaiting
  deriving DecidableEq, Repr

/-- A part of the loop's body that fails with an outcome. -/
def orLeave {α : Type} (p : Ending ForcedTerminationOutcome α) : Ending Left α :=
  p.handle fun
    | .ok a => pure a
    | .error outcome => Calls.fail (.outcome outcome)

namespace ForcedWait

def drainSignals (turns : Nat) (s : ForcedWait) (w : ForcedWakeup) : Ending Left Unit :=
  if w.signals then
    (Calls.iterate s.drainSignal turns ()).handle fun
      | .error none => pure ()
      | .error (some outcome) => Calls.fail (.outcome outcome)
      | .ok () => Calls.fail .stillWaiting
  else pure ()

/-- A peer of another user is not answered; a request that is not the session's own termination ends
the wait. -/
def acceptControl (ctx : ForcedWaitContext) (s : ForcedWait) (w : ForcedWakeup) :
    Ending ForcedTerminationOutcome Unit := do
  if w.listener then
    if !ctx.hasListener then Calls.fail (s.observing .control)
    else
      let accepted : ControlAccept ← Calls.ask SessionCall.accept
      match accepted with
      | .wouldBlock => pure ()
      | .failed => Calls.fail (s.observing .control)
      | .accepted peerUid request =>
        if peerUid ≠ some ctx.expectedControlUid then pure ()
        else
          match request with
          | .error () => Calls.fail (s.observing .control)
          | .ok request =>
            match request.message with
            | .terminate workerId workerPid sessionPid sessionPgid =>
              if request.version = workerControlProtocolVersion ∧ workerId = ctx.workerId ∧
                  workerPid = ctx.workerPid ∧ sessionPid = ctx.sessionPid ∧
                  sessionPgid = ctx.sessionPgid then
                pure ()
              else Calls.fail (s.observing .control)
            | .payloadScopeRegistered | .other => Calls.fail (s.observing .control)
  else pure ()

/-- A proof that is there in the same turn wins over the deadline. -/
def checkDeadline (s : ForcedWait) (w : ForcedWakeup) : Ending ForcedTerminationOutcome Unit := do
  if w.timer then
    let expired : Except Unit Bool ← Calls.ask SessionCall.consumeDeadline
    match expired with
    | .error () => Calls.fail (s.observing .timer)
    | .ok false => pure ()
    | .ok true =>
      tryForcedEmptyProof s.coordinator
      Calls.fail s.coordinator.deadlineExpired
  else pure ()

def pollCycle (turns : Nat) (ctx : ForcedWaitContext) (s : ForcedWait) : Ending Left ForcedWait := do
  let w : ForcedWakeup ← Calls.ask SessionCall.poll
  match w.poll with
  | .interrupted => pure s
  | .failed => Calls.fail (.outcome (s.observing .poll))
  | .ready =>
    let s ← orLeave (s.reapLeader w)
    orLeave (s.observeBoundary w)
    s.drainSignals turns w
    orLeave (s.acceptControl ctx w)
    orLeave (s.checkDeadline w)
    pure s

end ForcedWait

def startForcedCleanup (cause : TerminationCause) (leaderExit : Option LeaderExit) :
    Ending ForcedTerminationOutcome ForcedWait := do
  let timer : Bool ← Calls.ask SessionCall.newTimer
  if !timer then Calls.fail (.infrastructureFailure .runtimeFailure none .eligibility .timer)
  else
    let c : ForcedTerminationCoordinator := { cause, leaderExit }
    let signalFd : Bool ← Calls.ask SessionCall.signalFd
    let pidfd : Bool ← Calls.ask SessionCall.authoritativePidfd
    if !signalFd || c.leaderExit = none && !pidfd then
      Calls.fail (c.infrastructure .eligibility .leaderReap)
    else
      let c ← c.begin
      tryForcedEmptyProof c
      pure { coordinator := c, leaderReaped := c.leaderExit.isSome }

/-- `wait_for_forced_cleanup`, as far as so many turns of its loops go. -/
def waitForForcedCleanup (turns : Nat) (ctx : ForcedWaitContext) (cause : TerminationCause)
    (leaderExit : Option LeaderExit) : Ending Left ForcedWait := do
  let s ← orLeave (startForcedCleanup cause leaderExit)
  Calls.iterate (ForcedWait.pollCycle turns ctx) turns s

/-- What gives back the pin, the PAM session or the terminal. -/
def SessionCall.isRelease : SessionCall → Bool
  | scope .releasePin | closeSession | dropTransaction | releaseTerminal => true
  | _ => false

abbrev SessionLog := List (Sigma SessionCall.Answer)

/-- The exit is the one that the graceful wait has ended with, or else the one that was reaped since. -/
def Reaped (known : Option LeaderExit) (log : SessionLog) (exit : LeaderExit) : Prop :=
  known = some exit ∨
    known = none ∧ ∃ status, ⟨.pollChild, .ok (some status)⟩ ∈ log ∧ exit = .fromStatus status

def Proved (log : SessionLog) : Prop :=
  ∃ exit proof, ⟨.proveEmptyBoundary exit, .ok proof⟩ ∈ log

/-- The supervisor has acknowledged the intent of the worker. -/
def Acknowledged (log : SessionLog) (workerId : String) (workerPid : Nat) (nonce : String)
    (attemptId : Nat) : Prop :=
  ⟨.readControlRequest, .ok (workerControlProtocolVersion,
    .intentAcknowledged workerId workerPid nonce attemptId)⟩ ∈ log

/-- How the terminal was given back, where the worker reports `result`. -/
def releaseAnswer : TerminalVtCleanupResult → Except VirtualTerminalError Unit
  | .released => .ok ()
  | .vtDisallocateBusy => .error (.cleanupOperationFailed "disallocate" ebusy)

/-- What a session's end may call after the calls `before`. -/
structure Justified (known : Option LeaderExit) (before : SessionLog) (x : Sigma SessionCall.Answer) :
    Prop where
  kill : x.1 = .scope .requestForcedTermination →
    (∀ y ∈ before, y.1 ≠ .scope .requestForcedTermination) ∧
      ∃ earlier, before = earlier ++
        [⟨.scope .validateForcedTerminationEligibility, .ok ()⟩,
          ⟨.scope .createBoundaryObserver, .ok ()⟩]
  proof : ∀ exit, x.1 = .proveEmptyBoundary exit → Reaped known before exit
  release : x.1.isRelease = true → Proved before
  report : ∀ workerId workerPid nonce attemptId result,
    x.1 = .writeControlRequest (.result workerId workerPid nonce attemptId result) →
      ∃ earlier, before = earlier ++ [⟨.releaseTerminal, releaseAnswer result⟩] ∧
        Acknowledged earlier workerId workerPid nonce attemptId

def SessionCall.isCritical : SessionCall → Bool
  | scope .requestForcedTermination => true
  | proveEmptyBoundary _ => true
  | writeControlRequest (.result _ _ _ _ _) => true
  | q => q.isRelease

def Unreleased (log : SessionLog) : Prop := ∀ x ∈ log, x.1.isRelease = false

def Unreaped (log : SessionLog) : Prop := ∀ status, ⟨.pollChild, .ok (some status)⟩ ∉ log

def Unkilled (log : SessionLog) : Prop := ∀ x ∈ log, x.1 ≠ .scope .requestForcedTermination

section Scope
open Calls
variable {known : Option LeaderExit} {log tail : SessionLog} {x : Sigma SessionCall.Answer}
  {c : ForcedTerminationCoordinator}

theorem isCritical_of_isRelease {q : SessionCall} (h : q.isRelease = true) : q.isCritical = true := by
  unfold SessionCall.isCritical
  split
  · rfl
  · rfl
  · rfl
  · exact h

theorem justified_of_uncritical {q : SessionCall} {answer : q.Answer} (h : q.isCritical = false) :
    Justified known log ⟨q, answer⟩ where
  kill hq := by
    cases hq
    cases h
  proof exit hq := by
    cases hq
    cases h
  release hq := by
    rw [isCritical_of_isRelease hq] at h
    cases h
  report _ _ _ _ _ hq := by
    cases hq
    cases h

theorem unreleased_append : Unreleased (log ++ tail) ↔ Unreleased log ∧ Unreleased tail := by
  unfold Unreleased
  exact List.forall_mem_append

theorem unkilled_append : Unkilled (log ++ tail) ↔ Unkilled log ∧ Unkilled tail := by
  unfold Unkilled
  exact List.forall_mem_append

theorem unreaped_append : Unreaped (log ++ tail) ↔ Unreaped log ∧ Unreaped tail := by
  simp [Unreaped, forall_and]

theorem Reaped.append {exit : LeaderExit} (h : Reaped known log exit) (tail : SessionLog) :
    Reaped known (log ++ tail) exit := by
  rcases h with h | ⟨h, status, hmem, hexit⟩
  · exact Or.inl h
  · exact Or.inr ⟨h, status, List.mem_append_left _ hmem, hexit⟩

def Looks (log : SessionLog) : Prop :=
  ∀ x ∈ log, x.1 = .boundaryAppearsTerminal ∨ ∃ exit, x.1 = .proveEmptyBoundary exit

theorem Looks.unreleased (h : Looks tail) : Unreleased tail := by
  intro x hx
  rcases h x hx with hq | ⟨exit, hq⟩
  · rw [hq]
    rfl
  · rw [hq]
    rfl

theorem Looks.unreaped (h : Looks tail) : Unreaped tail := by
  intro status hx
  rcases h _ hx with hq | ⟨exit, hq⟩
  · cases hq
  · cases hq

/-- No leader was reaped, or the proof says that the boundary is not empty yet. -/
def NotYet (c : ForcedTerminationCoordinator) (tail : SessionLog) : Prop :=
  c.leaderExit = none ∧ tail = [] ∨
    ∃ exit error, c.leaderExit = some exit ∧ (error = .boundaryNotEmpty ∨ error = .unitNotTerminal) ∧
      tail = [⟨.proveEmptyBoundary exit, .error error⟩]

def NoProof (c : ForcedTerminationCoordinator) (tail : SessionLog) : Prop :=
  tail = [⟨.boundaryAppearsTerminal, .ok false⟩] ∨
    ∃ terminal rest, tail = ⟨.boundaryAppearsTerminal, terminal⟩ :: rest ∧
      (terminal = .ok true ∨ terminal = .error .invocationUnavailable) ∧ NotYet c rest

/-- An outcome other than the expiry of the deadline; an empty boundary was proved. -/
def Concluded (outcome : ForcedTerminationOutcome) (log : SessionLog) : Prop :=
  (∀ proof exit, outcome = .boundaryEmpty proof exit → Proved log) ∧
    ∀ cause exit, outcome ≠ .forcedDeadlineExpired cause exit

theorem concluded_infrastructure (c : ForcedTerminationCoordinator) (stage : ForcedTerminationStage)
    (error : ForcedTerminationError) : Concluded (c.infrastructure stage error) log :=
  ⟨by simp [ForcedTerminationCoordinator.infrastructure],
    by simp [ForcedTerminationCoordinator.infrastructure]⟩

theorem concluded_scopeError (c : ForcedTerminationCoordinator) (stage : ForcedTerminationStage)
    (error : PayloadScopeError) : Concluded (c.scopeError stage error) log := by
  unfold ForcedTerminationCoordinator.scopeError
  split
  · exact ⟨by simp, by simp⟩
  · exact concluded_infrastructure c stage _

theorem sat_attemptEmptyProof
    (hexit : ∀ exit, c.leaderExit = some exit → Reaped known log exit) :
    (attemptEmptyProof c).Sat (Justified known) log fun r log' =>
      ∃ tail, log' = log ++ tail ∧ Looks tail ∧ (r = .ok () → NotYet c tail) ∧
        ∀ outcome, r = .error outcome → Concluded outcome log' := by
  unfold attemptEmptyProof
  cases hleader : c.leaderExit with
  | none => exact ⟨[], by simp, by simp [Looks], fun _ => Or.inl ⟨hleader, rfl⟩, by simp⟩
  | some exit =>
    dsimp only
    rw [sat_ask_bind]
    intro proved
    refine ⟨⟨by simp, fun e he => ?_, by simp [SessionCall.isRelease], by simp⟩, ?_⟩
    · rw [← SessionCall.proveEmptyBoundary.inj he]
      exact hexit exit hleader
    have hlooks : Looks [⟨.proveEmptyBoundary exit, proved⟩] := by
      intro x hx
      rw [List.mem_singleton.mp hx]
      exact Or.inr ⟨exit, rfl⟩
    cases proved with
    | ok proof =>
      refine ⟨_, rfl, hlooks, by simp, fun outcome ho => ?_⟩
      obtain rfl := Except.error.inj ho
      exact ⟨fun _ _ _ => ⟨exit, proof, by simp⟩,
        by simp [ForcedTerminationCoordinator.boundaryEmpty]⟩
    | error error =>
      cases error with
      | boundaryNotEmpty =>
        exact ⟨_, rfl, hlooks, fun _ => Or.inr ⟨exit, _, hleader, Or.inl rfl, rfl⟩, by simp⟩
      | unitNotTerminal =>
        exact ⟨_, rfl, hlooks, fun _ => Or.inr ⟨exit, _, hleader, Or.inr rfl, rfl⟩, by simp⟩
      | _ =>
        refine ⟨_, rfl, hlooks, by simp, fun outcome ho => ?_⟩
        obtain rfl := Except.error.inj ho
        exact concluded_scopeError c .emptyProof _

theorem sat_tryForcedEmptyProof
    (hexit : ∀ exit, c.leaderExit = some exit → Reaped known log exit) :
    (tryForcedEmptyProof c).Sat (Justified known) log fun r log' =>
      ∃ tail, log' = log ++ tail ∧ Looks tail ∧ (r = .ok () → NoProof c tail) ∧
        ∀ outcome, r = .error outcome → Concluded outcome log' := by
  rw [tryForcedEmptyProof, sat_ask_bind]
  intro terminal
  refine ⟨justified_of_uncritical rfl, ?_⟩
  have hlook : Looks [⟨.boundaryAppearsTerminal, terminal⟩] := by
    intro x hx
    rw [List.mem_singleton.mp hx]
    exact Or.inl rfl
  -- the two answers after which the proof is tried
  have htry : terminal = .ok true ∨ terminal = .error .invocationUnavailable →
      (attemptEmptyProof c).Sat (Justified known) (log ++ [⟨.boundaryAppearsTerminal, terminal⟩])
        fun r log' => ∃ tail, log' = log ++ tail ∧ Looks tail ∧ (r = .ok () → NoProof c tail) ∧
          ∀ outcome, r = .error outcome → Concluded outcome log' := by
    intro hterminal
    refine (sat_attemptEmptyProof fun exit he => (hexit exit he).append _).mono ?_
    rintro r _ ⟨tail, rfl, hlooks, hnotyet, hconcluded⟩
    refine ⟨⟨.boundaryAppearsTerminal, terminal⟩ :: tail, by simp, ?_, fun hok => ?_, hconcluded⟩
    · exact List.forall_mem_cons.mpr ⟨Or.inl rfl, hlooks⟩
    · exact Or.inr ⟨terminal, tail, rfl, hterminal, hnotyet hok⟩
  cases terminal with
  | ok terminal =>
    cases terminal with
    | true => exact htry (Or.inl rfl)
    | false => exact ⟨_, rfl, hlook, fun _ => Or.inl rfl, by simp⟩
  | error error =>
    cases error with
    | invocationUnavailable => exact htry (Or.inr rfl)
    | _ =>
      refine ⟨_, rfl, hlook, by simp, fun outcome ho => ?_⟩
      obtain rfl := Except.error.inj ho
      exact concluded_scopeError c .boundaryObservation _

theorem sat_checked (stage : ForcedTerminationStage) {operation : ScopeOperation}
    (h : ∀ answer, Justified known log ⟨.scope operation, answer⟩) :
    (c.checked stage operation).Sat (Justified known) log fun r log' =>
      ∃ answer, log' = log ++ [⟨.scope operation, answer⟩] ∧ (r = .ok () → answer = .ok ()) ∧
        ∀ outcome, r = .error outcome → Concluded outcome log' := by
  rw [ForcedTerminationCoordinator.checked, sat_ask_bind]
  intro answer
  refine ⟨h answer, ?_⟩
  cases answer with
  | ok _ => exact ⟨_, rfl, fun _ => rfl, by simp⟩
  | error error =>
    refine ⟨_, rfl, by simp, fun outcome ho => ?_⟩
    rw [← Except.error.inj ho]
    exact concluded_scopeError c stage error

/-- What the start of the forced termination adds to the log. -/
def Begun (c : ForcedTerminationCoordinator) (log : SessionLog)
    (r : Except ForcedTerminationOutcome ForcedTerminationCoordinator) (log' : SessionLog) : Prop :=
  ∃ tail, log' = log ++ tail ∧ Unreleased tail ∧ Unreaped tail ∧
    (∀ c', r = .ok c' → c'.leaderExit = c.leaderExit) ∧
    ∀ outcome, r = .error outcome → Concluded outcome log'

theorem begun_of_concluded {outcome : ForcedTerminationOutcome} (hreleased : Unreleased tail)
    (hreaped : Unreaped tail) (h : Concluded outcome (log ++ tail)) :
    Begun c log (.error outcome) (log ++ tail) := by
  refine ⟨tail, rfl, hreleased, hreaped, by simp, fun outcome' ho => ?_⟩
  rwa [← Except.error.inj ho]

theorem sat_begin (hunkilled : Unkilled log) :
    c.begin.Sat (Justified known) log (Begun c log) := by
  unfold ForcedTerminationCoordinator.begin
  split
  · refine ⟨[], by simp, by simp [Unreleased], by simp [Unreaped], by simp, fun outcome ho => ?_⟩
    rw [← Except.error.inj ho]
    exact concluded_infrastructure c .kill _
  refine (sat_checked _ fun _ => justified_of_uncritical rfl).bind (fun _ log₁ h₁ => ?_) ?_
  · obtain ⟨answer, rfl, hanswer, -⟩ := h₁
    obtain rfl := hanswer rfl
    refine (sat_checked _ fun _ => justified_of_uncritical rfl).bind (fun _ log₂ h₂ => ?_) ?_
    · obtain ⟨answer, rfl, hanswer, -⟩ := h₂
      obtain rfl := hanswer rfl
      rw [List.append_assoc]
      -- the third operation is the kill, and none stands in the log before it
      refine (sat_checked _ fun _ => ⟨fun _ => ⟨?_, log, rfl⟩, by simp,
        by simp [SessionCall.isRelease], by simp⟩).bind (fun _ log₃ h₃ => ?_) ?_
      · exact unkilled_append.mpr ⟨hunkilled, by simp [Unkilled]⟩
      · obtain ⟨_, rfl, -, -⟩ := h₃
        rw [List.append_assoc]
        refine (sat_checked _ fun _ => justified_of_uncritical rfl).bind (fun _ log₄ h₄ => ?_) ?_
        · obtain ⟨_, rfl, -, -⟩ := h₄
          rw [sat_ask_bind, List.append_assoc]
          intro armed
          refine ⟨justified_of_uncritical rfl, ?_⟩
          rw [List.append_assoc]
          cases armed with
          | true =>
            exact ⟨_, rfl, by simp [Unreleased, SessionCall.isRelease], by simp [Unreaped],
              fun c' hc' => by rw [← Except.ok.inj hc'], by simp⟩
          | false =>
            exact begun_of_concluded (by simp [Unreleased, SessionCall.isRelease])
              (by simp [Unreaped]) (concluded_infrastructure _ .kill .timer)
        · rintro outcome _ ⟨_, rfl, -, hconcluded⟩
          rw [List.append_assoc] at hconcluded ⊢
          exact begun_of_concluded (by simp [Unreleased, SessionCall.isRelease])
            (by simp [Unreaped]) (hconcluded _ rfl)
      · rintro outcome _ ⟨_, rfl, -, hconcluded⟩
        rw [List.append_assoc] at hconcluded ⊢
        exact begun_of_concluded (by simp [Unreleased, SessionCall.isRelease]) (by simp [Unreaped])
          (hconcluded _ rfl)
    · rintro outcome _ ⟨_, rfl, -, hconcluded⟩
      rw [List.append_assoc] at hconcluded ⊢
      exact begun_of_concluded (by simp [Unreleased, SessionCall.isRelease]) (by simp [Unreaped])
        (hconcluded _ rfl)
  · rintro outcome _ ⟨_, rfl, -, hconcluded⟩
    exact begun_of_concluded (by simp [Unreleased, SessionCall.isRelease]) (by simp [Unreaped])
      (hconcluded _ rfl)

end Scope

structure ForcedWait.Sound (known : Option LeaderExit) (s : ForcedWait) (log : SessionLog) :
    Prop where
  unreleased : Unreleased log
  exit : ∀ exit, s.coordinator.leaderExit = some exit → Reaped known log exit
  reaped : s.leaderReaped = s.coordinator.leaderExit.isSome
  unreaped : s.coordinator.leaderExit = none → known = none ∧ Unreaped log

/-- The deadline passed, and in the same turn the scope was looked at and there was no proof. -/
def DeadlineMissed (known : Option LeaderExit) (log : SessionLog) : Prop :=
  ∃ (s : ForcedWait) (earlier tail : SessionLog), log = earlier ++ ⟨.consumeDeadline, .ok true⟩ :: tail ∧
    s.Sound known earlier ∧ NoProof s.coordinator tail

/-- What the log says when the wait ends with an outcome. -/
structure Ended (known : Option LeaderExit) (outcome : ForcedTerminationOutcome) (log : SessionLog) :
    Prop where
  unreleased : Unreleased log
  proved : ∀ proof exit, outcome = .boundaryEmpty proof exit → Proved log
  deadline : ∀ cause exit, outcome = .forcedDeadlineExpired cause exit → DeadlineMissed known log

theorem Concluded.ended {known : Option LeaderExit} {outcome : ForcedTerminationOutcome}
    {log : SessionLog} (h : Concluded outcome log) (hlog : Unreleased log) :
    Ended known outcome log where
  unreleased := hlog
  proved := h.1
  deadline cause exit ho := absurd ho (h.2 cause exit)

/-- A part of the loop's body goes on soundly, or ends the wait. -/
def Goes (known : Option LeaderExit) {α : Type} (next : α → ForcedWait)
    (r : Except ForcedTerminationOutcome α) (log : SessionLog) : Prop :=
  (∀ a, r = .ok a → (next a).Sound known log) ∧ ∀ outcome, r = .error outcome → Ended known outcome log

namespace ForcedWait
open Calls
variable {known : Option LeaderExit} {log : SessionLog} {s : ForcedWait}

theorem Sound.append (h : s.Sound known log) {tail : SessionLog} (hreleased : Unreleased tail)
    (hreaped : Unreaped tail) : s.Sound known (log ++ tail) where
  unreleased := unreleased_append.mpr ⟨h.unreleased, hreleased⟩
  exit exit he := (h.exit exit he).append tail
  reaped := h.reaped
  unreaped hnone := ⟨(h.unreaped hnone).1, unreaped_append.mpr ⟨(h.unreaped hnone).2, hreaped⟩⟩

theorem Sound.concat (h : s.Sound known log) {x : Sigma SessionCall.Answer}
    (hreleased : x.1.isRelease = false) (hreaped : x.1 ≠ .pollChild) :
    s.Sound known (log ++ [x]) := by
  refine h.append ?_ fun status hx => hreaped ?_
  · intro y hy
    rwa [List.mem_singleton.mp hy]
  · rw [← List.mem_singleton.mp hx]

theorem goes_ok {α : Type} {next : α → ForcedWait} {a : α} (h : (next a).Sound known log) :
    Goes known next (.ok a) log :=
  ⟨fun a' ha => by rwa [← Except.ok.inj ha], by simp⟩

theorem goes_infrastructure {α : Type} {next : α → ForcedWait} (h : s.Sound known log)
    (stage : ForcedTerminationStage) (error : ForcedTerminationError) :
    Goes known next (.error (s.coordinator.infrastructure stage error)) log := by
  refine ⟨by simp, fun outcome ho => ?_⟩
  rw [← Except.error.inj ho]
  exact (concluded_infrastructure _ stage error).ended h.unreleased

theorem sat_tryProof (h : s.Sound known log) :
    (tryForcedEmptyProof s.coordinator).Sat (Justified known) log (Goes known fun _ => s) := by
  refine (sat_tryForcedEmptyProof h.exit).mono ?_
  rintro r _ ⟨tail, rfl, hlooks, -, hconcluded⟩
  have hsound := h.append hlooks.unreleased hlooks.unreaped
  exact ⟨fun _ _ => hsound, fun outcome ho => (hconcluded outcome ho).ended hsound.unreleased⟩

theorem sat_reapLeader (h : s.Sound known log) (w : ForcedWakeup) :
    (s.reapLeader w).Sat (Justified known) log (Goes known id) := by
  unfold reapLeader
  split
  next hleader =>
    rw [sat_ask_bind]
    intro reaped
    refine ⟨justified_of_uncritical rfl, ?_⟩
    have hnone : s.coordinator.leaderExit = none := by
      have hreaped := h.reaped
      rw [Bool.and_eq_true, Bool.not_eq_true'] at hleader
      rw [hleader.2] at hreaped
      exact Option.isNone_iff_eq_none.mp (by simpa using hreaped.symm)
    have hreleased : Unreleased (log ++ [⟨.pollChild, reaped⟩]) :=
      unreleased_append.mpr ⟨h.unreleased, by simp [Unreleased, SessionCall.isRelease]⟩
    have hfailed : Goes known id (.error (s.coordinator.infrastructure .leaderReap .leaderReap))
        (log ++ [⟨.pollChild, reaped⟩]) := by
      refine ⟨by simp, fun outcome ho => ?_⟩
      rw [← Except.error.inj ho]
      exact (concluded_infrastructure _ _ _).ended hreleased
    cases reaped with
    | error _ => exact hfailed
    | ok status =>
      cases status with
      | none => exact hfailed
      | some status =>
        dsimp only
        have hrecord : s.coordinator.recordLeaderExit (.fromStatus status) =
            { s.coordinator with leaderExit := some (.fromStatus status) } := by
          rw [ForcedTerminationCoordinator.recordLeaderExit, if_pos hnone]
        have hsound : Sound known ⟨s.coordinator.recordLeaderExit (.fromStatus status), true⟩
            (log ++ [⟨.pollChild, .ok (some status)⟩]) := by
          rw [hrecord]
          refine ⟨hreleased, fun exit he => ?_, rfl, by simp⟩
          obtain rfl := Option.some.inj he
          exact Or.inr ⟨(h.unreaped hnone).1, status, by simp, rfl⟩
        refine (sat_tryProof hsound).bind (fun _ log' hlog' => ?_) fun outcome log' hlog' => ?_
        · exact goes_ok (hlog'.1 _ rfl)
        · exact ⟨by simp, fun o ho => hlog'.2 o (congrArg _ (Except.error.inj ho))⟩
  next => exact goes_ok h

theorem sat_observeBoundary (h : s.Sound known log) (w : ForcedWakeup) :
    (s.observeBoundary w).Sat (Justified known) log (Goes known fun _ => s) := by
  unfold observeBoundary
  split
  next =>
    rw [sat_ask_bind]
    intro consumed
    refine ⟨justified_of_uncritical rfl, ?_⟩
    have hsound : s.Sound known (log ++ [⟨.consumeWakeup, consumed⟩]) := h.concat rfl (by simp)
    cases consumed with
    | true => exact sat_tryProof hsound
    | false => exact goes_infrastructure hsound .boundaryObservation .boundaryObserver
  next => exact goes_ok h

theorem sat_acceptControl (ctx : ForcedWaitContext) (h : s.Sound known log) (w : ForcedWakeup) :
    (s.acceptControl ctx w).Sat (Justified known) log (Goes known fun _ => s) := by
  unfold acceptControl
  split
  next =>
    split
    · exact goes_infrastructure h .boundaryObservation .control
    rw [sat_ask_bind]
    intro accepted
    refine ⟨justified_of_uncritical rfl, ?_⟩
    have hsound : s.Sound known (log ++ [⟨.accept, accepted⟩]) := h.concat rfl (by simp)
    have hfailed : Goes known (fun _ : Unit => s) (.error (s.observing .control))
        (log ++ [⟨.accept, accepted⟩]) := goes_infrastructure hsound .boundaryObservation .control
    cases accepted with
    | wouldBlock => exact goes_ok hsound
    | failed => exact hfailed
    | accepted peerUid request =>
      dsimp only
      split
      · exact goes_ok hsound
      cases request with
      | error _ => exact hfailed
      | ok request =>
        dsimp only
        split
        · split
          · exact goes_ok hsound
          · exact hfailed
        · exact hfailed
        · exact hfailed
  next => exact goes_ok h

/-- The deadline ends the wait only after the proof was tried in the same turn. -/
theorem sat_checkDeadline (h : s.Sound known log) (w : ForcedWakeup) :
    (s.checkDeadline w).Sat (Justified known) log (Goes known fun _ => s) := by
  unfold checkDeadline
  split
  next =>
    rw [sat_ask_bind]
    intro expired
    refine ⟨justified_of_uncritical rfl, ?_⟩
    have hsound : s.Sound known (log ++ [⟨.consumeDeadline, expired⟩]) := h.concat rfl (by simp)
    cases expired with
    | error _ => exact goes_infrastructure hsound .boundaryObservation .timer
    | ok expired =>
      cases expired with
      | false => exact goes_ok hsound
      | true =>
        refine (sat_tryForcedEmptyProof hsound.exit).bind ?_ ?_
        · rintro _ _ ⟨tail, rfl, hlooks, hnoproof, -⟩
          refine ⟨by simp, fun outcome ho => ?_⟩
          obtain rfl := Except.error.inj ho
          refine ⟨(hsound.append hlooks.unreleased hlooks.unreaped).unreleased,
            by simp [ForcedTerminationCoordinator.deadlineExpired], fun _ _ _ => ?_⟩
          refine ⟨s, log, tail, ?_, h, hnoproof rfl⟩
          rw [List.append_assoc, List.singleton_append]
        · rintro outcome _ ⟨tail, rfl, hlooks, -, hconcluded⟩
          refine ⟨by simp, fun o ho => ?_⟩
          have hreleased := (hsound.append hlooks.unreleased hlooks.unreaped).unreleased
          exact (hconcluded o (congrArg _ (Except.error.inj ho))).ended hreleased
  next => exact goes_ok h

/-- A turn of the loop goes on soundly, ends the wait, or is not over yet. -/
def Turns (known : Option LeaderExit) {α : Type} (next : α → ForcedWait) (r : Except Left α)
    (log : SessionLog) : Prop :=
  Unreleased log ∧ (∀ a, r = .ok a → (next a).Sound known log) ∧
    ∀ outcome, r = .error (.outcome outcome) → Ended known outcome log

theorem turns_ok {α : Type} {next : α → ForcedWait} {a : α} (h : (next a).Sound known log) :
    Turns known next (.ok a) log :=
  ⟨h.unreleased, fun a' ha => by rwa [← Except.ok.inj ha], by simp⟩

theorem turns_ended {α : Type} {next : α → ForcedWait} {outcome : ForcedTerminationOutcome}
    (h : Ended known outcome log) : Turns known next (.error (.outcome outcome)) log := by
  refine ⟨h.unreleased, by simp, fun outcome' ho => ?_⟩
  rwa [← Left.outcome.inj (Except.error.inj ho)]

theorem sat_orLeave {α : Type} {next : α → ForcedWait} {p : Ending ForcedTerminationOutcome α}
    (h : p.Sat (Justified known) log (Goes known next)) :
    (orLeave p).Sat (Justified known) log (Turns known next) := by
  refine sat_handle.mpr (h.mono fun r log' hr => ?_)
  cases r with
  | ok a => exact turns_ok (hr.1 a rfl)
  | error outcome => exact turns_ended (hr.2 outcome rfl)

/-- The part of a turn that comes after one that may end the wait. -/
theorem sat_turns_bind {α β : Type} {next : α → ForcedWait} {next' : β → ForcedWait}
    {p : Ending Left α} {f : α → Ending Left β} (hp : p.Sat (Justified known) log (Turns known next))
    (hf : ∀ a log', (next a).Sound known log' →
      (f a).Sat (Justified known) log' (Turns known next')) :
    (p >>= f).Sat (Justified known) log (Turns known next') := by
  refine hp.bind (fun a log' ha => hf a log' (ha.2.1 a rfl)) fun e log' he => ?_
  exact ⟨he.1, by simp, fun outcome ho => he.2.2 outcome (congrArg _ (Except.error.inj ho))⟩

theorem sat_drainSignals (turns : Nat) (h : s.Sound known log) (w : ForcedWakeup) :
    (s.drainSignals turns w).Sat (Justified known) log (Turns known fun _ => s) := by
  unfold drainSignals
  split
  next =>
    have hloop : (iterate s.drainSignal turns ()).Sat (Justified known) log fun r log' =>
        s.Sound known log' ∧ ∀ outcome, r = .error (some outcome) → Concluded outcome log' := by
      refine Sat.iterate (fun _ log₁ h₁ => ?_) turns ⟨h, by simp⟩
      rw [drainSignal, sat_ask_bind]
      intro signal
      refine ⟨justified_of_uncritical rfl, ?_⟩
      have hsound : s.Sound known (log₁ ++ [⟨.readSignal, signal⟩]) := h₁.1.concat rfl (by simp)
      have hfailed : ∀ outcome, (.error (some (s.observing .signal)) :
          Except (Option ForcedTerminationOutcome) Unit) = .error (some outcome) →
            Concluded outcome (log₁ ++ [⟨.readSignal, signal⟩]) := by
        intro outcome ho
        rw [← Option.some.inj (Except.error.inj ho)]
        exact concluded_infrastructure _ _ _
      cases signal with
      | error _ => exact ⟨hsound, hfailed⟩
      | ok signal =>
        cases signal with
        | none => exact ⟨hsound, by simp⟩
        | some signal =>
          dsimp only
          cases WorkerTerminationSignal.fromRaw signal with
          | none => exact ⟨hsound, hfailed⟩
          | some _ => exact ⟨hsound, by simp⟩
    refine sat_handle.mpr (hloop.mono fun r log' hr => ?_)
    cases r with
    | ok _ => exact ⟨hr.1.unreleased, by simp, by simp⟩
    | error left =>
      cases left with
      | none => exact turns_ok hr.1
      | some outcome => exact turns_ended ((hr.2 outcome rfl).ended hr.1.unreleased)
  next => exact turns_ok h

theorem sat_pollCycle (turns : Nat) (ctx : ForcedWaitContext) (h : s.Sound known log) :
    (pollCycle turns ctx s).Sat (Justified known) log (Turns known id) := by
  rw [pollCycle, sat_ask_bind]
  intro w
  refine ⟨justified_of_uncritical rfl, ?_⟩
  have hsound : s.Sound known (log ++ [⟨.poll, w⟩]) := h.concat rfl (by simp)
  cases w.poll with
  | interrupted => exact turns_ok hsound
  | failed =>
    exact turns_ended ((concluded_infrastructure s.coordinator .boundaryObservation .poll).ended
      hsound.unreleased)
  | ready =>
    refine sat_turns_bind (sat_orLeave (sat_reapLeader hsound w)) fun s₁ _ h₁ => ?_
    refine sat_turns_bind (sat_orLeave (sat_observeBoundary h₁ w)) fun _ _ h₂ => ?_
    refine sat_turns_bind (sat_drainSignals turns h₂ w) fun _ _ h₃ => ?_
    refine sat_turns_bind (sat_orLeave (sat_acceptControl ctx h₃ w)) fun _ _ h₄ => ?_
    refine sat_turns_bind (sat_orLeave (sat_checkDeadline h₄ w)) fun _ _ h₅ => ?_
    exact turns_ok h₅

end ForcedWait

section Cleanup
open Calls
variable {known : Option LeaderExit} {log : SessionLog} {ε : Type}

structure Untouched (log : SessionLog) : Prop where
  unkilled : Unkilled log
  unreleased : Unreleased log
  unreaped : Unreaped log

theorem untouched_nil : Untouched [] :=
  ⟨by simp [Unkilled], by simp [Unreleased], by simp [Unreaped]⟩

theorem Untouched.concat (h : Untouched log) {x : Sigma SessionCall.Answer}
    (hkill : x.1 ≠ .scope .requestForcedTermination) (hrelease : x.1.isRelease = false)
    (hreap : x.1 ≠ .pollChild) : Untouched (log ++ [x]) where
  unkilled := unkilled_append.mpr ⟨h.unkilled, by simpa [Unkilled] using hkill⟩
  unreleased := unreleased_append.mpr ⟨h.unreleased, by simpa [Unreleased] using hrelease⟩
  unreaped := by
    refine unreaped_append.mpr ⟨h.unreaped, fun status hx => hreap ?_⟩
    rw [← List.mem_singleton.mp hx]

/-- The decision finalizes only with a proof, and escalates with the exit that is known. -/
def Decides (known : Option LeaderExit) (decision : GracefulFinalizationDecision)
    (log : SessionLog) : Prop :=
  Untouched log ∧ (∀ proof, decision = .finalizeCooperative proof → Proved log) ∧
    ∀ cause exit, decision = .needsEscalation (.eligible cause exit) → exit = known

theorem sat_eligibility (cause : TerminationCause) (h : Untouched log) :
    (eligibilityAfterIdentityValidation cause known : Ending ε _).Sat (Justified known) log
      fun r log' => ∃ decision, r = .ok decision ∧ Decides known decision log' := by
  rw [eligibilityAfterIdentityValidation, sat_ask_bind]
  intro validated
  refine ⟨justified_of_uncritical rfl, ?_⟩
  have hlog : Untouched (log ++ [⟨.scope .validateForcedTerminationEligibility, validated⟩]) :=
    h.concat (by simp) rfl (by simp)
  cases validated with
  | ok _ => exact ⟨_, rfl, hlog, by simp, by simp⟩
  | error error =>
    dsimp only
    cases recoveryReason error with
    | none => exact ⟨_, rfl, hlog, by simp, by simp⟩
    | some reason => exact ⟨_, rfl, hlog, by simp, by simp⟩

theorem sat_consumeGracefulOutcome (outcome : GracefulTerminationOutcome) (h : Untouched log) :
    (consumeGracefulOutcome outcome : Ending ε _).Sat (Justified outcome.leaderExit) log
      fun r log' => ∃ decision, r = .ok decision ∧ Decides outcome.leaderExit decision log' := by
  cases outcome with
  | deadlineExpired cause leaderExit => exact sat_eligibility cause h
  | infrastructureFailure cause leaderExit error => exact ⟨_, rfl, h, by simp, by simp⟩
  | recoveryRequired cause leaderExit reason => exact ⟨_, rfl, h, by simp, by simp⟩
  | boundaryTerminalCandidate cause leaderExit =>
    cases leaderExit with
    | none => exact sat_eligibility cause h
    | some exit =>
      rw [consumeGracefulOutcome, sat_ask_bind]
      intro proved
      refine ⟨⟨by simp, fun e he => ?_, by simp [SessionCall.isRelease], by simp⟩, ?_⟩
      · exact Or.inl (congrArg some (SessionCall.proveEmptyBoundary.inj he))
      have hlog : Untouched (log ++ [⟨.proveEmptyBoundary exit, proved⟩]) :=
        h.concat (by simp) rfl (by simp)
      cases proved with
      | ok proof => exact ⟨_, rfl, hlog, fun _ _ => ⟨exit, proof, by simp⟩, by simp⟩
      | error error =>
        cases error with
        | boundaryNotEmpty => exact sat_eligibility cause hlog
        | unitNotTerminal => exact sat_eligibility cause hlog
        | _ => exact ⟨_, rfl, hlog, by simp, by simp⟩

theorem sat_startForcedCleanup (cause : TerminationCause) (h : Untouched log) :
    (startForcedCleanup cause known).Sat (Justified known) log (Goes known id) := by
  have hended : ∀ {outcome : ForcedTerminationOutcome} {log' : SessionLog},
      Concluded outcome log' → Unreleased log' → Goes known (id : ForcedWait → ForcedWait)
        (.error outcome) log' := by
    intro outcome log' hconcluded hlog'
    refine ⟨by simp, fun o ho => ?_⟩
    rw [← Except.error.inj ho]
    exact hconcluded.ended hlog'
  rw [startForcedCleanup, sat_ask_bind]
  intro timer
  refine ⟨justified_of_uncritical rfl, ?_⟩
  cases timer with
  | false =>
    refine hended ⟨by simp, by simp⟩ (unreleased_append.mpr ⟨h.unreleased, ?_⟩)
    simp [Unreleased, SessionCall.isRelease]
  | true =>
    rw [Bool.not_true, if_neg (by simp), sat_ask_bind]
    intro signalFd
    refine ⟨justified_of_uncritical rfl, ?_⟩
    rw [sat_ask_bind]
    intro pidfd
    refine ⟨justified_of_uncritical rfl, ?_⟩
    rw [List.append_assoc, List.append_assoc]
    have hreleased' : Unreleased (log ++ ([⟨.newTimer, true⟩] ++
        ([⟨.signalFd, signalFd⟩] ++ [⟨.authoritativePidfd, pidfd⟩]))) :=
      unreleased_append.mpr ⟨h.unreleased, by simp [Unreleased, SessionCall.isRelease]⟩
    split
    · exact hended (concluded_infrastructure _ .eligibility .leaderReap) hreleased'
    refine (sat_begin (unkilled_append.mpr ⟨h.unkilled, by simp [Unkilled]⟩)).bind ?_ ?_
    · rintro c _ ⟨tail, rfl, htail, htail', hexit, -⟩
      have hc : c.leaderExit = known := hexit c rfl
      -- the coordinator has the exit that was known, and nothing was reaped since
      have hsound : ForcedWait.Sound known ⟨c, c.leaderExit.isSome⟩ (log ++ ([⟨.newTimer, true⟩] ++
          ([⟨.signalFd, signalFd⟩] ++ [⟨.authoritativePidfd, pidfd⟩])) ++ tail) := by
        refine ⟨unreleased_append.mpr ⟨hreleased', htail⟩, fun exit he => ?_, rfl, fun hnone => ?_⟩
        · exact Or.inl (hc.symm.trans he)
        · refine ⟨hc.symm.trans hnone, unreaped_append.mpr ⟨?_, htail'⟩⟩
          exact unreaped_append.mpr ⟨h.unreaped, by simp [Unreaped]⟩
      refine (ForcedWait.sat_tryProof hsound).bind (fun _ log' hlog' => ?_) fun o log' hlog' => ?_
      · exact ForcedWait.goes_ok (hlog'.1 _ rfl)
      · exact ⟨by simp, fun o' ho => hlog'.2 o' (congrArg _ (Except.error.inj ho))⟩
    · rintro outcome _ ⟨tail, rfl, htail, -, -, hconcluded⟩
      exact hended (hconcluded _ rfl) (unreleased_append.mpr ⟨hreleased', htail⟩)

/-- Whatever the host answers and however long it takes, the forced cleanup kills once at most, gives
nothing back, and ends with an empty boundary only where the proof of it succeeded. -/
theorem sat_waitForForcedCleanup (turns : Nat) (ctx : ForcedWaitContext) (cause : TerminationCause)
    (h : Untouched log) :
    (waitForForcedCleanup turns ctx cause known).Sat (Justified known) log
      (ForcedWait.Turns known id) := by
  unfold waitForForcedCleanup
  refine ForcedWait.sat_turns_bind
    (ForcedWait.sat_orLeave (sat_startForcedCleanup cause h))
    fun s log' hs => ?_
  refine (Sat.iterate (fun s₁ log₁ h₁ => ?_) turns (ForcedWait.turns_ok hs))
  exact ForcedWait.sat_pollCycle turns ctx (h₁.2.1 s₁ rfl)

/-- A forced cleanup that reports its deadline was told so by the timer, has looked at the scope once more
after it, and could not prove the boundary empty then. -/
theorem forced_deadline_missed (turns : Nat) (ctx : ForcedWaitContext) (cause : TerminationCause)
    (host : Host SessionCall.Answer) {cause' : TerminationCause} {exit : Option LeaderExit}
    (hrun : (waitForForcedCleanup turns ctx cause known).run host [] =
      (.error (.outcome (.forcedDeadlineExpired cause' exit)), log)) :
    DeadlineMissed known log := by
  have hsat : (waitForForcedCleanup turns ctx cause known).Sat (Justified known) []
      (ForcedWait.Turns known id) := sat_waitForForcedCleanup turns ctx cause untouched_nil
  obtain ⟨-, -, -, hended⟩ := hsat.run host
  rw [hrun] at hended
  exact (hended _ rfl).deadline cause' exit rfl

/-- A host on which everything works, but the payload does not leave its scope. -/
def lingeringPayload : Host SessionCall.Answer := fun _ q =>
  match q with
  | .scope _ => .ok ()
  | .proveEmptyBoundary _ => .error .boundaryNotEmpty
  | .boundaryAppearsTerminal => .ok false
  | .newTimer | .armTimer | .signalFd | .authoritativePidfd | .consumeWakeup | .closeSession
  | .supervisorChannelIsClosed | .setReadTimeout => true
  | .poll => { timer := true }
  | .pollChild => .ok none
  | .readSignal => .ok none
  | .accept => .wouldBlock
  | .consumeDeadline => .ok true
  | .dropTransaction => ()
  | .releaseTerminal => .ok ()
  | .duplicateSupervisorChannel => .ok ()
  | .writeControlRequest _ => .ok ()
  | .readControlRequest => .error .workerIoFailed

theorem lingeringPayload_deadline_missed :
    ∃ log, (waitForForcedCleanup 1 ⟨true, "worker-1", 100, 200, 200, 0⟩ .supervisorDisconnected
        none).run lingeringPayload [] =
          (.error (.outcome (.forcedDeadlineExpired .supervisorDisconnected none)), log) ∧
      DeadlineMissed none log :=
  ⟨_, rfl, forced_deadline_missed 1 ⟨true, "worker-1", 100, 200, 200, 0⟩ .supervisorDisconnected
    lingeringPayload rfl⟩

end Cleanup

end Niralis.SessionEnd
