import Niralis.ForcedCleanup

namespace Niralis.SessionEnd
open VirtualTerminal (VirtualTerminalError)

inductive TerminalReportExpectation
  | required
  | unavailableAfterSupervisorDisconnect
  deriving DecidableEq, Repr

structure TerminalFinalizationContext where
  workerId : String
  workerPid : Nat
  registrationNonce : String
  identity : PayloadScopeIdentity
  reportExpectation : TerminalReportExpectation

/-- It gives its terminal back once, and remembers how that went. -/
structure VirtualTerminalGuard where
  releaseResult : Option (Except VirtualTerminalError Unit) := none

section Finalization
variable {ε : Type}

def VirtualTerminalGuard.release (g : VirtualTerminalGuard) :
    Ending ε (Except VirtualTerminalError Unit × VirtualTerminalGuard) :=
  match g.releaseResult with
  | some result => pure (result, g)
  | none => do
    let result : Except VirtualTerminalError Unit ← Calls.ask SessionCall.releaseTerminal
    pure (result, ⟨some result⟩)

def sigkill : Int := 9

def terminalLocalFinalizationResult (proof : BoundaryEmptyProof) (forced : Bool) :
    Except SessionEndError Unit :=
  if proof.leaderExit = .exitedZero ∨ forced = true ∧ proof.leaderExit = .killedBySignal sigkill then
    .ok ()
  else .error .authenticatedSessionFailed

/-- The result of a finalization, with the guard that is dropped after it. -/
abbrev Finalized := Except SessionEndError Unit × VirtualTerminalGuard

def finalizeTerminalAfterSupervisorDisconnect (g : VirtualTerminalGuard) (proof : BoundaryEmptyProof)
    (forced : Bool) : Ending ε Finalized := do
  let (released, g) ← g.release
  match released with
  | .error _ => pure (.error .authenticatedSessionFailed, g)
  | .ok () => pure (terminalLocalFinalizationResult proof forced, g)

/-- The call's answer, or the error that the worker ends with. -/
def orEnd {α : Type} : Except SessionEndError α → Ending SessionEndError α
  | .ok a => pure a
  | .error e => Calls.fail e

def beginTerminalVtCleanup (ctx : TerminalFinalizationContext) : Ending SessionEndError Nat := do
  let stream : Except SessionEndError Unit ← Calls.ask SessionCall.duplicateSupervisorChannel
  orEnd stream
  let written : Except SessionEndError Unit ← Calls.ask (SessionCall.writeControlRequest
    (.intent ctx.workerId ctx.workerPid ctx.registrationNonce ctx.identity))
  orEnd written
  let timeout : Bool ← Calls.ask SessionCall.setReadTimeout
  if !timeout then Calls.fail .workerIoFailed
  else
    let acknowledgement : Except SessionEndError (Nat × TerminalAcknowledgement) ←
      Calls.ask SessionCall.readControlRequest
    let (version, message) ← orEnd acknowledgement
    match message with
    | .intentAcknowledged workerId workerPid nonce attemptId =>
      if version = workerControlProtocolVersion ∧ workerId = ctx.workerId ∧
          workerPid = ctx.workerPid ∧ nonce = ctx.registrationNonce then pure attemptId
      else Calls.fail .workerProtocolFailed
    | .resultAcknowledged _ _ _ _ | .other => Calls.fail .workerProtocolFailed

def completeTerminalVtCleanup (ctx : TerminalFinalizationContext) (attemptId : Nat)
    (result : TerminalVtCleanupResult) : Ending SessionEndError Unit := do
  let written : Except SessionEndError Unit ← Calls.ask (SessionCall.writeControlRequest
    (.result ctx.workerId ctx.workerPid ctx.registrationNonce attemptId result))
  orEnd written
  let acknowledgement : Except SessionEndError (Nat × TerminalAcknowledgement) ←
    Calls.ask SessionCall.readControlRequest
  let (version, message) ← orEnd acknowledgement
  match message with
  | .resultAcknowledged workerId workerPid nonce acknowledged =>
    if version = workerControlProtocolVersion ∧ workerId = ctx.workerId ∧
        workerPid = ctx.workerPid ∧ nonce = ctx.registrationNonce ∧ acknowledged = attemptId then
      pure ()
    else Calls.fail .workerProtocolFailed
  | .intentAcknowledged _ _ _ _ | .other => Calls.fail .workerProtocolFailed

def releaseAcknowledgedTerminal (ctx : TerminalFinalizationContext) (g : VirtualTerminalGuard)
    (proof : BoundaryEmptyProof) (forced : Bool) (attemptId : Nat) : Ending ε Finalized := do
  let (released, g) ← g.release
  match released with
  | .ok () =>
    (completeTerminalVtCleanup ctx attemptId .released).handle fun
      | .ok () => pure (terminalLocalFinalizationResult proof forced, g)
      | .error e => do
        let closed : Bool ← Calls.ask SessionCall.supervisorChannelIsClosed
        if closed then pure (terminalLocalFinalizationResult proof forced, g)
        else pure (.error e, g)
  | .error error =>
    if error = .cleanupOperationFailed "disallocate" ebusy then
      (completeTerminalVtCleanup ctx attemptId .vtDisallocateBusy).handle fun result =>
        pure (result, g)
    else pure (.error .authenticatedSessionFailed, g)

def finalizeTerminal (ctx : TerminalFinalizationContext) (g : VirtualTerminalGuard)
    (proof : BoundaryEmptyProof) (forced : Bool) : Ending ε Finalized := do
  if ctx.reportExpectation = .unavailableAfterSupervisorDisconnect then
    finalizeTerminalAfterSupervisorDisconnect g proof forced
  else
    let closed : Bool ← Calls.ask SessionCall.supervisorChannelIsClosed
    if closed then finalizeTerminalAfterSupervisorDisconnect g proof forced
    else
      (beginTerminalVtCleanup ctx).handle fun
        | .ok attemptId => releaseAcknowledgedTerminal ctx g proof forced attemptId
        | .error e => do
          let closed : Bool ← Calls.ask SessionCall.supervisorChannelIsClosed
          if closed then finalizeTerminalAfterSupervisorDisconnect g proof forced
          else pure (.error e, g)

/-- `finalize_session_after_empty_proof_with_vt_report`. The transaction is dropped on every way out
of it. -/
def finalizeSessionAfterEmptyProofWithVtReport (ctx : TerminalFinalizationContext)
    (g : VirtualTerminalGuard) (proof : BoundaryEmptyProof) (forced : Bool) :
    Ending ε Finalized := do
  -- a reference that cannot be released is only logged
  let _ : Except PayloadScopeError Unit ← Calls.ask (SessionCall.scope .releasePin)
  let closed : Bool ← Calls.ask SessionCall.closeSession
  let () ← Calls.ask SessionCall.dropTransaction
  if !closed then pure (.error .authenticatedSessionFailed, g)
  else finalizeTerminal ctx g proof forced

/-- A finalization, and the drop of the guard after it. -/
def finalize (ctx : TerminalFinalizationContext) (proof : BoundaryEmptyProof) (forced : Bool) :
    Ending ε (Except SessionEndError Unit) := do
  let (result, g) ← finalizeSessionAfterEmptyProofWithVtReport ctx {} proof forced
  let _ ← g.release
  pure result

end Finalization

inductive SessionWaitResult
  | legacy (success : Bool)
  | graceful (outcome : GracefulTerminationOutcome)
  deriving DecidableEq, Repr

/-- A worker that does not return: it holds what it owns, or it is still in one of its loops. -/
inductive Unended
  | held
  | stillWaiting
  deriving DecidableEq, Repr

def reportExpectation : GracefulTerminationOutcome → TerminalReportExpectation
  | .boundaryTerminalCandidate .supervisorDisconnected _ => .unavailableAfterSupervisorDisconnect
  | _ => .required

structure EndContext where
  wait : ForcedWaitContext
  registrationNonce : String
  identity : PayloadScopeIdentity

def EndContext.terminal (ctx : EndContext) (reportExpectation : TerminalReportExpectation) :
    TerminalFinalizationContext where
  workerId := ctx.wait.workerId
  workerPid := ctx.wait.workerPid
  registrationNonce := ctx.registrationNonce
  identity := ctx.identity
  reportExpectation

/-- What a running session's worker does once `wait_for_session` returned. -/
def endSession (turns : Nat) (ctx : EndContext) :
    Except Unit SessionWaitResult → Ending Unended (Except SessionEndError Unit)
  | .ok (.graceful outcome) => do
    let decision ← consumeGracefulOutcome outcome
    match decision with
    | .finalizeCooperative proof => finalize (ctx.terminal (reportExpectation outcome)) proof false
    | .needsEscalation (.eligible cause leaderExit) =>
      (waitForForcedCleanup turns ctx.wait cause leaderExit).handle fun
        | .error (.outcome (.boundaryEmpty proof _)) => finalize (ctx.terminal .required) proof true
        | .error (.outcome _) => Calls.fail .held
        | .error .stillWaiting | .ok _ => Calls.fail .stillWaiting
    | _ => Calls.fail .held
  -- without a signal descriptor there is no boundary to prove empty
  | .ok (.legacy success) => do
    let () ← Calls.ask SessionCall.dropTransaction
    let _ ← VirtualTerminalGuard.release {}
    pure (if success then .ok () else .error .authenticatedSessionFailed)
  | .error () => do
    let () ← Calls.ask SessionCall.dropTransaction
    let _ ← VirtualTerminalGuard.release {}
    pure (.error .authenticatedSessionFailed)

def releases (log : SessionLog) : List SessionCall := (log.map (·.1)).filter (·.isRelease)

section Release
open Calls
variable {known : Option LeaderExit} {log : SessionLog} {ε : Type} {g : VirtualTerminalGuard}

theorem releases_append (log tail : SessionLog) : releases (log ++ tail) = releases log ++ releases tail := by
  simp [releases]

theorem releases_of_unreleased (h : Unreleased log) : releases log = [] := by
  simp only [releases, List.filter_eq_nil_iff, List.mem_map, Bool.not_eq_true]
  rintro _ ⟨x, hx, rfl⟩
  exact h x hx

/-- PAM and the pin are given back, and the terminal as far as the guard knows. -/
structure Held (g : VirtualTerminalGuard) (log : SessionLog) : Prop where
  proved : Proved log
  releases : releases log = [.scope .releasePin, .closeSession, .dropTransaction] ++
    if g.releaseResult.isSome then [.releaseTerminal] else []

theorem Proved.concat (h : Proved log) (x : Sigma SessionCall.Answer) : Proved (log ++ [x]) := by
  obtain ⟨exit, proof, hmem⟩ := h
  exact ⟨exit, proof, List.mem_append_left _ hmem⟩

theorem Held.concat (h : Held g log) {x : Sigma SessionCall.Answer} (hx : x.1.isRelease = false) :
    Held g (log ++ [x]) where
  proved := h.proved.concat x
  releases := by
    rw [releases_append, h.releases]
    simp [SessionEnd.releases, hx]

def Done (r : Except ε Finalized) (log : SessionLog) : Prop :=
  ∃ result g, r = .ok (result, g) ∧ Held g log

/-- The terminal is given back at the first release, and the guard remembers the answer. -/
theorem sat_release (h : Held g log) : (g.release : Ending ε _).Sat (Justified known) log
    fun r log' => ∃ result g', r = .ok (result, g') ∧ Held g' log' ∧
      g'.releaseResult = some result ∧
      (g.releaseResult = none → log' = log ++ [⟨.releaseTerminal, result⟩]) := by
  unfold VirtualTerminalGuard.release
  cases hresult : g.releaseResult with
  | some result => exact ⟨result, g, rfl, h, hresult, by simp⟩
  | none =>
    dsimp only
    rw [sat_ask_bind]
    intro result
    refine ⟨⟨by simp, by simp, fun _ => h.proved, by simp⟩, result, _, rfl, ⟨?_, ?_⟩, rfl, fun _ => rfl⟩
    · exact h.proved.concat _
    · rw [releases_append, h.releases, hresult]
      simp [SessionEnd.releases, SessionCall.isRelease]

theorem sat_afterDisconnect (h : Held g log) (proof : BoundaryEmptyProof) (forced : Bool) :
    (finalizeTerminalAfterSupervisorDisconnect g proof forced : Ending ε _).Sat (Justified known) log
      Done := by
  refine (sat_release h).bind ?_ (by simp)
  rintro _ log' ⟨result, g', hr, hheld, -⟩
  obtain rfl := Except.ok.inj hr
  cases result with
  | error _ => exact ⟨_, g', rfl, hheld⟩
  | ok _ => exact ⟨_, g', rfl, hheld⟩

/-- The intent is written before the terminal is given back, and its acknowledgement is read. -/
theorem sat_beginTerminalVtCleanup (ctx : TerminalFinalizationContext) (h : Held g log) :
    (beginTerminalVtCleanup ctx).Sat (Justified known) log fun r log' => Held g log' ∧
      ∀ attemptId, r = .ok attemptId →
        Acknowledged log' ctx.workerId ctx.workerPid ctx.registrationNonce attemptId := by
  rw [beginTerminalVtCleanup, sat_ask_bind]
  intro stream
  refine ⟨justified_of_uncritical rfl, ?_⟩
  have h₁ := h.concat (x := ⟨.duplicateSupervisorChannel, stream⟩) rfl
  cases stream with
  | error e => exact ⟨h₁, by simp⟩
  | ok _ =>
    rw [orEnd, pure_bind, sat_ask_bind]
    intro written
    refine ⟨justified_of_uncritical rfl, ?_⟩
    have h₂ := h₁.concat (x := ⟨.writeControlRequest (.intent ctx.workerId ctx.workerPid
      ctx.registrationNonce ctx.identity), written⟩) rfl
    cases written with
    | error e => exact ⟨h₂, by simp⟩
    | ok _ =>
      rw [orEnd, pure_bind, sat_ask_bind]
      intro timeout
      refine ⟨justified_of_uncritical rfl, ?_⟩
      have h₃ := h₂.concat (x := ⟨.setReadTimeout, timeout⟩) rfl
      cases timeout with
      | false => exact ⟨h₃, by simp⟩
      | true =>
        rw [Bool.not_true, if_neg (by simp), sat_ask_bind]
        intro acknowledgement
        refine ⟨justified_of_uncritical rfl, ?_⟩
        have h₄ := h₃.concat (x := ⟨.readControlRequest, acknowledgement⟩) rfl
        cases acknowledgement with
        | error e => exact ⟨h₄, by simp⟩
        | ok acknowledgement =>
          obtain ⟨version, message⟩ := acknowledgement
          rw [orEnd, pure_bind]
          cases message with
          | other => exact ⟨h₄, by simp⟩
          | resultAcknowledged => exact ⟨h₄, by simp⟩
          -- only the acknowledgement of this intent carries the attempt on
          | intentAcknowledged workerId workerPid nonce attemptId =>
            dsimp only
            split
            next hmatches =>
              obtain ⟨rfl, rfl, rfl, rfl⟩ := hmatches
              refine ⟨h₄, fun attemptId' ha => ?_⟩
              obtain rfl := Except.ok.inj ha
              exact List.mem_append_right _ List.mem_cons_self
            next => exact ⟨h₄, by simp⟩

/-- The result is reported right after the terminal was given back with that result. -/
theorem sat_completeTerminalVtCleanup (ctx : TerminalFinalizationContext) (h : Held g log)
    {attemptId : Nat} {result : TerminalVtCleanupResult} {earlier : SessionLog}
    (hlog : log = earlier ++ [⟨.releaseTerminal, releaseAnswer result⟩])
    (hack : Acknowledged earlier ctx.workerId ctx.workerPid ctx.registrationNonce attemptId) :
    (completeTerminalVtCleanup ctx attemptId result).Sat (Justified known) log
      fun _ log' => Held g log' := by
  rw [completeTerminalVtCleanup, sat_ask_bind]
  intro written
  refine ⟨⟨by simp, by simp, by simp [SessionCall.isRelease], ?_⟩, ?_⟩
  · intro workerId workerPid nonce attemptId' result' hq
    cases hq
    exact ⟨earlier, hlog, hack⟩
  have h₁ := h.concat (x := ⟨.writeControlRequest (.result ctx.workerId ctx.workerPid
    ctx.registrationNonce attemptId result), written⟩) rfl
  cases written with
  | error e => exact h₁
  | ok _ =>
    rw [orEnd, pure_bind, sat_ask_bind]
    intro acknowledgement
    refine ⟨justified_of_uncritical rfl, ?_⟩
    have h₂ := h₁.concat (x := ⟨.readControlRequest, acknowledgement⟩) rfl
    cases acknowledgement with
    | error e => exact h₂
    | ok acknowledgement =>
      obtain ⟨version, message⟩ := acknowledgement
      rw [orEnd, pure_bind]
      cases message with
      | other => exact h₂
      | intentAcknowledged => exact h₂
      | resultAcknowledged =>
        dsimp only
        split
        · exact h₂
        · exact h₂

theorem sat_releaseAcknowledgedTerminal (ctx : TerminalFinalizationContext) (h : Held {} log)
    (proof : BoundaryEmptyProof) (forced : Bool) {attemptId : Nat}
    (hack : Acknowledged log ctx.workerId ctx.workerPid ctx.registrationNonce attemptId) :
    (releaseAcknowledgedTerminal ctx {} proof forced attemptId : Ending ε _).Sat (Justified known) log
      Done := by
  refine (sat_release h).bind ?_ (by simp)
  rintro _ log₁ ⟨result, g, hr, hheld, -, hlog⟩
  obtain rfl := Except.ok.inj hr
  have hlog₁ : log₁ = log ++ [⟨.releaseTerminal, result⟩] := hlog rfl
  cases result with
  | ok _ =>
    refine sat_handle.mpr ((sat_completeTerminalVtCleanup ctx hheld hlog₁ hack).mono fun r log₂ h₂ => ?_)
    cases r with
    | ok _ => exact ⟨_, g, rfl, h₂⟩
    | error e =>
      rw [sat_ask_bind]
      intro closed
      refine ⟨justified_of_uncritical rfl, ?_⟩
      cases closed with
      | true => exact ⟨_, g, rfl, h₂.concat rfl⟩
      | false => exact ⟨_, g, rfl, h₂.concat rfl⟩
  | error error =>
    dsimp only
    split
    next hbusy =>
      subst hbusy
      refine sat_handle.mpr ((sat_completeTerminalVtCleanup ctx hheld hlog₁ hack).mono fun r log₂ h₂ => ?_)
      exact ⟨_, g, rfl, h₂⟩
    next => exact ⟨_, g, rfl, hheld⟩

theorem sat_finalizeTerminal (ctx : TerminalFinalizationContext) (h : Held {} log)
    (proof : BoundaryEmptyProof) (forced : Bool) :
    (finalizeTerminal ctx {} proof forced : Ending ε _).Sat (Justified known) log Done := by
  unfold finalizeTerminal
  split
  · exact sat_afterDisconnect h proof forced
  rw [sat_ask_bind]
  intro closed
  refine ⟨justified_of_uncritical rfl, ?_⟩
  have h₁ : Held {} (log ++ [⟨.supervisorChannelIsClosed, closed⟩]) := h.concat rfl
  cases closed with
  | true => exact sat_afterDisconnect h₁ proof forced
  | false =>
    refine sat_handle.mpr ((sat_beginTerminalVtCleanup ctx h₁).mono fun r log₂ h₂ => ?_)
    cases r with
    | ok attemptId =>
      exact sat_releaseAcknowledgedTerminal ctx h₂.1 proof forced (h₂.2 attemptId rfl)
    | error e =>
      rw [sat_ask_bind]
      intro closed
      refine ⟨justified_of_uncritical rfl, ?_⟩
      have h₃ : Held {} (log₂ ++ [⟨.supervisorChannelIsClosed, closed⟩]) := h₂.1.concat rfl
      cases closed with
      | true => exact sat_afterDisconnect h₃ proof forced
      | false => exact ⟨_, {}, rfl, h₃⟩

def AllReleased (log : SessionLog) : Prop :=
  releases log = [.scope .releasePin, .closeSession, .dropTransaction, .releaseTerminal]

/-- With the proof, everything is given back once and in order, whatever fails on the way. -/
theorem sat_finalize (ctx : TerminalFinalizationContext) (hproved : Proved log)
    (hlog : Unreleased log) (proof : BoundaryEmptyProof) (forced : Bool) :
    (finalize ctx proof forced : Ending ε _).Sat (Justified known) log
      fun r log' => (∃ result, r = .ok result) ∧ AllReleased log' := by
  have hreleases : releases log = [] := releases_of_unreleased hlog
  have hfinal : (finalizeSessionAfterEmptyProofWithVtReport ctx {} proof forced : Ending ε _).Sat
      (Justified known) log Done := by
    rw [finalizeSessionAfterEmptyProofWithVtReport, sat_ask_bind]
    intro unpinned
    refine ⟨⟨by simp, by simp, fun _ => hproved, by simp⟩, ?_⟩
    rw [sat_ask_bind]
    intro closed
    refine ⟨⟨by simp, by simp, fun _ => hproved.concat _, by simp⟩, ?_⟩
    rw [sat_ask_bind]
    intro dropped
    refine ⟨⟨by simp, by simp, fun _ => (hproved.concat _).concat _, by simp⟩, ?_⟩
    have hheld : Held {} (log ++ [⟨.scope .releasePin, unpinned⟩] ++ [⟨.closeSession, closed⟩] ++
        [⟨.dropTransaction, dropped⟩]) := by
      refine ⟨((hproved.concat _).concat _).concat _, ?_⟩
      rw [releases_append, releases_append, releases_append, hreleases]
      rfl
    cases closed with
    | false => exact ⟨_, {}, rfl, hheld⟩
    | true => exact sat_finalizeTerminal ctx hheld proof forced
  refine hfinal.bind ?_ ?_
  · rintro _ log₁ ⟨result, g, hr, hheld⟩
    obtain rfl := Except.ok.inj hr
    refine (sat_release hheld).bind ?_ (by simp)
    rintro _ log₂ ⟨released, g', hr', hheld', hsome, -⟩
    obtain rfl := Except.ok.inj hr'
    refine ⟨⟨result, rfl⟩, ?_⟩
    rw [AllReleased, hheld'.releases, hsome]
    rfl
  · rintro e log₁ ⟨result, g, hr, -⟩
    cases hr

/-- The end of a session, from the outcome of its graceful wait, whatever the scope, the host, PAM, the
terminal and the supervisor answer and however long it takes. Every call is justified; a worker that
returns has given everything back once and in order; one that does not has given back nothing. -/
theorem session_end_justified (turns : Nat) (ctx : EndContext) (outcome : GracefulTerminationOutcome)
    (host : Host SessionCall.Answer) :
    ∃ r log, (endSession turns ctx (.ok (.graceful outcome))).run host [] = (r, log) ∧
      Throughout (Justified outcome.leaderExit) log ∧
      match r with
      | .ok _ => AllReleased log
      | .error _ => releases log = [] := by
  have hsat : (endSession turns ctx (.ok (.graceful outcome))).Sat (Justified outcome.leaderExit) []
      fun r log => match r with
        | .ok _ => AllReleased log
        | .error _ => releases log = [] := by
    refine (sat_consumeGracefulOutcome outcome untouched_nil).bind ?_ (by simp)
    rintro decision log ⟨decision', hr, huntouched, hproved, hexit⟩
    obtain rfl := Except.ok.inj hr
    have hheld : releases log = [] := releases_of_unreleased huntouched.unreleased
    -- the payload is given back where its boundary was proved empty, and only there
    cases decision with
    | finalizeCooperative proof =>
      refine (sat_finalize _ (hproved proof rfl) huntouched.unreleased proof false).mono ?_
      rintro _ log' ⟨⟨result, rfl⟩, hreleased⟩
      exact hreleased
    | recoveryRequired cause leaderExit reason => exact hheld
    | needsEscalation eligibility =>
      cases eligibility with
      | infrastructureFailure cause leaderExit error => exact hheld
      | recoveryRequired cause leaderExit reason => exact hheld
      | eligible cause leaderExit =>
        obtain rfl := hexit cause leaderExit rfl
        refine sat_handle.mpr ((sat_waitForForcedCleanup turns ctx.wait cause huntouched).mono ?_)
        rintro r log' ⟨hunreleased, -, hended⟩
        have hheld' : releases log' = [] := releases_of_unreleased hunreleased
        cases r with
        | ok _ => exact hheld'
        | error left =>
          cases left with
          | stillWaiting => exact hheld'
          | outcome forced =>
            cases forced with
            | boundaryEmpty proof exit =>
              refine (sat_finalize _ ((hended _ rfl).proved proof exit rfl) hunreleased proof
                true).mono ?_
              rintro _ log'' ⟨⟨result, rfl⟩, hreleased⟩
              exact hreleased
            | _ => exact hheld'
  obtain ⟨hthroughout, hend⟩ := hsat.run host
  exact ⟨_, _, rfl, hthroughout, hend⟩

section Sample

/-- The leader is reaped after the kill, and the scope is empty then; the supervisor acknowledges the
first request as the intent and the second as the result. -/
def killedPayload : Host SessionCall.Answer := fun log q =>
  match q with
  | .boundaryAppearsTerminal => .ok (log.any fun x => x.1 = .pollChild)
  | .proveEmptyBoundary exit => .ok ⟨sampleScope.unitName, sampleScope.invocationId, "", exit⟩
  | .poll => { leader := true }
  | .pollChild => .ok (some (.signaled sigkill))
  | .supervisorChannelIsClosed => false
  | .readControlRequest => .ok (workerControlProtocolVersion,
      if log.any fun x => x.1 = .releaseTerminal then .resultAcknowledged "worker-1" 100 "nonce" 1
      else .intentAcknowledged "worker-1" 100 "nonce" 1)
  | q => lingeringPayload log q

/-- A session that had to be killed, and whose worker reports the terminal to the supervisor. -/
example :
    let run := (endSession 1 ⟨⟨true, "worker-1", 100, 200, 200, 0⟩, "nonce", sampleScope⟩
      (.ok (.graceful (.deadlineExpired .internalTerminateRequest none)))).run killedPayload []
    run.1 = .ok (.ok ()) ∧
      releases run.2 = [.scope .releasePin, .closeSession, .dropTransaction, .releaseTerminal] ∧
      (run.2.map (·.1)).count (.scope .requestForcedTermination) = 1 := ⟨rfl, rfl, rfl⟩

end Sample

end Release

end Niralis.SessionEnd
