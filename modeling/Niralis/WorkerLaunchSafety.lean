import Niralis.WorkerLaunch

namespace Niralis.WorkerLaunch

inductive PamStage
  | absent | authenticated | opened
  deriving DecidableEq, Repr

/-- The process in the payload scope: a probe that is blocked before its exec, known to be in the
worker's logind session or not yet, or the session program. -/
inductive Payload
  | absent
  | blocked (report : SessionChildReport)
  | verified (report : SessionChildReport)
  | running (report : SessionChildReport)
  -- asked to terminate, without success
  | lingering
  deriving DecidableEq, Repr

def Payload.isBlocked : Payload → Bool
  | blocked _ | verified _ => true
  | _ => false

/-- No process is left that the launch could still stop. -/
def Payload.ended : Payload → Bool
  | absent | lingering => true
  | _ => false

structure Terminal where
  vtnr : Nat
  active : Bool := false
  deriving DecidableEq, Repr

structure Holdings where
  terminal : Option Terminal := none
  pam : PamStage := .absent
  identity : Option LoginIdentity := none
  groups : Option (List Nat) := none
  logind : Option LogindSessionIdentity := none
  runner : Bool := false
  payload : Payload := .absent
  scope : Option PayloadScopeIdentity := none
  deriving DecidableEq, Repr

namespace Holdings

/-- A logind identity of the user's session on the terminal that is held. -/
def sessionOf (ctx : PamSessionLaunch) (h : Holdings) (identity : LogindSessionIdentity) : Bool :=
  h.pam = .opened && h.identity.any fun user => h.terminal.any fun terminal =>
    validLogindIdentity ctx user.uid terminal.vtnr identity

/-- The pid's session is the one that was opened for the worker. -/
def inSession (ctx : PamSessionLaunch) (h : Holdings) (identity : LogindSessionIdentity) : Bool :=
  h.sessionOf ctx identity && h.logind.any (·.id = identity.id)

/-- The session of a pid is known: that of the worker, or that of the probe. -/
def resolved (ctx : PamSessionLaunch) (h : Holdings) (pid : Nat) (identity : LogindSessionIdentity) :
    Holdings :=
  match h.payload with
  | .absent => if h.sessionOf ctx identity then { h with logind := some identity } else h
  | .blocked report =>
    if pid = report.childPid ∧ h.inSession ctx identity then { h with payload := .verified report }
    else h
  | _ => h

def drop (h : Holdings) : Resource → Holdings
  | .scope => { h with scope := none }
  | .handoff => { h with payload := .absent }
  | .runner =>
    { h with
      runner := false
      -- a session program that is still running is killed with its runner
      payload := match h.payload with
        | .running _ => .absent
        | payload => payload }
  | .transaction => { h with pam := .absent, logind := none }
  | .terminal => { h with terminal := none }

def move (ctx : PamSessionLaunch) (h : Holdings) : (q : LaunchCall) → q.Answer → Holdings
  | .allocateTerminal, some vtnr => { h with terminal := some { vtnr } }
  | .authenticate _, .ok _ => { h with pam := .authenticated }
  | .resolveIdentity _, some identity => { h with identity := some identity }
  | .resolveGroups _, some groups => { h with groups := some groups }
  | .openSession _, .opened => { h with pam := .opened }
  | .buildRunner, true => { h with runner := true }
  | .runChildUntilReady _, some report => { h with payload := .blocked report }
  | .resolveByPid pid, .ok (some identity) => h.resolved ctx pid identity
  | .activateTerminal, true =>
    { h with terminal := h.terminal.map fun terminal => { terminal with active := true } }
  | .prepareScope _ _ _, .ok identity => { h with scope := some identity }
  | .abort, _ => { h with payload := .absent }
  | .commitExec, some report => { h with payload := .running report }
  | .commitExec, none => { h with payload := .absent }
  | .terminateChild, terminated =>
    { h with payload := if terminated then .absent else .lingering }
  | .drop resource, _ => h.drop resource
  | _, _ => h

/-- The terminal outlives everything else, and PAM the processes. -/
def mayDrop (h : Holdings) : Resource → Bool
  | .scope => h.scope.isSome
  | .handoff => h.payload.isBlocked
  | .runner => h.runner && !h.payload.isBlocked
  | .transaction => h.pam ≠ .absent && h.payload.ended
  | .terminal => h.terminal.isSome && h.pam = .absent && h.payload.ended && h.scope = none &&
      !h.runner

/-- Each of the resources may be dropped in its turn, and nothing is left then. -/
def droppable : List Resource → Holdings → Bool
  | [], h => h.terminal = none && h.pam = .absent && !h.runner && h.payload.ended && h.scope = none
  | resource :: rest, h => h.mayDrop resource && droppable rest (h.drop resource)

end Holdings

/-- The holdings, and what the supervisor and the cleanups have said about them. -/
structure LaunchState extends Holdings where
  registered : Bool := false
  releaseNonce : Option String := none
  released : Bool := false
  cleaned : Bool := false
  -- the call before has found no signal
  quiet : Bool := false
  deriving DecidableEq, Repr

namespace LaunchState

/-- The supervisor's word about the scope that is held. -/
def confirms (h : Holdings) (word : SupervisorMessage → String → Bool) :
    (q : LaunchCall) → q.Answer → Bool
  | .readControlRequest, .ok (version, message) =>
    version = workerControlProtocolVersion && h.scope.any fun scope => word message scope.invocationId
  | _, _ => false

def nonceAfter (nonce : Option String) : (q : LaunchCall) → q.Answer → Option String
  | .randomReleaseNonce, some nonce => some nonce
  | _, _ => nonce

def cleans : (q : LaunchCall) → q.Answer → Bool
  | .cleanup _, cleaned => cleaned
  | _, _ => false

def findsNoSignal : (q : LaunchCall) → q.Answer → Bool
  | .pendingWorkerSignal, .ok none => true
  | _, _ => false

def prepares : LaunchCall → Bool
  | .prepareScope _ _ _ => true
  | _ => false

def after (ctx : PamSessionLaunch) (s : LaunchState) (x : Sigma LaunchCall.Answer) : LaunchState where
  toHoldings := s.toHoldings.move ctx x.1 x.2
  -- a new scope has to be registered anew
  registered := s.registered && !prepares x.1 || confirms s.toHoldings (·.registers ctx) x.1 x.2
  releaseNonce := nonceAfter s.releaseNonce x.1 x.2
  released := s.released || confirms s.toHoldings
    (fun message nonce => s.releaseNonce.any fun releaseNonce => message.releases ctx nonce releaseNonce)
    x.1 x.2
  cleaned := s.cleaned || cleans x.1 x.2
  quiet := findsNoSignal x.1 x.2

end LaunchState

/-- The supervisor knows the scope, unless it does not have to. -/
def Registered (ctx : PamSessionLaunch) (s : LaunchState) : Prop :=
  ctx.requiresRegistration = true → s.registered = true

structure MayCommit (ctx : PamSessionLaunch) (s : LaunchState) : Prop where
  quiet : s.quiet = true
  pam : s.pam = .opened
  registered : Registered ctx s
  scope : s.scope ≠ none
  payload : ∃ report terminal, s.payload = .verified report ∧ s.terminal = some terminal ∧
    terminal.active = true ∧ validTerminalProof report terminal.vtnr = true

def MayWrite (ctx : PamSessionLaunch) (s : LaunchState) : WorkerResponse → Prop
  | .payloadScopePrepared _ _ _ sessionPid nonce identity =>
    s.scope = some identity ∧ nonce = identity.invocationId ∧
      ∃ report, s.payload = .verified report ∧ sessionPid = report.childPid
  | .payloadScopeReleaseReady _ => s.payload.ended = true
  | .started _ _ sessionPid sessionPgid _ _ sessionId _ =>
    s.pam = .opened ∧ Registered ctx s ∧ s.scope ≠ none ∧
      (∃ report, s.payload = .running report ∧ sessionPid = report.childPid ∧
        sessionPgid = report.pgid) ∧
      ∃ logind, s.logind = some logind ∧ sessionId = logind.id
  -- the launcher hears of a failure only when PAM is closed
  | .authenticationFailed | .sessionFailed _ | .rejected _ =>
    s.pam = .absent ∧ s.payload.ended = true

def Allows (ctx : PamSessionLaunch) (s : LaunchState) : LaunchCall → Prop
  | .allocateTerminal => s.terminal = none
  | .authenticate _ => s.terminal ≠ none ∧ s.pam = .absent
  | .openSession metadata =>
    s.pam = .authenticated ∧
      ∃ terminal, s.terminal = some terminal ∧ metadata.vtnr = some terminal.vtnr
  | .runChildUntilReady expectation =>
    s.pam = .opened ∧ s.runner = true ∧ s.payload = .absent ∧
      (∃ identity groups, s.identity = some identity ∧ s.groups = some groups ∧
        expectation.target = ⟨identity.uid, identity.gid, groups⟩) ∧
      ∃ logind, s.logind = some logind ∧ expectation.logindSessionId = logind.id
  | .activateTerminal => ∃ report, s.payload = .verified report
  | .prepareScope sessionPid uid logindSessionId =>
    (∃ report, s.payload = .verified report ∧ sessionPid = report.childPid) ∧
      (∃ identity, s.identity = some identity ∧ uid = identity.uid) ∧
      ∃ logind, s.logind = some logind ∧ logindSessionId = logind.id
  | .write response => MayWrite ctx s response
  | .writeControlRequest request =>
    s.payload.ended = true ∧ (request.localCleanupSucceeded = true → s.cleaned = true)
  | .abort => s.payload.isBlocked = true
  | .commitExec => MayCommit ctx s
  | .terminateChild => ∃ report, s.payload = .running report
  | .cleanup _ => s.scope ≠ none ∧ s.payload.ended = true
  | .releasePin =>
    s.scope ≠ none ∧ s.payload.ended = true ∧ (ctx.requiresRegistration = true → s.released = true)
  | .drop resource => s.mayDrop resource = true
  | _ => True

def launchDiscipline (ctx : PamSessionLaunch) : Calls.Discipline LaunchCall.Answer LaunchState where
  allows := Allows ctx
  after := LaunchState.after ctx

/-- How a launch ends: with its session started, with nothing held any more, or with the scope, the PAM
session and the terminal still held. -/
def LaunchEnded (s : LaunchState) : Except LaunchExit RunningSession → Prop
  | .ok session =>
    s.pam = .opened ∧ s.payload = .running session.report ∧ s.scope = some session.scope ∧
      s.runner = true ∧ s.terminal ≠ none
  | .error (.failed _) => s.toHoldings.droppable [] = true
  | .error .recoveryHeld =>
    s.pam = .opened ∧ s.payload.ended = true ∧ s.scope ≠ none ∧ s.terminal ≠ none

section Rules
open Calls
variable {ctx : PamSessionLaunch} {s : LaunchState} {h : Holdings} {α : Type}

abbrev Ends (ctx : PamSessionLaunch) (p : Launching α) (s : LaunchState)
    (post : α → LaunchState → Prop) : Prop :=
  p.Follows (launchDiscipline ctx) s fun r s' => match r with
    | .ok a => post a s'
    | .error exit => LaunchEnded s' (.error exit)

theorem ends_ask {q : LaunchCall} {f : q.Answer → Launching α} {post : α → LaunchState → Prop}
    (hq : Allows ctx s q) (hf : ∀ x, Ends ctx (f x) (s.after ctx ⟨q, x⟩) post) :
    Ends ctx (ask q >>= f) s post := follows_ask hq hf

theorem holds_after (hs : s.toHoldings = h) (x : Sigma LaunchCall.Answer) :
    (s.after ctx x).toHoldings = h.move ctx x.1 x.2 := by
  rw [← hs]
  rfl

theorem ends_step {q : LaunchCall} {f : q.Answer → Launching α} {post : α → LaunchState → Prop}
    (hs : s.toHoldings = h) (hq : Allows ctx s q)
    (hf : ∀ x s', s'.toHoldings = h.move ctx q x → Ends ctx (f x) s' post) :
    Ends ctx (ask q >>= f) s post :=
  ends_ask hq fun x => hf x _ (holds_after hs ⟨q, x⟩)

theorem cleaned_after (hs : s.cleaned = true) (x : Sigma LaunchCall.Answer) :
    (s.after ctx x).cleaned = true := by
  change (s.cleaned || _) = true
  rw [hs, Bool.true_or]

theorem Registered.after (hs : Registered ctx s) (x : Sigma LaunchCall.Answer)
    (hx : LaunchState.prepares x.1 = false) : Registered ctx (s.after ctx x) := by
  intro hrequired
  change (s.registered && !LaunchState.prepares x.1 || _) = true
  rw [hs hrequired, hx, Bool.not_false, Bool.and_self, Bool.true_or]

theorem ends_leave {rest : List Resource} (hs : s.toHoldings = h) (hrest : h.droppable rest = true)
    (error : LaunchError) {post : Empty → LaunchState → Prop} : Ends ctx (leave rest error) s post := by
  induction rest generalizing s h with
  | nil =>
    rw [← hs] at hrest
    exact hrest
  | cons resource rest ih =>
    obtain ⟨hfirst, hrest⟩ := Bool.and_eq_true_iff.mp hrest
    refine ends_ask ?_ fun _ => ih (holds_after hs _) hrest
    rw [← hs] at hfirst
    exact hfirst

theorem ends_exit {exit : Launching Empty} {post : α → LaunchState → Prop}
    (hexit : Ends ctx exit s fun _ _ => True) : Ends ctx (exit >>= Empty.elim) s post :=
  hexit.bind (fun a => a.elim) fun _ _ he => he

theorem ends_check {check : Bool} {exit : Launching Empty} {post : Unit → LaunchState → Prop}
    (hexit : check = false → Ends ctx exit s fun _ _ => True) (hs : check = true → post () s) :
    Ends ctx (ensure check exit) s post := by
  cases check with
  | true => exact hs rfl
  | false => exact ends_exit (hexit rfl)

theorem ends_ensure {check : Bool} {exit : Launching Empty} {f : Unit → Launching α}
    {post : α → LaunchState → Prop} (hexit : check = false → Ends ctx exit s fun _ _ => True)
    (hf : check = true → Ends ctx (f ()) s post) : Ends ctx (ensure check exit >>= f) s post := by
  have hcheck : Ends ctx (ensure check exit) s fun _ s' => check = true ∧ s' = s :=
    ends_check hexit fun h => ⟨h, rfl⟩
  refine hcheck.bind (fun _ s' hs' => ?_) fun _ _ he => he
  rw [hs'.2]
  exact hf hs'.1

theorem ends_require {β : Type} {answer : Option β} {exit : Launching Empty} {f : β → Launching α}
    {post : α → LaunchState → Prop} (hexit : answer = none → Ends ctx exit s fun _ _ => True)
    (hf : ∀ b, answer = some b → Ends ctx (f b) s post) :
    Ends ctx (require answer exit >>= f) s post := by
  cases answer with
  | some b => exact hf b rfl
  | none => exact (ends_exit (hexit rfl)).bind (fun _ _ hfalse => hfalse) fun _ _ he => he

theorem ends_orLeave_last {rest : List Resource} {answer : Except LaunchError Unit}
    {post : Unit → LaunchState → Prop} (hs : s.toHoldings = h) (hrest : h.droppable rest = true)
    (hpost : post () s) : Ends ctx (orLeave rest answer) s post := by
  cases answer with
  | ok _ => exact hpost
  | error e => exact ends_exit (ends_leave hs hrest e)

theorem ends_orLeave {rest : List Resource} {answer : Except LaunchError Unit}
    {f : Unit → Launching α} {post : α → LaunchState → Prop} (hs : s.toHoldings = h)
    (hrest : h.droppable rest = true) (hf : Ends ctx (f ()) s post) :
    Ends ctx (orLeave rest answer >>= f) s post := by
  have hleave : Ends ctx (orLeave rest answer) s fun _ s' => s' = s := ends_orLeave_last hs hrest rfl
  refine hleave.bind (fun _ s' hs' => ?_) fun _ _ he => he
  rw [hs']
  exact hf

theorem ends_respond {rest : List Resource} {response : WorkerResponse} (hs : s.toHoldings = h)
    (hwrite : MayWrite ctx s response) (hrest : h.droppable rest = true) (error : LaunchError) :
    Ends ctx (respond rest response error) s fun _ _ => True := by
  refine ends_ask hwrite fun written => ?_
  cases written with
  | ok _ => exact ends_leave (holds_after hs _) hrest error
  | error e => exact ends_leave (holds_after hs _) hrest e

theorem ends_sessionFailed {rest : List Resource} (hs : s.toHoldings = h) (hpam : h.pam = .absent)
    (hended : h.payload.ended = true) (hrest : h.droppable rest = true)
    (code : WorkerSessionFailureCode) : Ends ctx (sessionFailed rest code) s fun _ _ => True := by
  have hwrite : MayWrite ctx s (.sessionFailed code) := by
    subst hs
    exact ⟨hpam, hended⟩
  exact ends_respond hs hwrite hrest _

theorem ends_closeAndFail {rest : List Resource} (hs : s.toHoldings = h)
    (hdrop : h.mayDrop .transaction = true) (hrest : (h.drop .transaction).droppable rest = true)
    (code : WorkerSessionFailureCode) : Ends ctx (closeAndFail rest code) s fun _ _ => True := by
  have hended : h.payload.ended = true := (Bool.and_eq_true_iff.mp hdrop).2
  have hallowed : s.mayDrop .transaction = true := by rw [hs, hdrop]
  refine ends_ask hallowed fun closed => ?_
  have hs' : (s.after ctx ⟨.drop .transaction, closed⟩).toHoldings = h.drop .transaction :=
    holds_after hs _
  exact ends_sessionFailed hs' rfl hended hrest code

end Rules

section Talking
open Calls
variable {ctx : PamSessionLaunch} {s : LaunchState} {h : Holdings} {identity : PayloadScopeIdentity}

/-- A talk with the supervisor leaves the holdings as they are. -/
abbrev Talks {α : Type} (ctx : PamSessionLaunch) (p : Talking α) (s : LaunchState)
    (post : Except LaunchError α → LaunchState → Prop) : Prop :=
  p.Follows (launchDiscipline ctx) s fun r s' => s'.toHoldings = s.toHoldings ∧ post r s'

/-- An acknowledgement that is accepted is that of the scope which is held. -/
theorem talks_awaitPayloadScopeAck (hscope : s.scope = some identity) :
    Talks ctx (awaitPayloadScopeAck ctx identity.invocationId) s
      fun r s' => r = .ok () → s'.registered = true := by
  unfold awaitPayloadScopeAck
  refine follows_ask trivial fun late => ?_
  cases late with
  | true => exact ⟨rfl, by simp⟩
  | false =>
    refine follows_ask trivial fun polled => ?_
    cases polled with
    | timedOut => exact ⟨rfl, by simp⟩
    | failed => exact ⟨rfl, by simp⟩
    | ready signal input hangup =>
      dsimp only
      split
      · refine follows_ask trivial fun _ => ⟨rfl, by simp⟩
      split
      · refine follows_ask trivial fun stream => ?_
        cases stream with
        | error e => exact ⟨rfl, by simp⟩
        | ok _ =>
          refine follows_ask trivial fun request => ?_
          cases request with
          | error e => exact ⟨rfl, by simp⟩
          | ok request =>
            dsimp only
            split
            next hword =>
              refine ⟨rfl, fun _ => Bool.or_eq_true_iff.mpr (Or.inr ?_)⟩
              have hconfirms : LaunchState.confirms s.toHoldings (·.registers ctx)
                  .readControlRequest (.ok request) = true := by
                simp [LaunchState.confirms, hscope, hword]
              exact hconfirms
            next => exact ⟨rfl, by simp⟩
      · exact ⟨rfl, by simp⟩

/-- The request tells the truth about the cleanup, and a release that is accepted is that of the scope
which is held. -/
theorem talks_requestPayloadScopeRelease (hended : s.payload.ended = true) {cleaned : Bool}
    (hcleaned : cleaned = true → s.cleaned = true) :
    Talks ctx (requestPayloadScopeRelease ctx identity cleaned) s
      fun r s' => s.scope = some identity → r = .ok .released → s'.released = true := by
  refine follows_ask hended fun written => ?_
  cases written with
  | error e => exact ⟨rfl, by simp⟩
  | ok _ =>
    refine follows_ask trivial fun stream => ?_
    cases stream with
    | error e => exact ⟨rfl, by simp⟩
    | ok _ =>
      refine follows_ask trivial fun nonce => ?_
      cases nonce with
      | none => exact ⟨rfl, by simp⟩
      | some releaseNonce =>
        refine follows_ask ⟨hended, fun hb =>
          cleaned_after (cleaned_after (cleaned_after (hcleaned hb) _) _) _⟩ fun requested => ?_
        cases requested with
        | error e => exact ⟨rfl, by simp⟩
        | ok _ =>
          refine follows_ask trivial fun late => ?_
          cases late with
          | true => exact ⟨rfl, by simp⟩
          | false =>
            refine follows_ask trivial fun polled => ?_
            cases polled with
            | timedOut => exact ⟨rfl, by simp⟩
            | failed => exact ⟨rfl, by simp⟩
            | ready signal input hangup =>
              cases input with
              | false => exact ⟨rfl, by simp⟩
              | true =>
                refine follows_ask trivial fun response => ?_
                cases response with
                | error e => exact ⟨rfl, by simp⟩
                | ok response =>
                  obtain ⟨version, message⟩ := response
                  rw [orFail, pure_bind]
                  dsimp only
                  split
                  · exact ⟨rfl, by simp⟩
                  next hversion =>
                  split
                  -- only the answer to this nonce releases the pin
                  next hreleases =>
                    refine ⟨rfl, fun hscope _ => Bool.or_eq_true_iff.mpr (Or.inr ?_)⟩
                    have hconfirms : LaunchState.confirms s.toHoldings
                        (fun message nonce => (some releaseNonce).any fun releaseNonce =>
                          message.releases ctx nonce releaseNonce)
                        .readControlRequest (.ok (version, message)) = true := by
                      simp [LaunchState.confirms, hscope, not_not.mp hversion, hreleases]
                    exact hconfirms
                  · split
                    · exact ⟨rfl, by simp⟩
                    · exact ⟨rfl, by simp⟩

end Talking

section Stages
open Calls
variable {ctx : PamSessionLaunch} {s : LaunchState} {h : Holdings} {o : OpenedSession}
  {logind : LogindSessionIdentity} {report : SessionChildReport} {identity : PayloadScopeIdentity}

/-- What is held once the terminal is active: with the payload in its scope, or not yet. -/
def activated (o : OpenedSession) (logind : LogindSessionIdentity) (payload : Payload)
    (scope : Option PayloadScopeIdentity) : Holdings where
  terminal := some ⟨o.vtnr, true⟩
  pam := .opened
  identity := some o.identity
  groups := some o.groups
  logind := some logind
  runner := true
  payload := payload
  scope := scope

theorem held_of_ended (hs : s.toHoldings = activated o logind .absent (some identity)) :
    LaunchEnded s (.error .recoveryHeld) := by
  rw [LaunchEnded, hs]
  exact ⟨rfl, rfl, by simp [activated], by simp [activated]⟩

theorem ends_releasePinOrHold (hs : s.toHoldings = activated o logind .absent (some identity))
    (hreleased : ctx.requiresRegistration = true → s.released = true) :
    Ends ctx releasePinOrHold s
      fun _ s' => s'.toHoldings = activated o logind .absent (some identity) := by
  have hallowed : Allows ctx s .releasePin := by
    rw [Allows, hs]
    exact ⟨by simp [activated], rfl, hreleased⟩
  refine ends_ask hallowed fun unpinned => ?_
  have hs' : (s.after ctx ⟨.releasePin, unpinned⟩).toHoldings =
      activated o logind .absent (some identity) := holds_after hs _
  cases unpinned with
  | true => exact hs'
  | false => exact ends_exit (follows_fail (held_of_ended hs'))

/-- The scope is not given up on anything less than the supervisor's word. -/
theorem ends_releaseBeforeStart (hs : s.toHoldings = activated o logind .absent (some identity))
    {registered cleaned : Bool} (hregistered : ctx.requiresRegistration = true → registered = true)
    (hcleaned : cleaned = true → s.cleaned = true) :
    Ends ctx (releaseBeforeStart ctx identity registered cleaned) s
      fun _ s' => s'.toHoldings = activated o logind .absent (some identity) := by
  unfold releaseBeforeStart
  split
  · have hended : s.payload.ended = true := by
      rw [hs]
      rfl
    have hscope : s.scope = some identity := by rw [hs]; rfl
    refine (talks_requestPayloadScopeRelease hended hcleaned).handle fun r s' hr => ?_
    obtain ⟨hholdings, hreleased⟩ := hr
    have hs' : s'.toHoldings = activated o logind .absent (some identity) := hholdings.trans hs
    cases r with
    | error e => exact ends_exit (follows_fail (held_of_ended hs'))
    | ok outcome =>
      cases outcome with
      | released => exact ends_releasePinOrHold hs' fun _ => hreleased hscope rfl
      | recoveryRequired => exact ends_exit (follows_fail (held_of_ended hs'))
  next hnot => exact ends_releasePinOrHold hs fun hrequired => absurd (hregistered hrequired) hnot

theorem ends_cancelPreparedScope
    (hs : s.toHoldings = activated o logind (.verified report) (some identity)) {registered : Bool}
    (hregistered : ctx.requiresRegistration = true → registered = true) :
    Ends ctx (cancelPreparedScope ctx identity registered) s fun _ _ => True := by
  have hblocked : s.payload.isBlocked = true := by
    rw [hs]
    rfl
  refine ends_ask hblocked fun reaped => ?_
  have hs₁ : (s.after ctx ⟨.abort, reaped⟩).toHoldings = activated o logind .absent (some identity) :=
    holds_after hs _
  have hrest : ∀ {s₂ : LaunchState} {cleaned : Bool},
      s₂.toHoldings = activated o logind .absent (some identity) →
      (cleaned = true → s₂.cleaned = true) →
      Ends ctx (do
        releaseBeforeStart ctx identity registered cleaned
        closeAndFail [.scope, .runner, .terminal] .sessionChildFailed) s₂ fun _ _ => True := by
    intro s₂ cleaned hs₂ hcleaned
    refine (ends_releaseBeforeStart hs₂ hregistered hcleaned).bind (fun _ s₃ hs₃ => ?_) fun _ _ he => he
    exact ends_closeAndFail hs₃ rfl rfl _
  cases reaped with
  | false => exact hrest hs₁ (by simp)
  | true =>
    have hallowed : Allows ctx (s.after ctx ⟨.abort, true⟩) (.cleanup true) := by
      rw [Allows, hs₁]
      exact ⟨by simp [activated], rfl⟩
    refine ends_ask hallowed fun cleaned => ?_
    exact hrest (holds_after hs₁ _) fun hcleaned => Bool.or_eq_true_iff.mpr (Or.inr hcleaned)

theorem ends_reportRelease {cleaned : Bool} (hended : s.payload.ended = true)
    (hcleaned : cleaned = true → s.cleaned = true) :
    Ends ctx (reportRelease ctx identity cleaned) s fun _ s' => s'.toHoldings = s.toHoldings := by
  unfold reportRelease
  split
  · exact (talks_requestPayloadScopeRelease hended hcleaned).handle fun _ _ hr => hr.1
  · rfl

theorem ends_cleanUpCommitted {payload : Payload} (hended : payload.ended = true)
    (hs : s.toHoldings = activated o logind payload (some identity))
    (code : WorkerSessionFailureCode) :
    Ends ctx (cleanUpCommitted ctx identity code) s fun _ _ => True := by
  have hcleanup : Allows ctx s (.cleanup false) := by
    rw [Allows, hs]
    exact ⟨by simp [activated], hended⟩
  refine ends_ask hcleanup fun cleaned => ?_
  have hs₁ : (s.after ctx ⟨.cleanup false, cleaned⟩).toHoldings =
      activated o logind payload (some identity) := holds_after hs _
  have hdrop : Allows ctx (s.after ctx ⟨.cleanup false, cleaned⟩) (.drop .scope) := by
    rw [Allows, hs₁]
    rfl
  refine ends_ask hdrop fun dropped => ?_
  have hs₂ : ((s.after ctx ⟨.cleanup false, cleaned⟩).after ctx ⟨.drop .scope, dropped⟩).toHoldings =
      activated o logind payload none := holds_after hs₁ _
  refine (ends_reportRelease ?_ fun h => ?_).bind (fun _ s₃ hs₃ => ?_) fun _ _ he => he
  · rw [hs₂]
    exact hended
  · exact cleaned_after (Bool.or_eq_true_iff.mpr (Or.inr h)) _
  · refine ends_closeAndFail (hs₃.trans hs₂) ?_ ?_ code
    · simp [Holdings.mayDrop, activated, hended]
    · cases payload with
      | absent => rfl
      | lingering => rfl
      | _ => cases hended

theorem ends_openedRunning (hs : s.toHoldings = activated o logind (.running report) (some identity))
    (hregistered : Registered ctx s) :
    Ends ctx (openedRunning ctx logind identity report) s
      fun session s' => LaunchEnded s' (.ok session) := by
  have hwrite : ∀ {fixtureVersion : Nat} {transaction : WorkerTransactionIdentity},
      Allows ctx s (.write (.started ctx.username ctx.session.id report.childPid report.pgid
        fixtureVersion ctx.workerId logind.id transaction)) := by
    intro fixtureVersion transaction
    rw [Allows, MayWrite, hs]
    exact ⟨rfl, hregistered, by simp [activated], ⟨report, rfl, rfl, rfl⟩, logind, rfl, rfl⟩
  refine ends_ask hwrite fun written => ?_
  have hs₁ : (s.after ctx ⟨_, written⟩).toHoldings =
      activated o logind (.running report) (some identity) := holds_after hs _
  refine ends_orLeave hs₁ rfl (follows_pure ?_)
  change LaunchEnded _ _
  rw [LaunchEnded, hs₁]
  exact ⟨rfl, rfl, rfl, rfl, by simp [activated]⟩

theorem ends_verifyContext
    (hs : s.toHoldings = activated o logind (.running report) (some identity))
    (hregistered : Registered ctx s) (selinuxContext : Option String) :
    Ends ctx (verifyContext ctx identity selinuxContext report) s fun _ s' =>
      s'.toHoldings = activated o logind (.running report) (some identity) ∧ Registered ctx s' := by
  cases selinuxContext with
  | none => exact ⟨hs, hregistered⟩
  | some expected =>
    refine ends_ask trivial fun observed => ?_
    have hs₁ : (s.after ctx ⟨.contextForPid report.childPid, observed⟩).toHoldings =
        activated o logind (.running report) (some identity) := holds_after hs _
    refine ends_check (fun _ => ?_) fun _ => ⟨hs₁, hregistered.after _ rfl⟩
    have hterminate : Allows ctx (s.after ctx ⟨.contextForPid report.childPid, observed⟩)
        .terminateChild := by
      rw [Allows, hs₁]
      exact ⟨report, rfl⟩
    refine ends_ask hterminate fun terminated => ?_
    have hended : (if terminated then Payload.absent else .lingering).ended = true := by
      cases terminated with
      | true => rfl
      | false => rfl
    exact ends_cleanUpCommitted hended (holds_after hs₁ _) _

theorem ends_openedCommit
    (hs : s.toHoldings = activated o logind (.verified report) (some identity))
    (hproof : validTerminalProof report o.vtnr = true) (hregistered : Registered ctx s)
    (selinuxContext : Option String) :
    Ends ctx (openedCommit ctx logind selinuxContext identity) s
      fun session s' => LaunchEnded s' (.ok session) := by
  refine ends_ask trivial fun signal => ?_
  have hs₁ : (s.after ctx ⟨.pendingWorkerSignal, signal⟩).toHoldings =
      activated o logind (.verified report) (some identity) := holds_after hs _
  have hregistered₁ := hregistered.after ⟨.pendingWorkerSignal, signal⟩ rfl
  cases signal with
  | error _ => exact ends_exit (ends_leave hs₁ rfl _)
  | ok signal =>
    cases signal with
    | some _ => exact ends_exit (ends_cancelPreparedScope hs₁ id)
    | none =>
      have hcommit : Allows ctx (s.after ctx ⟨.pendingWorkerSignal, .ok none⟩) .commitExec := by
        refine ⟨rfl, ?_, hregistered₁, ?_, report, ⟨o.vtnr, true⟩, ?_⟩
        · rw [hs₁]
          rfl
        · rw [hs₁]
          simp [activated]
        · rw [hs₁]
          exact ⟨rfl, rfl, rfl, hproof⟩
      refine ends_ask hcommit fun committed => ?_
      refine ends_require (fun hnone => ?_) fun report' hsome => ?_
      · subst hnone
        have hs₂ : ((s.after ctx ⟨.pendingWorkerSignal, .ok none⟩).after ctx
            ⟨.commitExec, none⟩).toHoldings = activated o logind .absent (some identity) :=
          holds_after hs₁ _
        exact ends_cleanUpCommitted rfl hs₂ _
      · subst hsome
        have hs₂ : ((s.after ctx ⟨.pendingWorkerSignal, .ok none⟩).after ctx
            ⟨.commitExec, some report'⟩).toHoldings =
              activated o logind (.running report') (some identity) := holds_after hs₁ _
        refine (ends_verifyContext hs₂ (hregistered₁.after _ rfl) selinuxContext).bind
          (fun _ s₃ hs₃ => ?_) fun _ _ he => he
        exact ends_openedRunning hs₃.1 hs₃.2

theorem ends_dropUnannounced
    (hs : s.toHoldings = activated o logind (.verified report) (some identity)) (e : LaunchError) :
    Ends ctx (dropUnannounced e) s fun _ _ => True := by
  have habort : Allows ctx s .abort := by
    rw [Allows, hs]
    rfl
  refine ends_ask habort fun aborted => ?_
  have hs₁ : (s.after ctx ⟨.abort, aborted⟩).toHoldings =
      activated o logind .absent (some identity) := holds_after hs _
  have hcleanup : Allows ctx (s.after ctx ⟨.abort, aborted⟩) (.cleanup false) := by
    rw [Allows, hs₁]
    exact ⟨by simp [activated], rfl⟩
  refine ends_ask hcleanup fun cleaned => ?_
  -- the two drops are the first of those on the way out
  have hs₂ : ((s.after ctx ⟨.abort, aborted⟩).after ctx ⟨.cleanup false, cleaned⟩).toHoldings =
      activated o logind .absent (some identity) := holds_after hs₁ _
  have hdrops : (activated o logind .absent (some identity)).droppable
      [.scope, .transaction, .runner, .terminal] = true := rfl
  exact ends_leave hs₂ hdrops e

theorem ends_scopeAcknowledged
    (hs : s.toHoldings = activated o logind (.verified report) (some identity)) :
    Ends ctx (scopeAcknowledged ctx identity) s fun acknowledged s' =>
      s'.toHoldings = activated o logind (.verified report) (some identity) ∧
        (acknowledged = true → s'.registered = true) := by
  have hscope : s.scope = some identity := by rw [hs]; rfl
  refine (talks_awaitPayloadScopeAck hscope).handle fun r s' hr => ?_
  obtain ⟨hholdings, hregistered⟩ := hr
  cases r with
  | ok _ => exact ⟨hholdings.trans hs, fun _ => hregistered rfl⟩
  | error e => exact ⟨hholdings.trans hs, by simp⟩

theorem ends_registerScope
    (hs : s.toHoldings = activated o logind (.verified report) (some identity)) :
    Ends ctx (registerScope ctx report identity) s fun _ s' =>
      s'.toHoldings = activated o logind (.verified report) (some identity) ∧ Registered ctx s' := by
  have hwrite : Allows ctx s (.write (.payloadScopePrepared ctx.workerId
      { ctx.transaction with stage := "scope_prepared" } ctx.workerPid report.childPid
      identity.invocationId identity)) := by
    rw [Allows, MayWrite, hs]
    exact ⟨rfl, rfl, report, rfl, rfl⟩
  refine ends_ask hwrite fun written => ?_
  cases written with
  | error e => exact ends_exit (ends_dropUnannounced (holds_after hs _) e)
  | ok _ =>
    refine ends_ask trivial fun gate => ?_
    refine ends_orLeave (holds_after (holds_after hs _) _) rfl ?_
    refine (ends_scopeAcknowledged (holds_after (holds_after hs _) _)).bind
      (fun acknowledged s₁ hs₁ => ?_) fun _ _ he => he
    refine ends_ensure (fun _ => ends_cancelPreparedScope hs₁.1 fun _ => rfl) fun hack => ?_
    refine ends_ask trivial fun gate => ?_
    refine ends_orLeave_last (holds_after hs₁.1 _) rfl ⟨holds_after hs₁.1 _, ?_⟩
    have hregistered : Registered ctx s₁ := fun _ => hs₁.2 hack
    exact hregistered.after _ rfl

theorem ends_openedRegistration
    (hs : s.toHoldings = activated o logind (.verified report) (some identity))
    (hproof : validTerminalProof report o.vtnr = true) (selinuxContext : Option String) :
    Ends ctx (openedRegistration ctx logind selinuxContext report identity) s
      fun session s' => LaunchEnded s' (.ok session) := by
  have hregistered : Ends ctx (if ctx.requiresRegistration then registerScope ctx report identity
      else pure ()) s fun _ s' =>
        s'.toHoldings = activated o logind (.verified report) (some identity) ∧ Registered ctx s' := by
    split
    next => exact ends_registerScope hs
    next hnot => exact follows_pure ⟨hs, fun hrequired => absurd hrequired hnot⟩
  exact hregistered.bind (fun _ _ h => ends_openedCommit h.1 hproof h.2 selinuxContext)
    fun _ _ he => he

/-- What is held from the opening of the PAM session until the terminal is activated. -/
def opened (o : OpenedSession) (logind : Option LogindSessionIdentity) (runner : Bool)
    (payload : Payload) : Holdings where
  terminal := some ⟨o.vtnr, false⟩
  pam := .opened
  identity := some o.identity
  groups := some o.groups
  logind := logind
  runner := runner
  payload := payload

theorem move_childIsInSession {resolved : Except Unit (Option LogindSessionIdentity)}
    (hin : childIsInSession ctx o logind resolved = true) :
    (opened o (some logind) true (.blocked report)).move ctx (.resolveByPid report.childPid) resolved =
      opened o (some logind) true (.verified report) := by
  unfold childIsInSession at hin
  split at hin
  next child =>
    obtain ⟨hid, hvalid⟩ := Bool.and_eq_true_iff.mp hin
    have hid : child.id = logind.id := of_decide_eq_true hid
    simp [Holdings.move, Holdings.resolved, opened, Holdings.inSession, Holdings.sessionOf, hid, hvalid]
  next => cases hin

theorem move_resolveByPid (ctx : PamSessionLaunch) (o : OpenedSession) (logind : LogindSessionIdentity)
    (report : SessionChildReport) (pid : Nat) (resolved : Except Unit (Option LogindSessionIdentity)) :
    ∃ payload, payload.isBlocked = true ∧
      (opened o (some logind) true (.blocked report)).move ctx (.resolveByPid pid) resolved =
        opened o (some logind) true payload := by
  cases resolved with
  | error _ => exact ⟨.blocked report, rfl, rfl⟩
  | ok resolved =>
    cases resolved with
    | none => exact ⟨.blocked report, rfl, rfl⟩
    | some child =>
      dsimp only [Holdings.move, Holdings.resolved, opened]
      split
      · exact ⟨.verified report, rfl, rfl⟩
      · exact ⟨.blocked report, rfl, rfl⟩

theorem ends_abortAndFail {h : Holdings} (hs : s.toHoldings = h) (hblocked : h.payload.isBlocked = true)
    (hdrop : (h.drop .handoff).mayDrop .transaction = true)
    (hrest : ((h.drop .handoff).drop .transaction).droppable [.runner, .terminal] = true)
    (code : WorkerSessionFailureCode) : Ends ctx (abortAndFail code) s fun _ _ => True := by
  have habort : Allows ctx s .abort := by
    rw [Allows, hs]
    exact hblocked
  refine ends_ask habort fun aborted => ?_
  have hs' : (s.after ctx ⟨.abort, aborted⟩).toHoldings = h.drop .handoff := holds_after hs _
  exact ends_closeAndFail hs' hdrop hrest code

theorem ends_preparePayload
    (hs : s.toHoldings = activated o logind (.verified report) none)
    (hproof : validTerminalProof report o.vtnr = true) (selinuxContext : Option String) :
    Ends ctx (preparePayload ctx o logind selinuxContext report) s
      fun session s' => LaunchEnded s' (.ok session) := by
  refine ends_step hs trivial fun late s hs => ?_
  refine ends_ensure (fun _ => ends_abortAndFail hs rfl rfl rfl _) fun _ => ?_
  refine ends_ensure (fun _ => ends_abortAndFail hs rfl rfl rfl _) fun _ => ?_
  refine ends_orLeave hs rfl ?_
  have hprepare : Allows ctx s (.prepareScope report.childPid o.identity.uid logind.id) := by
    rw [Allows, hs]
    exact ⟨⟨report, rfl, rfl⟩, ⟨o.identity, rfl, rfl⟩, logind, rfl, rfl⟩
  refine ends_step hs hprepare fun prepared s hs => ?_
  cases prepared with
  | error _ => exact ends_exit (ends_abortAndFail hs rfl rfl rfl _)
  | ok identity => exact ends_openedRegistration hs hproof selinuxContext

theorem ends_checkedHandoff (hs : s.toHoldings = opened o (some logind) true (.blocked report))
    (selinuxContext : Option String) :
    Ends ctx (checkedHandoff ctx o logind selinuxContext report) s
      fun session s' => LaunchEnded s' (.ok session) := by
  refine ends_step hs trivial fun late s hs => ?_
  refine ends_ensure (fun _ => ends_abortAndFail hs rfl rfl rfl _) fun _ => ?_
  refine ends_ensure (fun _ => ends_abortAndFail hs rfl rfl rfl _) fun hproof => ?_
  refine ends_step hs trivial fun resolved s hs => ?_
  refine ends_ensure (fun _ => ?_) fun hin => ?_
  · obtain ⟨payload, hblocked, hmove⟩ := move_resolveByPid ctx o logind report report.childPid resolved
    refine ends_abortAndFail (hs.trans hmove) hblocked rfl rfl _
  · replace hs : s.toHoldings = opened o (some logind) true (.verified report) :=
      hs.trans (move_childIsInSession hin)
    have hactivate : Allows ctx s .activateTerminal := by
      rw [Allows, hs]
      exact ⟨report, rfl⟩
    refine ends_step hs hactivate fun activated s hs => ?_
    refine ends_ensure (fun hfailed => ?_) fun hactive => ?_
    · subst hfailed
      exact ends_abortAndFail hs rfl rfl rfl _
    · subst hactive
      exact ends_preparePayload hs hproof selinuxContext

theorem ends_openedHandoffScope (hs : s.toHoldings = opened o (some logind) true .absent)
    {expectation : SessionChildExpectation}
    (htarget : expectation.target = ⟨o.identity.uid, o.identity.gid, o.groups⟩)
    (hsession : expectation.logindSessionId = logind.id) (selinuxContext : Option String) :
    Ends ctx (openedHandoffScope ctx o logind selinuxContext expectation) s
      fun session s' => LaunchEnded s' (.ok session) := by
  have hrun : Allows ctx s (.runChildUntilReady expectation) := by
    rw [Allows, hs]
    exact ⟨rfl, rfl, rfl, ⟨o.identity, o.groups, rfl, rfl, htarget⟩, logind, rfl, hsession⟩
  refine ends_step hs hrun fun ready s hs => ?_
  refine ends_require (fun hnone => ?_) fun report hsome => ?_
  · subst hnone
    exact ends_closeAndFail hs rfl rfl _
  subst hsome
  refine ends_step hs trivial fun gate s hs => ?_
  refine ends_orLeave hs rfl ?_
  refine ends_step hs trivial fun signal s hs => ?_
  replace hs : s.toHoldings = opened o (some logind) true (.blocked report) := hs
  cases signal with
  | error _ => exact ends_exit (ends_leave hs rfl _)
  | ok signal =>
    cases signal with
    | some _ => exact ends_exit (ends_abortAndFail hs rfl rfl rfl _)
    | none => exact ends_checkedHandoff hs selinuxContext

/-- The worker's own session is taken in where it is the right one. -/
theorem move_workerSession (pid : Nat) (resolved : Except Unit (Option LogindSessionIdentity)) :
    (opened o none false .absent).move ctx (.resolveByPid pid) resolved =
      opened o (workerSession ctx o resolved) false .absent := by
  cases resolved with
  | error _ => rfl
  | ok resolved =>
    cases resolved with
    | none => rfl
    | some identity =>
      cases hvalid : validLogindIdentity ctx o.identity.uid o.vtnr identity with
      | true => simp [Holdings.move, Holdings.resolved, opened, Holdings.sessionOf, workerSession, hvalid]
      | false => simp [Holdings.move, Holdings.resolved, opened, Holdings.sessionOf, workerSession, hvalid]

theorem ends_clearCaptured (hs : s.toHoldings = opened o (some logind) false .absent)
    (selinuxContext : Option String) :
    Ends ctx (clearCaptured selinuxContext) s
      fun _ s' => s'.toHoldings = opened o (some logind) false .absent := by
  cases selinuxContext with
  | none => exact hs
  | some context =>
    refine ends_step hs trivial fun cleared s hs => ?_
    exact ends_check (fun _ => ends_closeAndFail hs rfl rfl _) fun _ => hs

theorem ends_openedEnvironment (hs : s.toHoldings = opened o none false .absent) :
    Ends ctx (openedEnvironment ctx o) s fun session s' => LaunchEnded s' (.ok session) := by
  refine ends_step hs trivial fun environment s hs => ?_
  refine ends_require (fun _ => ends_closeAndFail hs rfl rfl _) fun environment _ => ?_
  refine ends_step hs trivial fun resolved s hs => ?_
  replace hs : s.toHoldings = opened o (workerSession ctx o resolved) false .absent :=
    hs.trans (move_workerSession ctx.workerPid resolved)
  refine ends_require (fun _ => ends_closeAndFail hs rfl rfl _) fun logind hlogind => ?_
  rw [hlogind] at hs
  refine ends_ensure (fun _ => ends_closeAndFail hs rfl rfl _) fun _ => ?_
  refine ends_step hs trivial fun validated s hs => ?_
  refine ends_ensure (fun _ => ends_closeAndFail hs rfl rfl _) fun _ => ?_
  refine ends_step hs trivial fun captured s hs => ?_
  refine ends_require (fun _ => ends_closeAndFail hs rfl rfl _) fun selinuxContext _ => ?_
  refine (ends_clearCaptured hs selinuxContext).bind (fun _ s hs => ?_) fun _ _ he => he
  refine ends_step hs trivial fun duplicated s hs => ?_
  refine ends_ensure (fun _ => ends_closeAndFail hs rfl rfl _) fun _ => ?_
  refine ends_step hs trivial fun built s hs => ?_
  refine ends_ensure (fun hfailed => ?_) fun hbuilt => ?_
  · subst hfailed
    exact ends_closeAndFail hs rfl rfl _
  subst hbuilt
  refine ends_ensure (fun _ => ends_closeAndFail hs rfl rfl _) fun _ => ?_
  exact ends_openedHandoffScope hs rfl rfl selinuxContext

theorem ends_authenticateAndOpen {vtnr : Nat}
    (hs : s.toHoldings = { terminal := some ⟨vtnr, false⟩ }) :
    Ends ctx (authenticateAndOpen ctx vtnr) s fun session s' => LaunchEnded s' (.ok session) := by
  have hauthenticate : Allows ctx s (.authenticate ctx.username) := by
    rw [Allows, hs]
    exact ⟨by simp, rfl⟩
  refine ends_step hs hauthenticate fun authenticated s hs => ?_
  cases authenticated with
  | error e =>
    have hwrite : ∀ response, response = .authenticationFailed ∨ response = .rejected .internalError →
        MayWrite ctx s response := by
      rintro _ (rfl | rfl)
      · rw [MayWrite, hs]
        exact ⟨rfl, rfl⟩
      · rw [MayWrite, hs]
        exact ⟨rfl, rfl⟩
    cases e with
    | loginFailed => exact ends_exit (ends_respond hs (hwrite _ (Or.inl rfl)) rfl _)
    | infrastructureFailed => exact ends_exit (ends_respond hs (hwrite _ (Or.inr rfl)) rfl _)
    | authenticatedIdentityUnavailable => exact ends_exit (ends_sessionFailed hs rfl rfl rfl _)
  | ok pamUsername =>
    refine ends_step hs trivial fun identity s hs => ?_
    refine ends_require (fun hnone => ?_) fun identity hsome => ?_
    · subst hnone
      exact ends_closeAndFail hs rfl rfl _
    subst hsome
    refine ends_step hs trivial fun groups s hs => ?_
    refine ends_require (fun hnone => ?_) fun groups hsome => ?_
    · subst hnone
      exact ends_closeAndFail hs rfl rfl _
    subst hsome
    refine ends_step hs ?_ fun opening s hs => ?_
    · rw [Allows, hs]
      exact ⟨rfl, ⟨vtnr, false⟩, rfl, rfl⟩
    cases opening with
    | opened => exact ends_openedEnvironment hs
    | failed => exact ends_exit (ends_closeAndFail hs rfl rfl _)
    | panicked => exact ends_exit (ends_closeAndFail hs rfl rfl _)

/-- Before there is a PAM session, no logind session is the worker's. -/
theorem move_unopened (pid : Nat) (resolved : Except Unit (Option LogindSessionIdentity)) :
    ({} : Holdings).move ctx (.resolveByPid pid) resolved = {} := by
  cases resolved with
  | error _ => rfl
  | ok resolved =>
    cases resolved with
    | none => rfl
    | some identity => rfl

theorem ends_bindListener (hs : s.toHoldings = {}) :
    Ends ctx (bindListener ctx) s fun _ s' => s'.toHoldings = {} := by
  unfold bindListener
  split
  · exact hs
  · refine ends_step hs trivial fun bound s hs => ?_
    exact ends_orLeave_last hs rfl hs

theorem ends_runPamSession (ctx : PamSessionLaunch) (hs : s.toHoldings = {}) :
    Ends ctx (runPamSession ctx) s fun session s' => LaunchEnded s' (.ok session) := by
  refine ends_ensure (fun _ => ends_sessionFailed hs rfl rfl rfl _) fun _ => ?_
  refine ends_step hs trivial fun usable s hs => ?_
  refine ends_ensure (fun _ => ends_sessionFailed hs rfl rfl rfl _) fun _ => ?_
  refine ends_step hs trivial fun authorized s hs => ?_
  refine ends_ensure (fun _ => ?_) fun _ => ?_
  · refine ends_respond hs ?_ rfl _
    rw [MayWrite, hs]
    exact ⟨rfl, rfl⟩
  refine ends_step hs trivial fun member s hs => ?_
  replace hs : s.toHoldings = {} := hs.trans (move_unopened ctx.workerPid member)
  refine ends_ensure (fun _ => ends_sessionFailed hs rfl rfl rfl _) fun _ => ?_
  refine (ends_bindListener hs).bind (fun _ s hs => ?_) fun _ _ he => he
  refine ends_step hs ?_ fun allocated s hs => ?_
  · rw [Allows, hs]
  refine ends_require (fun hnone => ?_) fun vtnr hsome => ?_
  · subst hnone
    exact ends_sessionFailed hs rfl rfl rfl _
  subst hsome
  exact ends_authenticateAndOpen hs

/-- A launch, from the request until the session has started, whatever the system, the supervisor and the
session child answer: each call is one that its discipline allows, and the launch ends with the session
started, with nothing held any more, or with scope, PAM session and terminal still held. -/
theorem worker_launch_disciplined (ctx : PamSessionLaunch) (host : Host LaunchCall.Answer) :
    ∃ r log, (runPamSession ctx).run host [] = (r, log) ∧ (launchDiscipline ctx).Obeyed {} log ∧
      LaunchEnded ((launchDiscipline ctx).state {} log) r := by
  obtain ⟨hobeyed, hended⟩ := (ends_runPamSession ctx (s := {}) rfl).run host
  refine ⟨_, _, rfl, hobeyed, ?_⟩
  cases hr : ((runPamSession ctx).run host []).1 with
  | ok session =>
    rw [hr] at hended
    exact hended
  | error exit =>
    rw [hr] at hended
    exact hended

end Stages

end Niralis.WorkerLaunch
