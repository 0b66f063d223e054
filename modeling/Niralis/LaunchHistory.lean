import Niralis.WorkerLaunchSafety

namespace Niralis.WorkerLaunch
open Calls

abbrev LaunchLog := List (Sigma LaunchCall.Answer)

def Prepared (log : LaunchLog) (identity : PayloadScopeIdentity) : Prop :=
  ∃ pid uid id, ⟨.prepareScope pid uid id, .ok identity⟩ ∈ log

/-- The supervisor has written that it knows the scope. -/
def Acknowledged (ctx : PamSessionLaunch) (log : LaunchLog) (identity : PayloadScopeIdentity) : Prop :=
  ∃ message, ⟨.readControlRequest, .ok (workerControlProtocolVersion, message)⟩ ∈ log ∧
    message.registers ctx identity.invocationId = true

/-- What a session program is started on, in terms of the calls before. -/
structure Founded (ctx : PamSessionLaunch) (before : LaunchLog) : Prop where
  unsignalled : ∃ earlier, before = earlier ++ [⟨.pendingWorkerSignal, .ok none⟩]
  opened : ∃ metadata, ⟨.openSession metadata, .opened⟩ ∈ before
  activated : ⟨.activateTerminal, true⟩ ∈ before
  registered : ∃ identity, Prepared before identity ∧
    (ctx.requiresRegistration = true → Acknowledged ctx before identity)

section Moves
variable {ctx : PamSessionLaunch} {h : Holdings}

/-- What logind says changes what is known about the sessions, and nothing else. -/
theorem resolved_unchanged (pid : Nat) (identity : LogindSessionIdentity) :
    (h.resolved ctx pid identity).pam = h.pam ∧ (h.resolved ctx pid identity).terminal = h.terminal ∧
      (h.resolved ctx pid identity).scope = h.scope := by
  unfold Holdings.resolved
  split
  · split
    · exact ⟨rfl, rfl, rfl⟩
    · exact ⟨rfl, rfl, rfl⟩
  · split
    · exact ⟨rfl, rfl, rfl⟩
    · exact ⟨rfl, rfl, rfl⟩
  · exact ⟨rfl, rfl, rfl⟩

/-- The calls that change what PAM, the terminal or the scope is. -/
def LaunchCall.moves : LaunchCall → Bool
  | allocateTerminal | authenticate _ | openSession _ | activateTerminal | prepareScope _ _ _
  | drop _ => true
  | _ => false

theorem move_unchanged {q : LaunchCall} (a : q.Answer) (hq : q.moves = false) :
    (h.move ctx q a).pam = h.pam ∧ (h.move ctx q a).terminal = h.terminal ∧
      (h.move ctx q a).scope = h.scope := by
  unfold Holdings.move
  split
  case h_8 => exact resolved_unchanged _ _
  all_goals first
    | exact ⟨rfl, rfl, rfl⟩
    | cases hq

theorem pam_move {q : LaunchCall} {a : q.Answer} (hpam : (h.move ctx q a).pam = .opened) :
    h.pam = .opened ∨ ∃ metadata, (⟨q, a⟩ : Sigma LaunchCall.Answer) = ⟨.openSession metadata, .opened⟩ := by
  cases q with
  | allocateTerminal =>
    cases a with
    | none => exact Or.inl hpam
    | some vtnr => exact Or.inl hpam
  | authenticate username =>
    cases a with
    | ok _ => cases hpam
    | error _ => exact Or.inl hpam
  | openSession metadata =>
    cases a with
    | opened => exact Or.inr ⟨metadata, rfl⟩
    | _ => exact Or.inl hpam
  | activateTerminal =>
    cases a with
    | true => exact Or.inl hpam
    | false => exact Or.inl hpam
  | prepareScope pid uid id =>
    cases a with
    | ok _ => exact Or.inl hpam
    | error _ => exact Or.inl hpam
  | drop resource =>
    cases resource with
    | transaction => cases hpam
    | _ => exact Or.inl hpam
  | _ =>
    rw [(move_unchanged a rfl).1] at hpam
    exact Or.inl hpam

theorem active_move {q : LaunchCall} {a : q.Answer} {terminal : Terminal}
    (hterminal : (h.move ctx q a).terminal = some terminal) (hactive : terminal.active = true) :
    h.terminal = some terminal ∨ (⟨q, a⟩ : Sigma LaunchCall.Answer) = ⟨.activateTerminal, true⟩ := by
  cases q with
  | allocateTerminal =>
    cases a with
    | none => exact Or.inl hterminal
    | some vtnr =>
      obtain rfl := Option.some.inj hterminal
      cases hactive
  | authenticate username =>
    cases a with
    | ok _ => exact Or.inl hterminal
    | error _ => exact Or.inl hterminal
  | openSession metadata =>
    cases a with
    | _ => exact Or.inl hterminal
  | activateTerminal =>
    cases a with
    | true => exact Or.inr rfl
    | false => exact Or.inl hterminal
  | prepareScope pid uid id =>
    cases a with
    | ok _ => exact Or.inl hterminal
    | error _ => exact Or.inl hterminal
  | drop resource =>
    cases resource with
    | terminal => cases hterminal
    | _ => exact Or.inl hterminal
  | _ =>
    rw [(move_unchanged a rfl).2.1] at hterminal
    exact Or.inl hterminal

theorem scope_move {q : LaunchCall} {a : q.Answer} {identity : PayloadScopeIdentity}
    (hscope : (h.move ctx q a).scope = some identity) :
    h.scope = some identity ∨
      ∃ pid uid id, (⟨q, a⟩ : Sigma LaunchCall.Answer) = ⟨.prepareScope pid uid id, .ok identity⟩ := by
  cases q with
  | allocateTerminal =>
    cases a with
    | none => exact Or.inl hscope
    | some vtnr => exact Or.inl hscope
  | authenticate username =>
    cases a with
    | ok _ => exact Or.inl hscope
    | error _ => exact Or.inl hscope
  | openSession metadata =>
    cases a with
    | _ => exact Or.inl hscope
  | activateTerminal =>
    cases a with
    | true => exact Or.inl hscope
    | false => exact Or.inl hscope
  | prepareScope pid uid id =>
    cases a with
    | ok prepared =>
      obtain rfl := Option.some.inj hscope
      exact Or.inr ⟨pid, uid, id, rfl⟩
    | error _ => exact Or.inl hscope
  | drop resource =>
    cases resource with
    | scope => cases hscope
    | _ => exact Or.inl hscope
  | _ =>
    rw [(move_unchanged a rfl).2.2] at hscope
    exact Or.inl hscope

end Moves

/-- The state of a launch, in terms of the calls that have led to it. -/
structure Traced (ctx : PamSessionLaunch) (s : LaunchState) (log : LaunchLog) : Prop where
  quiet : s.quiet = true → ∃ earlier, log = earlier ++ [⟨.pendingWorkerSignal, .ok none⟩]
  opened : s.pam = .opened → ∃ metadata, ⟨.openSession metadata, .opened⟩ ∈ log
  active : ∀ terminal, s.terminal = some terminal → terminal.active = true →
    ⟨.activateTerminal, true⟩ ∈ log
  scope : ∀ identity, s.scope = some identity → Prepared log identity
  registered : ∀ identity, s.scope = some identity → s.registered = true →
    Acknowledged ctx log identity

section Traces
variable {ctx : PamSessionLaunch} {s : LaunchState} {log : LaunchLog}

theorem eq_of_findsNoSignal {q : LaunchCall} {a : q.Answer}
    (h : LaunchState.findsNoSignal q a = true) :
    (⟨q, a⟩ : Sigma LaunchCall.Answer) = ⟨.pendingWorkerSignal, .ok none⟩ := by
  unfold LaunchState.findsNoSignal at h
  split at h
  · rfl
  · cases h

theorem eq_of_confirms {h : Holdings} {word : SupervisorMessage → String → Bool} {q : LaunchCall}
    {a : q.Answer} (hconfirms : LaunchState.confirms h word q a = true) :
    ∃ message scope, (⟨q, a⟩ : Sigma LaunchCall.Answer) =
        ⟨.readControlRequest, .ok (workerControlProtocolVersion, message)⟩ ∧
      h.scope = some scope ∧ word message scope.invocationId = true := by
  unfold LaunchState.confirms at hconfirms
  split at hconfirms
  next version message =>
    obtain ⟨hversion, hword⟩ := Bool.and_eq_true_iff.mp hconfirms
    obtain rfl := of_decide_eq_true hversion
    cases hscope : h.scope with
    | none =>
      rw [hscope] at hword
      cases hword
    | some scope =>
      rw [hscope] at hword
      exact ⟨message, scope, rfl, rfl, hword⟩
  next => cases hconfirms

theorem Prepared.concat {identity : PayloadScopeIdentity} (h : Prepared log identity)
    (x : Sigma LaunchCall.Answer) : Prepared (log ++ [x]) identity := by
  obtain ⟨pid, uid, id, hmem⟩ := h
  exact ⟨pid, uid, id, List.mem_append_left _ hmem⟩

theorem Acknowledged.concat {identity : PayloadScopeIdentity} (h : Acknowledged ctx log identity)
    (x : Sigma LaunchCall.Answer) : Acknowledged ctx (log ++ [x]) identity := by
  obtain ⟨message, hmem, hregisters⟩ := h
  exact ⟨message, List.mem_append_left _ hmem, hregisters⟩

theorem Traced.after (h : Traced ctx s log) (x : Sigma LaunchCall.Answer) :
    Traced ctx (s.after ctx x) (log ++ [x]) := by
  obtain ⟨q, a⟩ := x
  refine ⟨fun hquiet => ⟨log, ?_⟩, fun hpam => ?_, fun terminal hterminal hactive => ?_,
    fun identity hscope => ?_, fun identity hscope hregistered => ?_⟩
  · rw [eq_of_findsNoSignal hquiet]
  · rcases pam_move hpam with hbefore | ⟨metadata, hx⟩
    · obtain ⟨metadata, hmem⟩ := h.opened hbefore
      exact ⟨metadata, List.mem_append_left _ hmem⟩
    · exact ⟨metadata, by simp [hx]⟩
  · rcases active_move hterminal hactive with hbefore | hx
    · exact List.mem_append_left _ (h.active terminal hbefore hactive)
    · simp [hx]
  · rcases scope_move hscope with hbefore | ⟨pid, uid, id, hx⟩
    · exact (h.scope identity hbefore).concat _
    · exact ⟨pid, uid, id, by simp [hx]⟩
  · rcases Bool.or_eq_true_iff.mp hregistered with hkept | hconfirms
    · obtain ⟨hbefore, hprepares⟩ := Bool.and_eq_true_iff.mp hkept
      rcases scope_move hscope with hscope' | ⟨pid, uid, id, hx⟩
      · exact (h.registered identity hscope' hbefore).concat _
      -- a scope that has just been prepared is not registered
      · cases hx
        cases hprepares
    · obtain ⟨message, scope, hx, hscope', hword⟩ := eq_of_confirms hconfirms
      cases hx
      obtain rfl := Option.some.inj (hscope'.symm.trans hscope)
      exact ⟨message, by simp, hword⟩

theorem traced (ctx : PamSessionLaunch) (log : LaunchLog) :
    Traced ctx ((launchDiscipline ctx).state {} log) log := by
  induction log using List.reverseRecOn with
  | nil => exact ⟨by simp [Discipline.state], by simp [Discipline.state], by simp [Discipline.state],
      by simp [Discipline.state], by simp [Discipline.state]⟩
  | append_singleton log x ih =>
    rw [Discipline.state_concat]
    exact ih.after x

end Traces

/-- Whatever the host answers, a session program is started only on an open PAM session and an active
terminal, in a scope that was prepared for it, with no signal pending, and, where the supervisor has to
know the scope, after the supervisor has written that it does. -/
theorem commit_founded (ctx : PamSessionLaunch) (host : Host LaunchCall.Answer) :
    ∃ r log, (runPamSession ctx).run host [] = (r, log) ∧
      ∀ before committed after, log = before ++ ⟨.commitExec, committed⟩ :: after → Founded ctx before := by
  obtain ⟨hobeyed, -⟩ := (ends_runPamSession ctx (s := {}) rfl).run host
  refine ⟨_, _, rfl, fun before committed after hlog => ?_⟩
  have hcommit : MayCommit ctx ((launchDiscipline ctx).state {} before) := hobeyed before _ after hlog
  have htraced := traced ctx before
  obtain ⟨report, terminal, -, hterminal, hactive, -⟩ := hcommit.payload
  obtain ⟨identity, hidentity⟩ := Option.ne_none_iff_exists'.mp hcommit.scope
  exact ⟨htraced.quiet hcommit.quiet, htraced.opened hcommit.pam,
    htraced.active terminal hterminal hactive, identity, htraced.scope identity hidentity,
    fun hrequired => htraced.registered identity hidentity (hcommit.registered hrequired)⟩

section Example

private def swaySession : PamSessionLaunch where
  username := "ana"
  session := ⟨"sway", "Sway", .wayland⟩
  launchPlan := ⟨[47, 115], [47, 98], [[47, 98]]⟩
  sessionProbePath := [47, 112]
  controlPath := [47, 99]
  workerId := "worker-1"
  workerPid := 40
  transaction := ⟨"tx-1", 1, "worker-1", "seat0", 1, "spawned"⟩
  requiresRegistration := true

private def swayLogind : LogindSessionIdentity :=
  ⟨"c1", 1000, "wayland", "user", some "sway", some "seat0", some 2⟩

private def swayScope : PayloadScopeIdentity := ⟨"niralis-payload-1.scope", "0f", 1000, "c1"⟩

private def swayReport : SessionChildReport := ⟨41, 41, 41, some ⟨"seat0", 2, 3, 4, 2, 41, 41⟩, 1⟩

/-- Everything goes well, and the worker is in a logind session once PAM has opened one. -/
private def willingSystem : Host LaunchCall.Answer
  | log, .resolveByPid _ =>
    .ok (if log.any (·.1 matches .openSession _) then some swayLogind else none)
  | _, .allocateTerminal => some 2
  | _, .authenticate _ => .ok "ana"
  | _, .resolveIdentity _ =>
    some { username := "ana", uid := 1000, gid := 100, home := [47], shell := [47, 98] }
  | _, .resolveGroups _ => some [27]
  | _, .openSession _ => .opened
  | _, .sessionEnvironment => some ⟨"c1", [47], []⟩
  | _, .capturePending => .ok none
  | _, .runChildUntilReady _ => some swayReport
  | _, .commitExec => some swayReport
  | _, .pendingWorkerSignal => .ok none
  | _, .prepareScope _ _ _ => .ok swayScope
  | _, .pollChannel => .ready false true false
  | _, .readControlRequest => .ok (workerControlProtocolVersion, .payloadScopeRegistered
      (.fromWorker swaySession.transaction "scope_registered" 1) "worker-1" 40 "0f")
  | _, .randomReleaseNonce => none
  | _, .contextForPid _ => none
  | _, .deadlinePassed => false
  | _, .executableUsable _ => true
  | _, .authorizeLaunchWatchdog _ => true
  | _, .validateRuntimeDir _ _ => true
  | _, .clearPending => true
  | _, .duplicateTerminalFd => true
  | _, .buildRunner => true
  | _, .activateTerminal => true
  | _, .abort => true
  | _, .terminateChild => true
  | _, .cleanup _ => true
  | _, .releasePin => true
  | _, .bindControlListener => .ok ()
  | _, .phaseReached _ => .ok ()
  | _, .write _ => .ok ()
  | _, .duplicateSupervisorChannel => .ok ()
  | _, .writeControlRequest _ => .ok ()
  | _, .drop _ => ()

/-- The thirty-second call of this launch starts the program, the supervisor knowing of the scope. -/
theorem sway_founded :
    let launch := (runPamSession swaySession).run willingSystem []
    launch.1 = .ok ⟨swayReport, swayScope⟩ ∧
      launch.2 = launch.2.take 31 ++ ⟨.commitExec, some swayReport⟩ :: launch.2.drop 32 ∧
      Founded swaySession (launch.2.take 31) := by
  intro launch
  have hcommit :
      launch.2 = launch.2.take 31 ++ ⟨.commitExec, some swayReport⟩ :: launch.2.drop 32 := by rfl
  obtain ⟨r, log, hrun, hfounded⟩ := commit_founded swaySession willingSystem
  have hlog : launch.2 = log := congrArg Prod.snd hrun
  refine ⟨by decide +kernel, hcommit, hfounded _ (some swayReport) (launch.2.drop 32) ?_⟩
  rw [← hlog]
  exact hcommit

end Example

end Niralis.WorkerLaunch
