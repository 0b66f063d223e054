import Niralis.LaunchHistory
import Niralis.PayloadScopePreparation

namespace Niralis.WorkerLaunch
open Calls
open PayloadScope (Justified Keeps Owned ProcessIdentityProof ScopeCall ScopeLog ScopeOperation
  SystemdPayloadScope Unreleased)

/-- The bus that a worker's scope lives on, and what is known about its session child. -/
structure ScopeBus where
  host : Host ScopeCall.Answer
  processIdentity : ProcessIdentityProof
  pidfd : Int
  launcherPid : Nat

/-- The scope that a launch has on the bus, and the calls that were made for it. -/
structure OwnedScope where
  scope : Option SystemdPayloadScope := none
  calls : ScopeLog := []

namespace ScopeBus
variable (bus : ScopeBus) (ctx : PamSessionLaunch)

def prepare (sessionPid uid : Nat) (logindSessionId : String) :
    Except PayloadScopeError SystemdPayloadScope × ScopeLog :=
  (PayloadScope.prepare sessionPid bus.processIdentity bus.pidfd uid logindSessionId ctx.workerPid
    bus.launcherPid).run bus.host []

def perform (owned : OwnedScope) (operation : ScopeOperation) : Bool × OwnedScope :=
  match owned.scope with
  | none => (false, owned)
  | some scope =>
    let (r, calls) := (scope.perform operation).run bus.host owned.calls
    (r.isOk, ⟨some (r.toOption.getD scope), calls⟩)

/-- The scope's own `cleanup` takes the scope. Only its name is left until it is dropped. -/
def cleanup (owned : OwnedScope) : Bool × OwnedScope :=
  match owned.scope with
  | none => (false, owned)
  | some scope =>
    let (r, calls) := (scope.cleanupUnit true).run bus.host owned.calls
    (r.isOk, ⟨some scope.released, calls⟩)

def after (owned : OwnedScope) : LaunchCall → OwnedScope
  | .prepareScope sessionPid uid logindSessionId =>
    let (r, calls) := bus.prepare ctx sessionPid uid logindSessionId
    ⟨r.toOption, calls⟩
  | .cleanup true => (bus.perform owned .cleanupPreservingPin).2
  | .cleanup false => (bus.cleanup owned).2
  | .releasePin => (bus.perform owned .releasePin).2
  | .drop .scope => { owned with scope := none }
  | _ => owned

/-- The calls on the scope are answered from the bus, and all others as they are. -/
def answer (owned : OwnedScope) : (q : LaunchCall) → q.Answer → q.Answer
  | .prepareScope sessionPid uid logindSessionId, _ =>
    (bus.prepare ctx sessionPid uid logindSessionId).1.map (·.identity)
  | .cleanup true, _ => (bus.perform owned .cleanupPreservingPin).1
  | .cleanup false, _ => (bus.cleanup owned).1
  | .releasePin, _ => (bus.perform owned .releasePin).1
  | _, x => x

def owned (log : LaunchLog) : OwnedScope := log.foldl (fun owned x => bus.after ctx owned x.1) {}

def answering (other : Host LaunchCall.Answer) : Host LaunchCall.Answer :=
  fun log q => bus.answer ctx (bus.owned ctx log) q (other log q)

end ScopeBus

/-- What may be asked of the bus: what a preparation asks, or what the scope it made may ask. -/
def ScopeAsks (before : ScopeLog) (x : Sigma ScopeCall.Answer) : Prop :=
  Owned before x ∨ ∃ scope : SystemdPayloadScope, scope.identity.validate = true ∧ Justified scope before x

/-- The scope on the bus is the one that the launch knows of. -/
structure OwnedScope.Sound (known : Option PayloadScopeIdentity) (owned : OwnedScope) : Prop where
  asks : Throughout ScopeAsks owned.calls
  known : ∀ scope, owned.scope = some scope → known = some scope.identity
  valid : ∀ scope, owned.scope = some scope → scope.identity.validate = true
  unreleased : ∀ scope, owned.scope = some scope → scope.pinnedUnit.referenceHeld = true →
    Unreleased owned.calls

section Bus
variable {bus : ScopeBus} {ctx : PamSessionLaunch} {owned : OwnedScope}
  {known : Option PayloadScopeIdentity}

theorem OwnedScope.Sound.none {calls : ScopeLog} (h : Throughout ScopeAsks calls) :
    OwnedScope.Sound known ⟨.none, calls⟩ where
  asks := h
  known _ hscope := by cases hscope
  valid _ hscope := by cases hscope
  unreleased _ hscope := by cases hscope

theorem unreleased_prepared {pid uid workerPid launcherPid : Nat} {pidfd : Int}
    {logindSessionId : String} {scope : SystemdPayloadScope} {calls : ScopeLog}
    (h : PayloadScope.Prepared pid pidfd uid logindSessionId workerPid launcherPid scope calls) :
    Unreleased calls := by
  obtain ⟨before, job, after, worker, launcher, properties, rfl, hbefore, hafter, -⟩ := h.history
  have hreading : ∀ x : Sigma ScopeCall.Answer, PayloadScope.isReading x.1 = true →
      PayloadScope.isRelease x = false := fun x hx => by
    have hreads : PayloadScope.Reads (Justified scope) fun x => PayloadScope.isRelease x = false :=
      PayloadScope.reads_justified
    exact (hreads [] x hx).2
  refine PayloadScope.unreleased_append.mpr ⟨fun x hx => hreading x (hbefore x hx), ?_⟩
  refine PayloadScope.unreleased_cons.mpr ⟨rfl, PayloadScope.unreleased_append.mpr ⟨?_, ?_⟩⟩
  · exact fun x hx => hreading x (hafter x hx)
  · simp [PayloadScope.adoptedSeen, Unreleased, PayloadScope.isRelease]

theorem sound_prepare (bus : ScopeBus) (ctx : PamSessionLaunch) (sessionPid uid : Nat) (logindSessionId : String) :
    OwnedScope.Sound ((bus.prepare ctx sessionPid uid logindSessionId).1.map (·.identity)).toOption
      ⟨(bus.prepare ctx sessionPid uid logindSessionId).1.toOption,
        (bus.prepare ctx sessionPid uid logindSessionId).2⟩ := by
  obtain ⟨hasks, hprepared, -⟩ := (PayloadScope.sat_prepare sessionPid bus.processIdentity bus.pidfd
    uid logindSessionId ctx.workerPid bus.launcherPid).run bus.host
  change Throughout Owned (bus.prepare ctx sessionPid uid logindSessionId).2 at hasks
  change ∀ scope, (bus.prepare ctx sessionPid uid logindSessionId).1 = .ok scope →
    PayloadScope.Prepared sessionPid bus.pidfd uid logindSessionId ctx.workerPid bus.launcherPid scope
      (bus.prepare ctx sessionPid uid logindSessionId).2 at hprepared
  generalize bus.prepare ctx sessionPid uid logindSessionId = result at hasks hprepared ⊢
  obtain ⟨r, calls⟩ := result
  cases r with
  | error e => exact .none (hasks.imp fun _ _ => Or.inl)
  | ok scope =>
    have hscope := hprepared scope rfl
    refine ⟨hasks.imp fun _ _ => Or.inl, ?_, ?_, ?_⟩
    · rintro _ ⟨⟩
      rfl
    · rintro _ ⟨⟩
      exact hscope.valid
    · rintro _ ⟨⟩ -
      exact unreleased_prepared hscope

/-- The calls that a scope makes itself stand behind those of its preparation. -/
theorem asks_run {α : Type} (bus : ScopeBus) {scope : SystemdPayloadScope} {p : PayloadScope.Scoping α}
    {post : Except PayloadScopeError α → ScopeLog → Prop} (h : owned.Sound known)
    (hscope : owned.scope = some scope) (hp : p.Sat (Justified scope) owned.calls post) :
    Throughout ScopeAsks (p.run bus.host owned.calls).2 ∧
      post (p.run bus.host owned.calls).1 (p.run bus.host owned.calls).2 :=
  (hp.imp fun _ _ hx => Or.inr ⟨scope, h.valid scope hscope, hx⟩).run_from h.asks bus.host

theorem sound_perform (h : owned.Sound known) (operation : ScopeOperation) :
    (bus.perform owned operation).2.Sound known := by
  unfold ScopeBus.perform
  split
  · exact h
  next scope hscope =>
    obtain ⟨hasks, hsame, hheld⟩ := asks_run bus h hscope
      (PayloadScope.sat_perform (h.unreleased scope hscope) operation)
    have hidentity : (((scope.perform operation).run bus.host owned.calls).1.toOption.getD
        scope).identity = scope.identity := by
      rcases hsame with hsame | hsame
      · rw [hsame]
      · rw [hsame]
        rfl
    refine ⟨hasks, ?_, ?_, ?_⟩
    · rintro _ ⟨⟩
      rw [hidentity]
      exact h.known scope hscope
    · rintro _ ⟨⟩
      rw [hidentity]
      exact h.valid scope hscope
    · rintro _ ⟨⟩
      exact hheld

theorem sound_cleanup (h : owned.Sound known) : (bus.cleanup owned).2.Sound known := by
  unfold ScopeBus.cleanup
  split
  · exact h
  next scope hscope =>
    obtain ⟨hasks, -⟩ := asks_run bus h hscope
      (PayloadScope.sat_cleanup (h.unreleased scope hscope))
    refine ⟨hasks, ?_, ?_, ?_⟩
    · rintro _ ⟨⟩
      exact h.known scope hscope
    · rintro _ ⟨⟩
      exact h.valid scope hscope
    · rintro _ ⟨⟩ ⟨⟩

/-- The calls that make the launch know of another scope, or of none. -/
def LaunchCall.rescopes : LaunchCall → Bool
  | prepareScope _ _ _ | drop .scope => true
  | _ => false

theorem scope_move_of_not_rescopes {h : Holdings} {q : LaunchCall} (a : q.Answer)
    (hq : q.rescopes = false) : (h.move ctx q a).scope = h.scope := by
  unfold Holdings.move
  split
  case h_8 => exact (resolved_unchanged _ _).2.2
  case h_15 resource _ =>
    cases resource with
    | scope => cases hq
    | _ => rfl
  all_goals first
    | rfl
    | cases hq

theorem OwnedScope.Sound.after {s : LaunchState} (h : owned.Sound s.scope) (q : LaunchCall)
    (x : q.Answer) :
    (bus.after ctx owned q).Sound (s.after ctx ⟨q, bus.answer ctx owned q x⟩).scope := by
  have hkept : ∀ a : q.Answer, q.rescopes = false → (s.after ctx ⟨q, a⟩).scope = s.scope :=
    fun a hq => scope_move_of_not_rescopes a hq
  cases q with
  | prepareScope sessionPid uid logindSessionId =>
    have hsound := sound_prepare bus ctx sessionPid uid logindSessionId
    change OwnedScope.Sound
      (s.toHoldings.move ctx (.prepareScope sessionPid uid logindSessionId)
        ((bus.prepare ctx sessionPid uid logindSessionId).1.map (·.identity))).scope
      ⟨(bus.prepare ctx sessionPid uid logindSessionId).1.toOption,
        (bus.prepare ctx sessionPid uid logindSessionId).2⟩
    cases hr : (bus.prepare ctx sessionPid uid logindSessionId).1 with
    | ok scope =>
      rw [hr] at hsound
      exact hsound
    | error e =>
      rw [hr] at hsound
      -- the launch goes on with the scope it had, of which the bus knows nothing
      exact .none hsound.asks
  | cleanup preservingPin =>
    rw [hkept _ rfl]
    cases preservingPin with
    | true => exact sound_perform h .cleanupPreservingPin
    | false => exact sound_cleanup h
  | releasePin =>
    rw [hkept _ rfl]
    exact sound_perform h .releasePin
  | drop resource =>
    cases resource with
    | scope => exact .none h.asks
    | _ =>
      rw [hkept _ rfl]
      exact h
  | _ =>
    rw [hkept _ rfl]
    exact h

theorem sound_owned {other : Host LaunchCall.Answer} {log : LaunchLog}
    (hlog : Throughout (fun before x => x = ⟨x.1, bus.answering ctx other before x.1⟩) log) :
    (bus.owned ctx log).Sound ((launchDiscipline ctx).state {} log).scope := by
  induction log using List.reverseRecOn with
  | nil => exact .none throughout_nil
  | append_singleton log x ih =>
    have hbefore : (bus.owned ctx log).Sound ((launchDiscipline ctx).state {} log).scope :=
      ih fun before y after hsplit => hlog before y (after ++ [x]) (by simp [hsplit])
    have hx : x = ⟨x.1, bus.answering ctx other log x.1⟩ := hlog log x [] rfl
    rw [Discipline.state_concat, ScopeBus.owned, List.foldl_concat, hx]
    exact hbefore.after x.1 _

end Bus

/-- A launch whose scope lives on a bus, whatever the bus and everything else answer: the scope that the
launch knows of is the one that was made there, under a valid identity, and nothing is asked of the bus
that its preparation or that scope itself may not ask. -/
theorem launch_scope_sound (ctx : PamSessionLaunch) (bus : ScopeBus) (other : Host LaunchCall.Answer) :
    let log := ((runPamSession ctx).run (bus.answering ctx other) []).2
    (bus.owned ctx log).Sound ((launchDiscipline ctx).state {} log).scope :=
  sound_owned (run_answered _ _ throughout_nil)

end Niralis.WorkerLaunch
