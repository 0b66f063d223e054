import Niralis.PamTransaction

namespace Niralis.PamTransaction
open Calls

/-- How far a handle has come. One that was refused was never made; one that was rejected is only to be
ended. -/
inductive HandleStage
  | absent | refused | started | authenticated | valid | rejected | finished
  deriving DecidableEq, Repr

def HandleStage.live : HandleStage → Bool
  | started | authenticated | valid | rejected => true
  | _ => false

/-- The session of a handle. It is open from the attempt to open it on, and after a failed close. -/
inductive SessionStage
  | unopened
  | opened (succeeded : Bool)
  | unclosed
  | closed
  deriving DecidableEq, Repr

def SessionStage.isOpen : SessionStage → Bool
  | opened _ | unclosed => true
  | _ => false

def SessionStage.settled : SessionStage → Bool
  | opened _ => false
  | _ => true

structure HandleState where
  stage : HandleStage := .absent
  credentials : Bool := false
  session : SessionStage := .unopened
  deriving DecidableEq, Repr

/-- The order that libpam asks for: account before session, credentials around the session, and both
undone before the end. -/
def AllowedOn (s : HandleState) : PamOperation → Prop
  | .start _ => s.stage = .absent
  | .authenticate => s.stage = .started
  | .acctMgmt => s.stage = .authenticated
  | .getUser | .setTty _ | .putenv _ | .getenv _ | .getenvlist => s.stage = .valid
  | .setcred .establishCred => s.stage = .valid ∧ s.credentials = false
  | .openSession => s.stage = .valid ∧ s.credentials = true ∧ s.session = .unopened
  | .setcred .reinitializeCred => s.credentials = true ∧ s.session = .opened true
  | .closeSession => s.stage.live = true ∧ s.session.isOpen = true
  | .setcred .deleteCred => s.stage.live = true ∧ s.credentials = true ∧ s.session.settled = true
  | .finish => s.stage.live = true ∧ s.credentials = false ∧ s.session.settled = true

def HandleState.after (s : HandleState) : Sigma PamCall.Answer → HandleState
  | ⟨⟨_, .start _⟩, started⟩ => { s with stage := if started then .started else .refused }
  | ⟨⟨_, .authenticate⟩, success⟩ => { s with stage := if success then .authenticated else .rejected }
  | ⟨⟨_, .acctMgmt⟩, success⟩ => { s with stage := if success then .valid else .rejected }
  | ⟨⟨_, .setcred .establishCred⟩, success⟩ => { s with credentials := success }
  | ⟨⟨_, .openSession⟩, success⟩ => { s with session := .opened success }
  | ⟨⟨_, .closeSession⟩, success⟩ => { s with session := if success then .closed else .unclosed }
  | ⟨⟨_, .setcred .deleteCred⟩, _⟩ => { s with credentials := false }
  | ⟨⟨_, .finish⟩, _⟩ => { s with stage := .finished }
  | _ => s

/-- Besides the order: only until it has authenticated does a handle see the password. -/
def handleDiscipline : Discipline PamCall.Answer HandleState where
  allows s call :=
    AllowedOn s call.operation ∧ (s.stage = .absent ∨ s.stage = .started ∨ call.conversation.password = "")
  after := HandleState.after

/-- A transaction that has not been ended, beside its handle. -/
structure Tracks (t : NativePamTransaction) (s : HandleState) : Prop where
  open_ : t.ended = false
  live : s.stage.live = true
  password : t.conversation.password = ""
  credentials : s.credentials = t.credentialsEstablished
  session : s.session.isOpen = t.sessionOpen

def Holds (t : NativePamTransaction) (s : HandleState) : Prop :=
  t.ended = true ∧ s.stage = .finished ∨ Tracks t s

section Rules
variable {t : NativePamTransaction} {s : HandleState} {ε α : Type}

theorem SessionStage.settled_of_not_open {stage : SessionStage} (h : stage.isOpen = false) :
    stage.settled = true := by
  cases stage with
  | opened _ => cases h
  | _ => rfl

theorem follows_call {operation : PamOperation}
    {f : PamCall.Answer ⟨t.conversation, operation⟩ → PamCalls ε α}
    {post : Except ε α → HandleState → Prop} (hpassword : t.conversation.password = "")
    (hallowed : AllowedOn s operation)
    (hf : ∀ x, (f x).Follows handleDiscipline (s.after ⟨⟨t.conversation, operation⟩, x⟩) post) :
    (t.call operation >>= f).Follows handleDiscipline s post :=
  follows_ask ⟨hallowed, Or.inr (Or.inr hpassword)⟩ hf

theorem follows_finish (hpassword : t.conversation.password = "")
    (hallowed : AllowedOn s .finish) {post : Except ε NativePamTransaction → HandleState → Prop}
    (hpost : ∀ t' s', t'.ended = true → s'.stage = .finished → post (.ok t') s') :
    (t.call .finish >>= fun _ => (pure { t with ended := true } : PamCalls ε _)).Follows
      handleDiscipline s post :=
  follows_call hpassword hallowed fun _ => hpost _ _ rfl rfl

theorem follows_deleteEstablished (hpassword : t.conversation.password = "")
    (hlive : s.stage.live = true) (hcredentials : s.credentials = t.credentialsEstablished)
    (hsettled : s.session.settled = true) :
    (t.deleteEstablished : PamCalls ε _).Follows handleDiscipline s fun r s' =>
      ∃ t', r = .ok t' ∧ t'.conversation = t.conversation ∧ AllowedOn s' .finish := by
  unfold NativePamTransaction.deleteEstablished
  split
  · rename_i hestablished
    refine follows_call hpassword ⟨hlive, hcredentials.trans hestablished, hsettled⟩ fun _ => ?_
    exact ⟨_, rfl, rfl, hlive, rfl, hsettled⟩
  · rename_i hestablished
    rw [Bool.not_eq_true] at hestablished
    exact ⟨t, rfl, rfl, hlive, hcredentials.trans hestablished, hsettled⟩

theorem follows_closeOpened (h : Tracks t s) :
    (t.closeOpened : PamCalls ε _).Follows handleDiscipline s fun r s' =>
      ∃ t', r = .ok t' ∧ t'.conversation = t.conversation ∧ s'.stage.live = true ∧
        s'.credentials = t'.credentialsEstablished ∧ s'.session.settled = true := by
  unfold NativePamTransaction.closeOpened
  split
  · rename_i hopen
    refine follows_call h.password ⟨h.live, h.session.trans hopen⟩ fun closed => ?_
    refine ⟨_, rfl, rfl, h.live, h.credentials, ?_⟩
    change (if closed then SessionStage.closed else .unclosed).settled = true
    cases closed <;> rfl
  · rename_i hopen
    rw [Bool.not_eq_true] at hopen
    exact ⟨t, rfl, rfl, h.live, h.credentials,
      SessionStage.settled_of_not_open (h.session.trans hopen)⟩

theorem follows_cleanup (h : Holds t s) :
    (t.cleanup : PamCalls ε _).Follows handleDiscipline s fun r s' =>
      ∃ t', r = .ok t' ∧ t'.ended = true ∧ s'.stage = .finished := by
  unfold NativePamTransaction.cleanup
  rcases h with ⟨hended, hfinished⟩ | h
  · rw [if_pos hended]
    exact ⟨t, rfl, hended, hfinished⟩
  · rw [h.open_]
    refine (follows_closeOpened h).bind ?_ fun e s' he => ?_
    · rintro t' s' ⟨_, ht, hconversation, hlive, hcredentials, hsettled⟩
      cases ht
      have hpassword : t'.conversation.password = "" := by
        rw [hconversation]
        exact h.password
      refine (follows_deleteEstablished hpassword hlive hcredentials hsettled).bind ?_ fun e s' he => ?_
      · rintro t'' s'' ⟨_, ht, hconversation', hallowed⟩
        cases ht
        refine follows_finish ?_ hallowed fun t₃ s₃ hended hfinished => ⟨t₃, rfl, hended, hfinished⟩
        rw [hconversation']
        exact hpassword
      · obtain ⟨_, he, -⟩ := he
        cases he
    · obtain ⟨_, he, -⟩ := he
      cases he

theorem follows_drop (h : Holds t s) :
    (t.drop : PamCalls ε Unit).Follows handleDiscipline s fun r s' =>
      r = .ok () ∧ s'.stage = .finished := by
  refine (follows_cleanup h).bind ?_ ?_
  · rintro _ s' ⟨t', -, -, hfinished⟩
    exact ⟨rfl, hfinished⟩
  · rintro e s' ⟨t', he, -⟩
    cases he

theorem follows_reject (h : Holds t s) :
    (t.reject : PamCalls Unit α).Follows handleDiscipline s fun r s' =>
      r = .error () ∧ s'.stage = .finished := by
  refine (follows_drop h).bind ?_ ?_
  · rintro _ s' ⟨-, hfinished⟩
    exact ⟨rfl, hfinished⟩
  · rintro e s' ⟨he, -⟩
    cases he

theorem follows_cleanup_reject (h : Holds t s) :
    (t.cleanup >>= fun t' => (t'.reject : PamCalls Unit α)).Follows handleDiscipline s fun r s' =>
      r = .error () ∧ s'.stage = .finished := by
  refine (follows_cleanup h).bind ?_ ?_
  · rintro _ s' ⟨t', ht, hended, hfinished⟩
    cases ht
    exact follows_reject (Or.inl ⟨hended, hfinished⟩)
  · rintro e s' ⟨t', he, -⟩
    cases he

end Rules

section Life
variable {t : NativePamTransaction} {s : HandleState} {ε α : Type}

/-- A transaction with an account, whose handle has no session yet. -/
structure Fresh (t : NativePamTransaction) (s : HandleState) : Prop where
  tracks : Tracks t s
  valid : s.stage = .valid
  credentials : s.credentials = false
  session : s.session = .unopened

def HandleStage.over (stage : HandleStage) : Prop := stage = .refused ∨ stage = .finished

theorem follows_authenticateInner (service username password : String) (driver : Bool) :
    (authenticateInner service username password driver).Follows handleDiscipline {} fun r s' =>
      match r with
      | .ok (t, _) => Fresh t s'
      | .error _ => s'.stage.over := by
  refine follows_ask ⟨rfl, Or.inl rfl⟩ fun started => ?_
  cases started with
  | false => exact Or.inl rfl
  | true =>
    refine follows_ask ⟨rfl, Or.inr (Or.inl rfl)⟩ fun authenticated => ?_
    cases authenticated with
    | false =>
      refine (follows_cleanup_reject (Or.inr ⟨rfl, rfl, rfl, rfl, rfl⟩)).mono ?_
      rintro r s' ⟨rfl, hfinished⟩
      exact Or.inr hfinished
    | true =>
      refine follows_call rfl rfl fun valid => ?_
      cases valid with
      | false =>
        refine (follows_cleanup_reject (Or.inr ⟨rfl, rfl, rfl, rfl, rfl⟩)).mono ?_
        rintro r s' ⟨rfl, hfinished⟩
        exact Or.inr hfinished
      | true =>
        refine follows_call rfl rfl fun item => ?_
        cases hname : item.bind toStr with
        | none =>
          dsimp only
          refine (follows_reject (Or.inr ⟨rfl, rfl, rfl, rfl, rfl⟩)).mono ?_
          rintro r s' ⟨rfl, hfinished⟩
          exact Or.inr hfinished
        | some name =>
          dsimp only
          exact ⟨⟨rfl, rfl, rfl, rfl, rfl⟩, rfl, rfl, rfl⟩

/-- What goes wrong before the session is open leaves the transaction as it was. -/
abbrev Sets (p : PamCalls (NativePamTransaction × AuthSessionError) Unit) (t : NativePamTransaction)
    (s : HandleState) : Prop :=
  p.Follows handleDiscipline s fun r s' => s' = s ∧ ∀ e, r = .error e → e.1 = t

theorem sets_setTerminal (h : Fresh t s) (tty : Option String) : Sets (setTerminal t tty) t s := by
  cases tty with
  | none => exact ⟨rfl, fun e he => (by cases he)⟩
  | some tty =>
    rw [setTerminal]
    split
    · refine follows_fail ⟨rfl, fun e he => ?_⟩
      cases he
      rfl
    · refine follows_call h.tracks.password h.valid fun set => ?_
      cases set with
      | true => exact ⟨rfl, fun e he => (by cases he)⟩
      | false =>
        refine follows_fail ⟨rfl, fun e he => ?_⟩
        cases he
        rfl

theorem sets_putEntries (h : Fresh t s) (entries : List String) : Sets (putEntries t entries) t s := by
  induction entries with
  | nil => exact ⟨rfl, fun e he => (by cases he)⟩
  | cons entry entries ih =>
    rw [putEntries]
    split
    · refine follows_fail ⟨rfl, fun e he => ?_⟩
      cases he
      rfl
    · refine follows_call h.tracks.password h.valid fun put => ?_
      cases put with
      | true => exact ih
      | false =>
        refine follows_fail ⟨rfl, fun e he => ?_⟩
        cases he
        rfl

/-- A session that is open with its credentials, or a transaction that is only to be dropped. -/
theorem follows_openSession (h : Fresh t s) (metadata : PamSessionMetadata) :
    (t.openSession metadata).Follows handleDiscipline s fun r s' =>
      match r with
      | .ok t' => Tracks t' s' ∧ s'.stage = .valid
      | .error (t', _) => Holds t' s' := by
  have hlost : ∀ e : NativePamTransaction × AuthSessionError, e.1 = t → Holds e.1 s := by
    intro e he
    rw [he]
    exact Or.inr h.tracks
  refine (sets_setTerminal h metadata.tty).bind ?_ fun e s' he => ?_
  swap
  · rw [he.1]
    exact hlost e (he.2 e rfl)
  rintro _ s' ⟨rfl, -⟩
  refine (sets_putEntries h metadata.entries).bind ?_ fun e s' he => ?_
  swap
  · rw [he.1]
    exact hlost e (he.2 e rfl)
  rintro _ s' ⟨rfl, -⟩
  refine follows_call h.tracks.password ⟨h.valid, h.credentials⟩ fun established => ?_
  cases established with
  | false =>
    refine follows_fail (Or.inr ?_)
    exact ⟨h.tracks.open_, h.tracks.live, h.tracks.password, h.tracks.credentials ▸ h.credentials.symm,
      h.tracks.session⟩
  | true =>
    refine follows_call h.tracks.password ⟨h.valid, rfl, h.session⟩ fun opened => ?_
    have hopened : ∀ opened, Tracks { t with credentialsEstablished := true, sessionOpen := true }
        { s' with credentials := true, session := .opened opened } := fun _ =>
      ⟨h.tracks.open_, h.tracks.live, h.tracks.password, rfl, rfl⟩
    cases opened with
    | false =>
      -- the credentials of a session that did not open are given up with it
      refine (follows_cleanup (Or.inr (hopened false))).bind ?_ ?_
      · rintro t' s'' ⟨_, ht, hended, hfinished⟩
        cases ht
        exact follows_fail (Or.inl ⟨hended, hfinished⟩)
      · rintro e s'' ⟨_, he, -⟩
        cases he
    | true =>
      refine follows_call h.tracks.password ⟨rfl, rfl⟩ fun reinitialized => ?_
      cases reinitialized with
      | false =>
        refine (follows_cleanup (Or.inr (hopened true))).bind ?_ ?_
        · rintro t' s'' ⟨_, ht, hended, hfinished⟩
          cases ht
          exact follows_fail (Or.inl ⟨hended, hfinished⟩)
        · rintro e s'' ⟨_, he, -⟩
          cases he
      | true => exact ⟨hopened true, h.valid⟩

theorem follows_closeSession (h : Tracks t s) (hvalid : s.stage = .valid) :
    t.closeSession.Follows handleDiscipline s fun r s' =>
      Tracks (r.toOption.getD t) s' ∧ s'.stage = .valid := by
  unfold NativePamTransaction.closeSession
  split
  · exact follows_pure ⟨h, hvalid⟩
  · rename_i hopen
    rw [Bool.not_eq_true, Bool.not_eq_false'] at hopen
    refine follows_call h.password ⟨h.live, h.session.trans hopen⟩ fun closed => ?_
    cases closed with
    | true => exact ⟨⟨h.open_, h.live, h.password, h.credentials, rfl⟩, hvalid⟩
    | false => exact ⟨⟨h.open_, h.live, h.password, h.credentials, hopen.symm⟩, hvalid⟩

theorem follows_pamValueBytes (h : Tracks t s) (hvalid : s.stage = .valid) (name : String) :
    (t.pamValueBytes name).Follows handleDiscipline s fun _ s' => s' = s := by
  refine follows_call h.password hvalid fun value => ?_
  cases value with
  | none => exact follows_fail rfl
  | some bytes =>
    change (if _ then fail _ else pure bytes : PamCalls AuthSessionError _).Follows _ _ _
    split
    · exact follows_fail rfl
    · exact follows_pure rfl

theorem follows_sessionEnvironment (h : Tracks t s) (hvalid : s.stage = .valid) :
    t.sessionEnvironment.Follows handleDiscipline s fun _ s' => s' = s := by
  have hvalue : (t.pamValue "XDG_SESSION_ID").Follows handleDiscipline s fun _ s' => s' = s := by
    refine (follows_pamValueBytes h hvalid "XDG_SESSION_ID").bind ?_ fun _ _ he => he
    rintro bytes _ rfl
    cases toStr bytes with
    | none => exact follows_fail rfl
    | some text => exact follows_pure rfl
  refine hvalue.bind ?_ fun _ _ he => he
  rintro sessionId _ rfl
  refine Follows.ensure_bind (fun _ => ?_) rfl
  refine (follows_pamValueBytes h hvalid "XDG_RUNTIME_DIR").bind ?_ fun _ _ he => he
  rintro runtimeDir _ rfl
  refine Follows.ensure_bind (fun _ => ?_) rfl
  refine follows_call h.password hvalid fun list => ?_
  refine Follows.require_bind (fun entries _ => ?_) rfl
  exact Follows.ensure_bind (fun _ => follows_pure rfl) rfl

theorem follows_use (h : Tracks t s) (hvalid : s.stage = .valid) (uses : List SessionUse) :
    (t.use uses).Follows handleDiscipline s fun r s' => ∃ t', r = .ok t' ∧ Tracks t' s' := by
  induction uses generalizing t s with
  | nil => exact ⟨t, rfl, h⟩
  | cons use uses ih =>
    cases use with
    | sessionEnvironment =>
      refine (follows_sessionEnvironment h hvalid).handle ?_
      rintro _ _ rfl
      exact ih h hvalid
    | closeSession =>
      refine (follows_closeSession h hvalid).handle ?_
      rintro r s' ⟨h', hvalid'⟩
      cases r with
      | ok t' => exact ih h' hvalid'
      | error e => exact ih h' hvalid'

/-- Whatever libpam answers: the calls on a handle come in the order it asks for, only those up to the
authentication see the password, and a handle that was made is ended once and last, after the session's close
and the deletion of its credentials were asked for, whatever came of them. -/
theorem pam_handle_disciplined (service username password : String) (driver : Bool)
    (metadata : Option PamSessionMetadata) (uses : List SessionUse) (host : Host PamCall.Answer) :
    let log := ((life service username password driver metadata uses).run host []).2
    handleDiscipline.Obeyed {} log ∧ (handleDiscipline.state {} log).stage.over := by
  have hlife : (life service username password driver metadata uses).Follows handleDiscipline {}
      fun _ s => s.stage.over := by
    refine (follows_authenticateInner service username password driver).handle ?_
    intro r s hr
    cases r with
    | error e => exact hr
    | ok found =>
      cases metadata with
      | none =>
        refine (follows_drop (Or.inr hr.tracks)).mono ?_
        rintro _ s' ⟨-, hfinished⟩
        exact Or.inr hfinished
      | some metadata =>
        refine (follows_openSession hr metadata).handle ?_
        intro r s' hr
        cases r with
        | error e =>
          refine (follows_drop hr).mono ?_
          rintro _ s'' ⟨-, hfinished⟩
          exact Or.inr hfinished
        | ok t =>
          refine (follows_use hr.1 hr.2 uses).bind ?_ fun e => e.elim
          rintro t' s'' ⟨_, ht, htracks⟩
          cases ht
          refine (follows_drop (Or.inr htracks)).mono ?_
          rintro _ s₃ ⟨-, hfinished⟩
          exact Or.inr hfinished
  exact hlife.run host

section Sample

/-- Every module answers as it should, but the session cannot be opened. -/
def closedLibpam : Host PamCall.Answer := fun _ call =>
  match call with
  | ⟨_, .start _⟩ | ⟨_, .authenticate⟩ | ⟨_, .acctMgmt⟩ | ⟨_, .setTty _⟩ | ⟨_, .putenv _⟩
  | ⟨_, .setcred _⟩ | ⟨_, .closeSession⟩ | ⟨_, .finish⟩ => true
  | ⟨_, .openSession⟩ => false
  | ⟨_, .getUser⟩ => some [97]
  | ⟨_, .getenv _⟩ | ⟨_, .getenvlist⟩ => none

def plainMetadata : PamSessionMetadata where
  sessionType := .wayland
  sessionClass := .user
  sessionDesktop := "sway"
  seat := some "seat0"
  vtnr := none
  tty := none

/-- The close and the deletion are asked for although no session was opened. -/
example : ((life "niralis" "a" "secret" false (some plainMetadata) [.sessionEnvironment]).run
    closedLibpam []).2.map (fun x => (x.1.operation, x.1.conversation.password)) =
      [(.start "niralis", "secret"), (.authenticate, "secret"), (.acctMgmt, ""), (.getUser, ""),
        (.putenv "XDG_SESSION_TYPE=wayland", ""), (.putenv "XDG_SESSION_CLASS=user", ""),
        (.putenv "XDG_SESSION_DESKTOP=sway", ""), (.putenv "XDG_SEAT=seat0", ""),
        (.setcred .establishCred, ""), (.openSession, ""), (.closeSession, ""),
        (.setcred .deleteCred, ""), (.finish, "")] := by decide +kernel

end Sample

end Life
end Niralis.PamTransaction
