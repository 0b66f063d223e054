import Mathlib.Algebra.Ring.Nat
import Niralis.KeyedTable
import Niralis.Runs

namespace Niralis

namespace KeyedTable
variable {κ ν : Type} [DecidableEq κ] {t : KeyedTable κ ν} {k : κ} {v : ν}

theorem perm_remove (h : t.get k = some v) : t.entries.Perm ((k, v) :: (t.remove k).entries) := by
  have hinsert : ((k, v) :: (t.remove k).entries).Nodup := (t.insert k v).nodup.of_map
  refine (List.perm_ext_iff_of_nodup t.nodup.of_map hinsert).mpr fun entry => ?_
  have hmem : entry ∈ (t.remove k).entries ↔ entry ∈ t.entries ∧ entry.1 ≠ k := by
    rw [remove, retain, List.mem_filter, decide_eq_true_iff]
  rw [List.mem_cons, hmem]
  constructor
  · intro hentry
    by_cases hkey : entry.1 = k
    · have hget : t.get k = some entry.2 := hkey ▸ get_eq_some_iff.mpr hentry
      rw [h] at hget
      exact Or.inl (Prod.ext hkey (Option.some.inj hget).symm)
    · exact Or.inr ⟨hentry, hkey⟩
  · rintro (rfl | ⟨hentry, -⟩)
    · exact get_eq_some_iff.mp h
    · exact hentry

theorem remove_of_absent (h : t.get k = none) : (t.remove k).entries = t.entries := by
  refine List.filter_eq_self.mpr fun entry hentry => decide_eq_true ?_
  rintro rfl
  cases h.symm.trans (get_eq_some_iff.mpr hentry)

end KeyedTable

section Limiter

def u32Max : Nat := 2 ^ 32 - 1

structure LoginFailureState where
  attempts : Nat
  lastFailure : Nat
  deriving DecidableEq, Repr

/-- `max_attempts` is a 32 bit number. -/
structure LoginRateLimiter where
  maxAttempts : Nat
  fits : maxAttempts ≤ u32Max
  cooldown : Nat
  failures : KeyedTable String LoginFailureState

namespace LoginRateLimiter

def isLimited (l : LoginRateLimiter) (username : String) (now : Nat) : Bool × LoginRateLimiter :=
  if l.maxAttempts = 0 then (false, l)
  else
    match l.failures.get username with
    | none => (false, l)
    | some state =>
      if state.attempts < l.maxAttempts then (false, l)
      else if l.cooldown ≤ now - state.lastFailure then
        (false, { l with failures := l.failures.remove username })
      else (true, l)

def recordFailure (l : LoginRateLimiter) (username : String) (now : Nat) : LoginRateLimiter :=
  if l.maxAttempts = 0 then l
  else
    let state := match l.failures.get username with
      | some state => ⟨min (state.attempts + 1) u32Max, now⟩
      | none => ⟨1, now⟩
    { l with failures := l.failures.insert username state }

def reset (l : LoginRateLimiter) (username : String) : LoginRateLimiter :=
  { l with failures := l.failures.remove username }

def counted (l : LoginRateLimiter) (username : String) : Nat :=
  ((l.failures.get username).map (·.attempts)).getD 0

end LoginRateLimiter

end Limiter

section Handler

inductive LoginOutcome
  | started
  | authenticationFailed
  | authenticatedSessionFailed
  | infrastructureFailed
  | seatUnavailable
  | workerDiedAndWasRecovered
  | workerRecoveryIncomplete
  deriving DecidableEq, Repr

/-- A login that has passed the rate limiter, and the backend's answer with its time. -/
structure InFlightLogin where
  username : String
  answer : Option (LoginOutcome × Nat)
  deriving DecidableEq, Repr

structure BackendAnswer where
  username : String
  outcome : LoginOutcome
  time : Nat
  deriving DecidableEq, Repr

/-- Every connection handles one login at a time; the limiter is behind a lock. `answers` remembers
what the backend has answered, and is read by no function. -/
structure LoginHandler where
  limiter : LoginRateLimiter
  now : Nat
  logins : KeyedTable Nat InFlightLogin
  answers : List BackendAnswer

/-- The points of `handle_login_with_binding` between which other connections may run. -/
inductive LoginPoint
  | check (connection : Nat) (username : String)
  | sessionUnavailable (connection : Nat)
  | answer (connection : Nat) (outcome : LoginOutcome)
  | settle (connection : Nat)
  deriving DecidableEq, Repr

/-- A point is reached some time after the one before. -/
structure LoginEvent where
  elapsed : Nat
  point : LoginPoint
  deriving DecidableEq, Repr

namespace LoginHandler

def new (limiter : LoginRateLimiter) : LoginHandler where
  limiter := limiter
  now := 0
  logins := .empty
  answers := []

def settled (l : LoginRateLimiter) (username : String) (now : Nat) :
    LoginOutcome → LoginRateLimiter
  | .started => l.reset username
  | .authenticationFailed => l.recordFailure username now
  | .authenticatedSessionFailed => l.reset username
  | .infrastructureFailed => l
  | .seatUnavailable => l
  | .workerDiedAndWasRecovered => l
  | .workerRecoveryIncomplete => l

def reach (s : LoginHandler) : LoginPoint → LoginHandler
  | .check connection username =>
    match s.logins.get connection with
    | some _ => s
    | none =>
      let (limited, limiter) := s.limiter.isLimited username s.now
      if limited then { s with limiter }
      else { s with limiter, logins := s.logins.insert connection ⟨username, none⟩ }
  | .sessionUnavailable connection =>
    match s.logins.get connection with
    | some ⟨_, none⟩ => { s with logins := s.logins.remove connection }
    | _ => s
  | .answer connection outcome =>
    match s.logins.get connection with
    | some ⟨username, none⟩ => { s with
        logins := s.logins.insert connection ⟨username, some (outcome, s.now)⟩
        answers := s.answers ++ [⟨username, outcome, s.now⟩] }
    | _ => s
  | .settle connection =>
    match s.logins.get connection with
    | some ⟨username, some (outcome, _)⟩ => { s with
        limiter := settled s.limiter username s.now outcome
        logins := s.logins.remove connection }
    | _ => s

def step (s : LoginHandler) (event : LoginEvent) : LoginHandler :=
  { s with now := s.now + event.elapsed }.reach event.point

def ofUser (username : String) (entry : Nat × InFlightLogin) : Bool :=
  entry.2.username = username

/-- The user's logins that have passed the limiter and not come back to it. -/
def inFlight (s : LoginHandler) (username : String) : Nat :=
  s.logins.entries.countP (ofUser username)

/-- How often the backend refused the user's password within the window. -/
def failuresWithin (s : LoginHandler) (username : String) (start finish : Nat) : Nat :=
  s.answers.countP fun a => a.username = username ∧ a.outcome = .authenticationFailed ∧
    start ≤ a.time ∧ a.time ≤ finish

def NoSuccessWithin (s : LoginHandler) (username : String) (start finish : Nat) : Prop :=
  ∀ a ∈ s.answers, a.username = username → a.outcome = .started → start ≤ a.time →
    finish < a.time

end LoginHandler

end Handler

section Accounting
open LoginHandler
variable {l : LoginRateLimiter} {s s' : LoginHandler} {point : LoginPoint} {u : String}
  {start finish : Nat}

/-- What one point of a login does, in each of its outcomes. -/
inductive LoginReached (s : LoginHandler) : LoginPoint → LoginHandler → Prop
  | quiet (point : LoginPoint) : LoginReached s point s
  | admitted (connection : Nat) (username : String) (hidle : s.logins.get connection = none)
      (hpass : (s.limiter.isLimited username s.now).1 = false) :
      LoginReached s (.check connection username) { s with
        limiter := (s.limiter.isLimited username s.now).2
        logins := s.logins.insert connection ⟨username, none⟩ }
  | unavailable (connection : Nat) (username : String)
      (hlogin : s.logins.get connection = some ⟨username, none⟩) :
      LoginReached s (.sessionUnavailable connection) { s with logins := s.logins.remove connection }
  | answered (connection : Nat) (username : String) (outcome : LoginOutcome)
      (hlogin : s.logins.get connection = some ⟨username, none⟩) :
      LoginReached s (.answer connection outcome) { s with
        logins := s.logins.insert connection ⟨username, some (outcome, s.now)⟩
        answers := s.answers ++ [⟨username, outcome, s.now⟩] }
  | settled (connection : Nat) (username : String) (outcome : LoginOutcome) (time : Nat)
      (hlogin : s.logins.get connection = some ⟨username, some (outcome, time)⟩) :
      LoginReached s (.settle connection) { s with
        limiter := settled s.limiter username s.now outcome
        logins := s.logins.remove connection }

theorem isLimited_cases (l : LoginRateLimiter) (username : String) (now : Nat) :
    l.isLimited username now = (false, l) ∨
      (∃ state, l.failures.get username = some state ∧ l.cooldown ≤ now - state.lastFailure ∧
        l.isLimited username now = (false, { l with failures := l.failures.remove username })) ∨
      l.isLimited username now = (true, l) := by
  unfold LoginRateLimiter.isLimited
  split
  · exact Or.inl rfl
  · split
    · exact Or.inl rfl
    next state hget =>
      split
      · exact Or.inl rfl
      · split
        next hexpired => exact Or.inr (Or.inl ⟨state, hget, hexpired, rfl⟩)
        · exact Or.inr (Or.inr rfl)

theorem reached_reach (s : LoginHandler) (point : LoginPoint) :
    LoginReached s point (s.reach point) := by
  cases point with
  | check connection username =>
    simp only [reach]
    split
    · exact .quiet _
    next hidle =>
      cases hlimited : (s.limiter.isLimited username s.now).1 with
      | false => simpa [hlimited] using LoginReached.admitted connection username hidle hlimited
      | true =>
        have hsame : (s.limiter.isLimited username s.now).2 = s.limiter := by
          rcases isLimited_cases s.limiter username s.now with h | ⟨_, -, -, h⟩ | h
          · rw [h]
          · rw [h] at hlimited
            cases hlimited
          · rw [h]
        simpa [hlimited, hsame] using LoginReached.quiet (s := s) (.check connection username)
  | sessionUnavailable connection =>
    simp only [reach]
    split
    next username hlogin => exact .unavailable connection username hlogin
    · exact .quiet _
  | answer connection outcome =>
    simp only [reach]
    split
    next username hlogin => exact .answered connection username outcome hlogin
    · exact .quiet _
  | settle connection =>
    simp only [reach]
    split
    next username outcome time hlogin => exact .settled connection username outcome time hlogin
    · exact .quiet _

/-- The login is of the user, and was refused within the window. -/
def refusedWithin (u : String) (start finish : Nat) (entry : Nat × InFlightLogin) : Bool :=
  ofUser u entry && match entry.2.answer with
    | some (.authenticationFailed, time) => start ≤ time && time ≤ finish
    | _ => false

/-- The user's logins that were refused within the window and not counted yet. -/
def LoginHandler.uncounted (s : LoginHandler) (u : String) (start finish : Nat) : Nat :=
  s.logins.entries.countP (refusedWithin u start finish)

/-- The failures within the window are counted or on their way to be, and a count that they have
raised does not expire within the window. -/
structure FailuresBounded (l : LoginRateLimiter) (u : String) (start finish : Nat)
    (s : LoginHandler) : Prop where
  limit : s.limiter.maxAttempts = l.maxAttempts
  cooldown : s.limiter.cooldown = l.cooldown
  bounded : s.limiter.counted u + s.inFlight u ≤ l.maxAttempts
  past : ∀ state, s.limiter.failures.get u = some state → state.lastFailure ≤ s.now
  remembered : ∀ connection outcome time,
    s.logins.get connection = some ⟨u, some (outcome, time)⟩ →
      ⟨u, outcome, time⟩ ∈ s.answers ∧ time ≤ s.now
  failures : s.failuresWithin u start finish ≤ l.maxAttempts
  counted : s.now ≤ finish →
    s.failuresWithin u start finish ≤ s.limiter.counted u + s.uncounted u start finish
  recent : s.now ≤ finish → s.uncounted u start finish < s.failuresWithin u start finish →
    ∃ state, s.limiter.failures.get u = some state ∧ start ≤ state.lastFailure

theorem uncounted_le_inFlight (s : LoginHandler) (u : String) (start finish : Nat) :
    s.uncounted u start finish ≤ s.inFlight u :=
  List.countP_mono_left fun _ _ h => (Bool.and_eq_true_iff.mp h).1

theorem counted_of_get {state : LoginFailureState} (h : s.limiter.failures.get u = some state) :
    s.limiter.counted u = state.attempts := by
  rw [LoginRateLimiter.counted, h]
  rfl

theorem counted_congr {l' : LoginRateLimiter} (h : l'.failures.get u = l.failures.get u) :
    l'.counted u = l.counted u := by
  rw [LoginRateLimiter.counted, LoginRateLimiter.counted, h]

theorem failuresBounded_new (l : LoginRateLimiter) (hfresh : l.failures.get u = none) :
    FailuresBounded l u start finish (.new l) := by
  have hcounted : l.counted u = 0 := by
    rw [LoginRateLimiter.counted, hfresh]
    rfl
  refine ⟨rfl, rfl, ?_, fun state h => ?_, fun connection outcome time h => ?_, ?_, fun _ => ?_,
    fun _ h => ?_⟩
  · show l.counted u + 0 ≤ l.maxAttempts
    omega
  · cases hfresh.symm.trans h
  · cases h
  · exact Nat.zero_le _
  · exact Nat.zero_le _
  · exact absurd h (Nat.not_lt_zero _)

theorem FailuresBounded.tick (h : FailuresBounded l u start finish s) (elapsed : Nat) :
    FailuresBounded l u start finish { s with now := s.now + elapsed } := by
  have hnow : s.now ≤ s.now + elapsed := Nat.le_add_right _ _
  refine ⟨h.limit, h.cooldown, h.bounded, fun state hget => Nat.le_trans (h.past state hget) hnow,
    fun connection outcome time hlogin => ?_, h.failures, fun hlate => ?_, fun hlate => ?_⟩
  · obtain ⟨hmem, htime⟩ := h.remembered connection outcome time hlogin
    exact ⟨hmem, Nat.le_trans htime hnow⟩
  · exact h.counted (Nat.le_trans hnow hlate)
  · exact h.recent (Nat.le_trans hnow hlate)

/-- The condition on a check that lets a login through, and on a reset. -/
def ChecksInFlight (s : LoginHandler) : LoginPoint → Prop
  | .check connection username => s.logins.get connection = none →
      (s.limiter.isLimited username s.now).1 = false →
        (s.limiter.isLimited username s.now).2.counted username + s.inFlight username <
          s.limiter.maxAttempts
  | _ => True

/-- A started login clears no failure that is later than its own success, and one whose session
failed clears none. -/
def ResetsOwnPast (s : LoginHandler) : LoginPoint → Prop
  | .settle connection =>
    match s.logins.get connection with
    | some ⟨username, some (.started, time)⟩ =>
      ∀ state, s.limiter.failures.get username = some state → state.lastFailure ≤ time
    | some ⟨username, some (.authenticatedSessionFailed, _)⟩ =>
      s.limiter.failures.get username = none
    | _ => True
  | _ => True

theorem countP_insert {t : KeyedTable Nat InFlightLogin} (p : Nat × InFlightLogin → Bool)
    (connection : Nat) (login : InFlightLogin) :
    (t.insert connection login).entries.countP p =
      (t.remove connection).entries.countP p + if p (connection, login) then 1 else 0 :=
  List.countP_cons

theorem countP_of_get {t : KeyedTable Nat InFlightLogin} (p : Nat × InFlightLogin → Bool)
    {connection : Nat} {login : InFlightLogin} (h : t.get connection = some login) :
    t.entries.countP p =
      (t.remove connection).entries.countP p + if p (connection, login) then 1 else 0 :=
  ((KeyedTable.perm_remove h).countP_eq p).trans List.countP_cons

theorem get_of_get_remove {t : KeyedTable Nat InFlightLogin} {connection connection' : Nat}
    {login : InFlightLogin} (h : (t.remove connection).get connection' = some login) :
    t.get connection' = some login := by
  by_cases hne : connection' = connection
  · subst hne
    rw [KeyedTable.get_remove_self] at h
    cases h
  · rwa [KeyedTable.get_remove_of_ne hne] at h

theorem isLimited_keeps (l : LoginRateLimiter) (username : String) (now : Nat) :
    (l.isLimited username now).2.maxAttempts = l.maxAttempts ∧
      (l.isLimited username now).2.cooldown = l.cooldown := by
  rcases isLimited_cases l username now with heq | ⟨_, -, -, heq⟩ | heq <;> rw [heq] <;>
    exact ⟨rfl, rfl⟩

/-- A check forgets nothing but a count of its own user that has expired. -/
theorem get_isLimited (l : LoginRateLimiter) (username u : String) (now : Nat) :
    (l.isLimited username now).2.failures.get u = l.failures.get u ∨
      (l.isLimited username now).2.failures.get u = none ∧
        ∃ state, l.failures.get u = some state ∧ l.cooldown ≤ now - state.lastFailure := by
  rcases isLimited_cases l username now with heq | ⟨state, hget, hexpired, heq⟩ | heq
  · exact Or.inl (by rw [heq])
  · by_cases hu : u = username
    · subst hu
      rw [heq]
      exact Or.inr ⟨KeyedTable.get_remove_self _ _, state, hget, hexpired⟩
    · rw [heq]
      exact Or.inl (KeyedTable.get_remove_of_ne hu)
  · exact Or.inl (by rw [heq])

theorem counted_of_absent (h : l.failures.get u = none) : l.counted u = 0 := by
  rw [LoginRateLimiter.counted, h]
  rfl

theorem FailuresBounded.limiter_congr (h : FailuresBounded l u start finish s) {limiter : LoginRateLimiter}
    (hlimit : limiter.maxAttempts = s.limiter.maxAttempts)
    (hcooldown : limiter.cooldown = s.limiter.cooldown)
    (hget : limiter.failures.get u = s.limiter.failures.get u) :
    FailuresBounded l u start finish { s with limiter } := by
  have hcounted := counted_congr hget
  refine ⟨hlimit.trans h.limit, hcooldown.trans h.cooldown, ?_, fun state hstate => ?_,
    h.remembered, h.failures, fun hnow => ?_, fun hnow hless => ?_⟩
  · exact hcounted ▸ h.bounded
  · exact h.past state (hget ▸ hstate)
  · exact hcounted ▸ h.counted hnow
  · exact hget ▸ h.recent hnow hless

/-- The limiter may forget a count that no failure within the window has raised. -/
theorem FailuresBounded.forgotten (h : FailuresBounded l u start finish s) {limiter : LoginRateLimiter}
    (hlimit : limiter.maxAttempts = s.limiter.maxAttempts)
    (hcooldown : limiter.cooldown = s.limiter.cooldown) (hnone : limiter.failures.get u = none)
    (hold : s.now ≤ finish → ∀ state, s.limiter.failures.get u = some state →
      state.lastFailure < start) :
    FailuresBounded l u start finish { s with limiter } := by
  have hcounted := counted_of_absent hnone
  have hall : s.now ≤ finish →
      s.failuresWithin u start finish ≤ s.uncounted u start finish := by
    intro hnow
    by_contra hless
    obtain ⟨state, hget, hrecent⟩ := h.recent hnow (Nat.lt_of_not_le hless)
    exact absurd hrecent (Nat.not_le_of_lt (hold hnow state hget))
  refine ⟨hlimit.trans h.limit, hcooldown.trans h.cooldown, ?_, fun state hstate => ?_,
    h.remembered, h.failures, fun hnow => ?_, fun hnow hless => ?_⟩
  · have hbounded := h.bounded
    show limiter.counted u + s.inFlight u ≤ l.maxAttempts
    omega
  · exact nomatch hnone.symm.trans hstate
  · exact Nat.le_trans (hall hnow) (Nat.le_add_left _ _)
  · exact absurd (hall hnow) (Nat.not_le_of_lt hless)

/-- A check, whether it lets the login through or not, leaves the failures accounted for. -/
theorem FailuresBounded.checked (h : FailuresBounded l u start finish s) (hwindow : finish < start + l.cooldown)
    (username : String) :
    FailuresBounded l u start finish { s with
      limiter := (s.limiter.isLimited username s.now).2 } := by
  obtain ⟨hlimit, hcooldown⟩ := isLimited_keeps s.limiter username s.now
  rcases get_isLimited s.limiter username u s.now with hget | ⟨hnone, state, hold, hexpired⟩
  · exact h.limiter_congr hlimit hcooldown hget
  · -- a count that expires within the window is older than it
    refine h.forgotten hlimit hcooldown hnone fun hnow state' hget => ?_
    cases hold.symm.trans hget
    have hpast := h.past state hold
    rw [h.cooldown] at hexpired
    omega

theorem refusedWithin_unanswered (connection : Nat) (username : String) :
    refusedWithin u start finish (connection, ⟨username, none⟩) = false :=
  Bool.and_false _

theorem FailuresBounded.admitted (h : FailuresBounded l u start finish s) {connection : Nat} {username : String}
    (hidle : s.logins.get connection = none)
    (hroom : s.limiter.counted username + s.inFlight username < s.limiter.maxAttempts) :
    FailuresBounded l u start finish { s with
      logins := s.logins.insert connection ⟨username, none⟩ } := by
  let t : LoginHandler := { s with logins := s.logins.insert connection ⟨username, none⟩ }
  have hentries : (s.logins.remove connection).entries = s.logins.entries :=
    KeyedTable.remove_of_absent hidle
  have hinFlight : t.inFlight u = s.inFlight u + if username = u then 1 else 0 := by
    have hcount := countP_insert (t := s.logins) (ofUser u) connection ⟨username, none⟩
    rw [hentries] at hcount
    refine hcount.trans ?_
    simp only [ofUser, decide_eq_true_eq]
    rfl
  have huncounted : t.uncounted u start finish = s.uncounted u start finish := by
    have hcount := countP_insert (t := s.logins) (refusedWithin u start finish) connection
      ⟨username, none⟩
    rwa [hentries, refusedWithin_unanswered] at hcount
  refine ⟨h.limit, h.cooldown, ?_, h.past, fun connection' outcome time hlogin => ?_, h.failures,
    fun hnow => ?_, fun hnow hless => ?_⟩
  · have hbounded := h.bounded
    have hlimit := h.limit
    show s.limiter.counted u + t.inFlight u ≤ l.maxAttempts
    rw [hinFlight]
    split
    next hu =>
      subst hu
      omega
    · exact hbounded
  · by_cases hsame : connection' = connection
    · subst hsame
      rw [KeyedTable.get_insert_self] at hlogin
      cases hlogin
    · rw [KeyedTable.get_insert_of_ne hsame] at hlogin
      exact h.remembered connection' outcome time hlogin
  · exact huncounted ▸ h.counted hnow
  · exact h.recent hnow (huncounted ▸ hless)

/-- A login that was not refused within the window goes without being counted. -/
theorem FailuresBounded.removed (h : FailuresBounded l u start finish s) {connection : Nat}
    {login : InFlightLogin} (hlogin : s.logins.get connection = some login)
    (hnot : refusedWithin u start finish (connection, login) = false) :
    FailuresBounded l u start finish { s with logins := s.logins.remove connection } := by
  let t : LoginHandler := { s with logins := s.logins.remove connection }
  have hinFlight : t.inFlight u ≤ s.inFlight u := Nat.le.intro (countP_of_get (ofUser u) hlogin).symm
  have huncounted : s.uncounted u start finish = t.uncounted u start finish := by
    have hcount := countP_of_get (refusedWithin u start finish) hlogin
    rwa [hnot] at hcount
  refine ⟨h.limit, h.cooldown, ?_, h.past, fun connection' outcome time hlogin' => ?_, h.failures,
    fun hnow => ?_, fun hnow hless => ?_⟩
  · exact Nat.le_trans (Nat.add_le_add_left hinFlight _) h.bounded
  · exact h.remembered connection' outcome time (get_of_get_remove hlogin')
  · exact huncounted ▸ h.counted hnow
  · exact h.recent hnow (huncounted ▸ hless)

/-- The backend's answer moves no login; a refusal within the window is not counted yet. -/
theorem FailuresBounded.answered (h : FailuresBounded l u start finish s) {connection : Nat} {username : String}
    (outcome : LoginOutcome) (hlogin : s.logins.get connection = some ⟨username, none⟩) :
    FailuresBounded l u start finish { s with
      logins := s.logins.insert connection ⟨username, some (outcome, s.now)⟩
      answers := s.answers ++ [⟨username, outcome, s.now⟩] } := by
  let login : InFlightLogin := ⟨username, some (outcome, s.now)⟩
  let t : LoginHandler := { s with
    logins := s.logins.insert connection login
    answers := s.answers ++ [⟨username, outcome, s.now⟩] }
  have hinFlight : t.inFlight u = s.inFlight u :=
    (countP_insert (ofUser u) connection login).trans (countP_of_get (ofUser u) hlogin).symm
  -- a refusal within the window is one more failure and one more to be counted
  let more := if refusedWithin u start finish (connection, login) then 1 else 0
  have huncounted : t.uncounted u start finish = s.uncounted u start finish + more := by
    have hold := countP_of_get (refusedWithin u start finish) hlogin
    rw [refusedWithin_unanswered, if_neg Bool.false_ne_true, Nat.add_zero] at hold
    rw [uncounted, uncounted, hold]
    exact countP_insert (refusedWithin u start finish) connection login
  have hfailures : t.failuresWithin u start finish = s.failuresWithin u start finish + more := by
    rw [failuresWithin, List.countP_append, List.countP_singleton]
    refine congrArg (s.failuresWithin u start finish + ·) ?_
    cases outcome <;> simp [more, login, refusedWithin, ofUser]
  have hcounted : s.now ≤ finish → t.failuresWithin u start finish ≤
      s.limiter.counted u + t.uncounted u start finish := by
    intro hnow
    have := h.counted hnow
    omega
  refine ⟨h.limit, h.cooldown, ?_, h.past, fun connection' outcome' time hlogin' => ?_, ?_,
    hcounted, fun hnow hless => ?_⟩
  · show s.limiter.counted u + t.inFlight u ≤ l.maxAttempts
    exact hinFlight ▸ h.bounded
  · by_cases hsame : connection' = connection
    · subst hsame
      rw [KeyedTable.get_insert_self] at hlogin'
      cases hlogin'
      exact ⟨List.mem_append_right _ List.mem_cons_self, Nat.le_refl _⟩
    · rw [KeyedTable.get_insert_of_ne hsame] at hlogin'
      obtain ⟨hmem, htime⟩ := h.remembered connection' outcome' time hlogin'
      exact ⟨List.mem_append_left _ hmem, htime⟩
  · by_cases hnow : s.now ≤ finish
    · have hall := hcounted hnow
      have hle := uncounted_le_inFlight t u start finish
      have hbounded := h.bounded
      show t.failuresWithin u start finish ≤ l.maxAttempts
      omega
    · have hnone : more = 0 := by
        refine if_neg ?_
        cases outcome <;> simp [login, refusedWithin, hnow]
      show t.failuresWithin u start finish ≤ l.maxAttempts
      rw [hfailures, hnone]
      exact h.failures
  · have hless' : t.uncounted u start finish < t.failuresWithin u start finish := hless
    exact h.recent hnow (by omega)

theorem FailuresBounded.counted_refusal (h : FailuresBounded l u start finish s) (hmax : 0 < l.maxAttempts)
    {connection time : Nat}
    (hlogin : s.logins.get connection = some ⟨u, some (.authenticationFailed, time)⟩) :
    FailuresBounded l u start finish { s with
      limiter := s.limiter.recordFailure u s.now
      logins := s.logins.remove connection } := by
  let login : InFlightLogin := ⟨u, some (.authenticationFailed, time)⟩
  let t : LoginHandler := { s with
    limiter := s.limiter.recordFailure u s.now, logins := s.logins.remove connection }
  have hbounded := h.bounded
  have hinFlight : s.inFlight u = t.inFlight u + 1 := by
    have hcount := countP_of_get (ofUser u) hlogin
    rwa [if_pos (show ofUser u (connection, login) = true from decide_eq_true rfl)] at hcount
  let one := if refusedWithin u start finish (connection, login) then 1 else 0
  have huncounted : s.uncounted u start finish = t.uncounted u start finish + one :=
    countP_of_get (refusedWithin u start finish) hlogin
  have hone : one ≤ 1 ∧ (one = 1 → start ≤ time) := by
    simp only [one, refusedWithin, ofUser, login]
    split <;> simp_all
  have hactive : s.limiter.maxAttempts ≠ 0 := by
    rw [h.limit]
    omega
  -- the limiter counts this failure in the state it has, or in a new one
  obtain ⟨attempts, hget, hattempts⟩ : ∃ attempts,
      t.limiter.failures.get u = some ⟨attempts, s.now⟩ ∧
        attempts = s.limiter.counted u + 1 := by
    have hfits := s.limiter.fits
    rw [h.limit] at hfits
    simp only [t, LoginRateLimiter.recordFailure, if_neg hactive]
    cases hstate : s.limiter.failures.get u with
    | none => exact ⟨1, KeyedTable.get_insert_self _ _ _, by rw [counted_of_absent hstate]⟩
    | some state =>
      have hcounted := counted_of_get hstate
      refine ⟨_, KeyedTable.get_insert_self _ _ _, ?_⟩
      rw [hcounted, Nat.min_eq_left (by omega)]
  have hcounted : t.limiter.counted u = s.limiter.counted u + 1 :=
    (counted_of_get (s := t) hget).trans hattempts
  have hlimits : t.limiter.maxAttempts = s.limiter.maxAttempts ∧
      t.limiter.cooldown = s.limiter.cooldown := by
    simp only [t, LoginRateLimiter.recordFailure, if_neg hactive, and_self]
  refine ⟨hlimits.1.trans h.limit, hlimits.2.trans h.cooldown, ?_, fun state hstate => ?_,
    fun connection' outcome time' hlogin' => ?_, h.failures, fun hnow => ?_, fun hnow hless => ?_⟩
  · show t.limiter.counted u + t.inFlight u ≤ l.maxAttempts
    omega
  · cases hget.symm.trans hstate
    exact Nat.le_refl _
  · exact h.remembered connection' outcome time' (get_of_get_remove hlogin')
  · have hall := h.counted hnow
    show s.failuresWithin u start finish ≤ t.limiter.counted u + t.uncounted u start finish
    omega
  · refine ⟨_, hget, ?_⟩
    show start ≤ s.now
    have htime := (h.remembered connection _ time hlogin).2
    have hless' : t.uncounted u start finish < s.failuresWithin u start finish := hless
    -- a failure that was only in flight lies in the window as the last one now
    by_cases hlate : s.uncounted u start finish < s.failuresWithin u start finish
    · obtain ⟨state, hstate, hrecent⟩ := h.recent hnow hlate
      exact Nat.le_trans hrecent (h.past state hstate)
    · have := hone.2 (by omega)
      omega

/-- What follows the backend's answer keeps the failures accounted for. -/
theorem FailuresBounded.settle (h : FailuresBounded l u start finish s) (hmax : 0 < l.maxAttempts)
    {connection time : Nat} {username : String} {outcome : LoginOutcome}
    (hlogin : s.logins.get connection = some ⟨username, some (outcome, time)⟩)
    (hresets : ResetsOwnPast s (.settle connection)) (hquiet : s.NoSuccessWithin u start finish) :
    FailuresBounded l u start finish { s with
      limiter := settled s.limiter username s.now outcome
      logins := s.logins.remove connection } := by
  by_cases hu : username = u
  · subst hu
    simp only [ResetsOwnPast, hlogin] at hresets
    cases outcome with
    | started =>
      have hcleared : FailuresBounded l username start finish { s with
          limiter := s.limiter.reset username } := by
        refine h.forgotten rfl rfl (KeyedTable.get_remove_self _ _) fun hnow state hget => ?_
        obtain ⟨hmem, htime⟩ := h.remembered connection _ time hlogin
        have hearlier := hresets state hget
        by_contra hrecent
        have hlate : finish < time := hquiet _ hmem rfl rfl (show start ≤ time by omega)
        omega
      exact hcleared.removed hlogin (Bool.and_false _)
    | authenticationFailed => exact h.counted_refusal hmax hlogin
    | authenticatedSessionFailed =>
      have hsame : FailuresBounded l username start finish { s with
          limiter := s.limiter.reset username } :=
        h.limiter_congr rfl rfl ((KeyedTable.get_remove_self _ _).trans hresets.symm)
      exact hsame.removed hlogin (Bool.and_false _)
    | infrastructureFailed => exact h.removed hlogin (Bool.and_false _)
    | seatUnavailable => exact h.removed hlogin (Bool.and_false _)
    | workerDiedAndWasRecovered => exact h.removed hlogin (Bool.and_false _)
    | workerRecoveryIncomplete => exact h.removed hlogin (Bool.and_false _)
  · have hnot : refusedWithin u start finish
        (connection, ⟨username, some (outcome, time)⟩) = false := by
      simp [refusedWithin, ofUser, hu]
    have hkept : FailuresBounded l u start finish { s with
        limiter := settled s.limiter username s.now outcome } := by
      cases outcome with
      | started => exact h.limiter_congr rfl rfl (KeyedTable.get_remove_of_ne (Ne.symm hu))
      | authenticatedSessionFailed =>
        exact h.limiter_congr rfl rfl (KeyedTable.get_remove_of_ne (Ne.symm hu))
      | authenticationFailed =>
        have hrecord : settled s.limiter username s.now .authenticationFailed =
            s.limiter.recordFailure username s.now := rfl
        rw [hrecord]
        unfold LoginRateLimiter.recordFailure
        split
        · exact h
        · exact h.limiter_congr rfl rfl (KeyedTable.get_insert_of_ne (Ne.symm hu))
      | _ => exact h
    exact hkept.removed hlogin hnot

theorem FailuresBounded.reached (h : FailuresBounded l u start finish s) (hmax : 0 < l.maxAttempts)
    (hwindow : finish < start + l.cooldown) (hreached : LoginReached s point s')
    (hchecks : ChecksInFlight s point) (hresets : ResetsOwnPast s point)
    (hquiet : s.NoSuccessWithin u start finish) : FailuresBounded l u start finish s' := by
  cases hreached with
  | quiet => exact h
  | admitted connection username hidle hpass =>
    have hroom := hchecks hidle hpass
    rw [← (isLimited_keeps s.limiter username s.now).1] at hroom
    exact (h.checked hwindow username).admitted hidle hroom
  | unavailable connection username hlogin =>
    exact h.removed hlogin (refusedWithin_unanswered _ _)
  | answered connection username outcome hlogin => exact h.answered outcome hlogin
  | settled connection username outcome time hlogin => exact h.settle hmax hlogin hresets hquiet

theorem LoginReached.answers (h : LoginReached s point s') : s.answers ⊆ s'.answers := by
  cases h with
  | answered connection username outcome hlogin => exact List.subset_append_left _ _
  | _ => exact List.Subset.refl _

/-- The condition on the next event, at the time it happens. -/
def LoginHandler.Admits (s : LoginHandler) (event : LoginEvent) : Prop :=
  ChecksInFlight { s with now := s.now + event.elapsed } event.point ∧
    ResetsOwnPast { s with now := s.now + event.elapsed } event.point

/-- When every check that lets a login through leaves room for the user's logins on their way, and no
reset clears a failure later than its own login's success, then in every run, for every user and
every window shorter than the cooldown in which no login of the user succeeds, at most
`max_attempts` of the user's passwords are refused. -/
theorem failuresWithin_le_maxAttempts (l : LoginRateLimiter) (hfresh : l.failures = .empty)
    (hmax : 0 < l.maxAttempts) (events : List LoginEvent)
    (hrun : StepsMeet step Admits (.new l) events) (u : String) (start finish : Nat)
    (hwindow : finish < start + l.cooldown)
    (hquiet : (events.foldl step (.new l)).NoSuccessWithin u start finish) :
    (events.foldl step (.new l)).failuresWithin u start finish ≤ l.maxAttempts := by
  have hstart : FailuresBounded l u start finish (.new l) :=
    failuresBounded_new l (by rw [hfresh, KeyedTable.get_empty])
  refine (foldl_invariant (fun s => s.NoSuccessWithin u start finish → FailuresBounded l u start finish s)
    (fun s event hs hevent hquiet' => ?_) events (.new l) (fun _ => hstart) hrun hquiet).failures
  have hreached := reached_reach { s with now := s.now + event.elapsed } event.point
  have hbefore : s.NoSuccessWithin u start finish := fun a ha => hquiet' a (hreached.answers ha)
  exact ((hs hbefore).tick event.elapsed).reached hmax hwindow hreached hevent.1 hevent.2 hbefore

def oneAttemptLimiter : LoginRateLimiter where
  maxAttempts := 1
  fits := by decide
  cooldown := 60
  failures := .empty

/-- One login after the other: the second is turned away. -/
def oneByOne : List LoginEvent :=
  [⟨0, .check 1 "alice"⟩, ⟨1, .answer 1 .authenticationFailed⟩, ⟨0, .settle 1⟩,
    ⟨1, .check 2 "alice"⟩]

theorem oneByOne_within :
    (oneByOne.foldl step (.new oneAttemptLimiter)).failuresWithin "alice" 0 59 ≤ 1 := by
  refine failuresWithin_le_maxAttempts oneAttemptLimiter rfl (by decide) oneByOne ?_ "alice" 0 59
    (by decide) ?_
  · refine ⟨⟨fun _ _ => by decide, trivial⟩, ⟨trivial, trivial⟩, ⟨trivial, trivial⟩,
      ⟨fun _ hpass => ?_, trivial⟩, trivial⟩
    exact absurd hpass (by decide)
  · intro a ha _ hstarted
    have houtcome : a.outcome = .authenticationFailed := by
      have : a ∈ [(⟨"alice", .authenticationFailed, 1⟩ : BackendAnswer)] := ha
      rw [List.mem_singleton.mp this]
    rw [houtcome] at hstarted
    cases hstarted

def bothChecked : List LoginEvent :=
  [⟨0, .check 1 "alice"⟩, ⟨0, .check 2 "alice"⟩, ⟨1, .answer 1 .authenticationFailed⟩,
    ⟨0, .answer 2 .authenticationFailed⟩]

theorem bothChecked_exceeds :
    (bothChecked.foldl step (.new oneAttemptLimiter)).NoSuccessWithin "alice" 0 1 ∧
      oneAttemptLimiter.maxAttempts <
        (bothChecked.foldl step (.new oneAttemptLimiter)).failuresWithin "alice" 0 1 := by
  refine ⟨fun a ha _ hstarted => ?_, by decide⟩
  have houtcome : ∀ b ∈ (bothChecked.foldl step (.new oneAttemptLimiter)).answers,
      b.outcome = .authenticationFailed := by decide
  rw [houtcome a ha] at hstarted
  cases hstarted

end Accounting

end Niralis
