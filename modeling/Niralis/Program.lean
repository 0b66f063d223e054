import Niralis.Runs

namespace Niralis

/-- A program is finished, or makes a request and goes on with the answer and the world after
it. -/
inductive Program (σ ρ α : Type)
  | done (a : α)
  | ask (request : ρ) (next : Bool → σ → Program σ ρ α)

namespace Program
variable {σ ρ χ α β ε : Type}

def bind : Program σ ρ α → (α → Program σ ρ β) → Program σ ρ β
  | done a, f => f a
  | ask request next, f => ask request fun ok s => (next ok s).bind f

instance : Monad (Program σ ρ) where
  pure := done
  bind := bind

def pending : Program σ ρ α → Option ρ
  | done _ => none
  | ask request _ => some request

/-- A program about one part of the world, as a program in the whole. -/
def zoom {σ' ρ' : Type} (view : σ' → σ) (inject : ρ → ρ') : Program σ ρ α → Program σ' ρ' α
  | done a => done a
  | ask request next => ask (inject request) fun ok s => (next ok (view s)).zoom view inject

section Semantics
variable (perform : σ → ρ → χ → Bool × σ) (ok : σ → ρ → χ → Prop) (good : σ → ρ → Prop)

/-- Every request made is `good` and every result satisfies `post`, as long as `ok` admits what
the world answers. -/
def Sat : Program σ ρ α → σ → (α → σ → Prop) → Prop
  | done a, s, post => post a s
  | ask request next, s, post => good s request ∧ ∀ x, ok s request x →
    (next (perform s request x).1 (perform s request x).2).Sat (perform s request x).2 post

/-- One request of a running program, with the answer `x` of the world. -/
def step (s : σ × Program σ ρ α) (x : χ) : σ × Program σ ρ α :=
  match s.2 with
  | done a => (s.1, done a)
  | ask request next =>
    ((perform s.1 request x).2, next (perform s.1 request x).1 (perform s.1 request x).2)

/-- The whole run, with the `n`-th and all later answers of the world. -/
def run (answers : Nat → χ) : Program σ ρ α → σ → Nat → α × σ
  | done a, s, _ => (a, s)
  | ask request next, s, n =>
    (next (perform s request (answers n)).1 (perform s request (answers n)).2).run answers
      (perform s request (answers n)).2 (n + 1)

/-- `ok` admits every request and answer of the run. -/
def RunMeets (answers : Nat → χ) : Program σ ρ α → σ → Nat → Prop
  | done _, _, _ => True
  | ask request next, s, n => ok s request (answers n) ∧
    (next (perform s request (answers n)).1 (perform s request (answers n)).2).RunMeets answers
      (perform s request (answers n)).2 (n + 1)

/-- `ok` as a condition on the steps of a running program. -/
def Admits (s : σ × Program σ ρ α) (x : χ) : Prop :=
  ∀ request, s.2.pending = some request → ok s.1 request x

end Semantics

variable {perform : σ → ρ → χ → Bool × σ} {ok : σ → ρ → χ → Prop} {good : σ → ρ → Prop}

theorem Sat.mono {p : Program σ ρ α} {s : σ} {post post' : α → σ → Prop}
    (h : p.Sat perform ok good s post) (hpost : ∀ a s', post a s' → post' a s') :
    p.Sat perform ok good s post' := by
  induction p generalizing s with
  | done a => exact hpost a s h
  | ask request next ih => exact ⟨h.1, fun x hx => ih _ _ (h.2 x hx)⟩

theorem Sat.bind {p : Program σ ρ α} {f : α → Program σ ρ β} {s : σ} {mid : α → σ → Prop}
    {post : β → σ → Prop} (hp : p.Sat perform ok good s mid)
    (hf : ∀ a s', mid a s' → (f a).Sat perform ok good s' post) :
    (p >>= f).Sat perform ok good s post := by
  induction p generalizing s with
  | done a => exact hf a s hp
  | ask request next ih => exact ⟨hp.1, fun x hx => ih _ _ (hp.2 x hx)⟩

theorem Sat.and {p : Program σ ρ α} {s : σ} {post post' : α → σ → Prop}
    (h : p.Sat perform ok good s post) (h' : p.Sat perform ok good s post') :
    p.Sat perform ok good s fun a s' => post a s' ∧ post' a s' := by
  induction p generalizing s with
  | done a => exact ⟨h, h'⟩
  | ask request next ih => exact ⟨h.1, fun x hx => ih _ _ (h.2 x hx) (h'.2 x hx)⟩

/-- What a sequence of two programs satisfies, its first part satisfies with the second still to
come. -/
theorem sat_bind_iff {p : Program σ ρ α} {f : α → Program σ ρ β} {s : σ} {post : β → σ → Prop} :
    (p >>= f).Sat perform ok good s post ↔
      p.Sat perform ok good s fun a s' => (f a).Sat perform ok good s' post := by
  constructor
  · intro h
    induction p generalizing s with
    | done a => exact h
    | ask request next ih => exact ⟨h.1, fun x hx => ih _ _ (h.2 x hx)⟩
  · exact fun h => h.bind fun _ _ hf => hf

/-- Every request that the program can make is allowed. -/
def Asks (allowed : ρ → Prop) : Program σ ρ α → Prop
  | done _ => True
  | ask request next => allowed request ∧ ∀ ok s, (next ok s).Asks allowed

theorem Asks.bind {allowed : ρ → Prop} {p : Program σ ρ α} {f : α → Program σ ρ β}
    (hp : p.Asks allowed) (hf : ∀ a, (f a).Asks allowed) : (p.bind f).Asks allowed := by
  induction p with
  | done a => exact hf a
  | ask request next ih => exact ⟨hp.1, fun ok s => ih _ _ (hp.2 ok s)⟩

/-- What allowed requests keep, a program that makes no others keeps. -/
theorem Asks.sat {allowed : ρ → Prop} {p : Program σ ρ α} (h : p.Asks allowed) (inv : σ → Prop)
    (hgood : ∀ s request, inv s → allowed request → good s request)
    (hinv : ∀ s request x, inv s → allowed request → inv (perform s request x).2) {s : σ}
    (hs : inv s) : p.Sat perform ok good s fun _ s' => inv s' := by
  induction p generalizing s with
  | done a => exact hs
  | ask request next ih =>
    exact ⟨hgood s request hs h.1, fun x _ => ih _ _ (h.2 _ _) (hinv s request x hs h.1)⟩

/-- What good requests keep is carried along, under stronger assumptions on the answers, and may be
used to show that the requests are good in another sense. -/
theorem Sat.strengthen {ok' : σ → ρ → χ → Prop} {good' : σ → ρ → Prop} {p : Program σ ρ α} {s : σ}
    {post : α → σ → Prop} (h : p.Sat perform ok good s post) (inv : σ → Prop) (hs : inv s)
    (hok : ∀ s request x, ok' s request x → ok s request x)
    (hgood : ∀ s request, inv s → good s request → good' s request)
    (hinv : ∀ s request x, inv s → good s request → ok' s request x →
      inv (perform s request x).2) :
    p.Sat perform ok' good' s fun a s' => post a s' ∧ inv s' := by
  induction p generalizing s with
  | done a => exact ⟨h, hs⟩
  | ask request next ih =>
    refine ⟨hgood s request hs h.1, fun x hx => ?_⟩
    exact ih _ _ (h.2 x (hok s request x hx)) (hinv s request x hs h.1 hx)

/-- What a program satisfies in its part of the world, it satisfies in the whole. -/
theorem Sat.zoom {σ' ρ' : Type} {view : σ' → σ} {inject : ρ → ρ'}
    {perform' : σ' → ρ' → χ → Bool × σ'} {ok' : σ' → ρ' → χ → Prop} {good' : σ' → ρ' → Prop}
    (hanswer : ∀ s' request x, (perform' s' (inject request) x).1 = (perform (view s') request x).1)
    (hview : ∀ s' request x,
      view (perform' s' (inject request) x).2 = (perform (view s') request x).2)
    (hok : ∀ s' request x, ok' s' (inject request) x → ok (view s') request x)
    (hgood : ∀ s' request, good (view s') request → good' s' (inject request))
    {p : Program σ ρ α} {s' : σ'} {post : α → σ → Prop} (h : p.Sat perform ok good (view s') post) :
    (p.zoom view inject).Sat perform' ok' good' s' fun a s'' => post a (view s'') := by
  induction p generalizing s' with
  | done a => exact h
  | ask request next ih =>
    refine ⟨hgood s' request h.1, fun x hx => ?_⟩
    have hnext := h.2 x (hok s' request x hx)
    rw [← hanswer, ← hview] at hnext
    exact ih _ _ hnext

theorem sat_invariant (inv : σ → Prop)
    (hinv : ∀ s request x, inv s → ok s request x → inv (perform s request x).2)
    (p : Program σ ρ α) {s : σ} (hs : inv s) :
    p.Sat perform ok (fun _ _ => True) s fun _ s' => inv s' := by
  induction p generalizing s with
  | done a => exact hs
  | ask request next ih => exact ⟨trivial, fun x hx => ih _ _ (hinv s request x hs hx)⟩

theorem Sat.run {p : Program σ ρ α} {s : σ} {post : α → σ → Prop} {answers : Nat → χ} {n : Nat}
    (h : p.Sat perform ok good s post) (hm : p.RunMeets perform ok answers s n) :
    post (p.run perform answers s n).1 (p.run perform answers s n).2 := by
  induction p generalizing s n with
  | done a => exact h
  | ask request next ih => exact ih _ _ (h.2 _ hm.1) hm.2

theorem Sat.step {s : σ × Program σ ρ α} {x : χ} {post : α → σ → Prop}
    (h : s.2.Sat perform ok good s.1 post) (hx : Admits ok s x) :
    (step perform s x).2.Sat perform ok good (step perform s x).1 post := by
  obtain ⟨w, p⟩ := s
  cases p with
  | done a => exact h
  | ask request next => exact h.2 x (hx request rfl)

theorem Sat.pending {s : σ × Program σ ρ α} {post : α → σ → Prop} {request : ρ}
    (h : s.2.Sat perform ok good s.1 post) (hr : s.2.pending = some request) :
    good s.1 request := by
  obtain ⟨w, p⟩ := s
  cases p with
  | done a => cases hr
  | ask request' next =>
    cases hr
    exact h.1

theorem Sat.result {s : σ × Program σ ρ α} {post : α → σ → Prop}
    (h : s.2.Sat perform ok good s.1 post) (hdone : s.2.pending = none) : ∃ a, post a s.1 := by
  obtain ⟨w, p⟩ := s
  cases p with
  | done a => exact ⟨a, h⟩
  | ask request next => cases hdone

theorem step_of_pending {s : σ × Program σ ρ α} {request : ρ} (h : s.2.pending = some request)
    (x : χ) : (step perform s x).1 = (perform s.1 request x).2 := by
  obtain ⟨w, p⟩ := s
  cases p with
  | done a => cases h
  | ask request' next =>
    cases h
    rfl

theorem admits_of_pending {s : σ × Program σ ρ α} {request : ρ} {x : χ}
    (hpending : s.2.pending = some request) (h : ok s.1 request x) : Admits ok s x := by
  intro request' hpending'
  cases hpending.symm.trans hpending'
  exact h

theorem runMeets_of_forall (hok : ∀ s request x, ok s request x) (p : Program σ ρ α) (s : σ)
    (answers : Nat → χ) (n : Nat) : p.RunMeets perform ok answers s n := by
  induction p generalizing s n with
  | done a => trivial
  | ask request next ih => exact ⟨hok _ _ _, ih _ _ _ _⟩

theorem Sat.run_invariant {p : Program σ ρ α} {s : σ} {post : α → σ → Prop}
    {answers : Nat → χ} {n : Nat} (h : p.Sat perform ok good s post) (inv : σ → Prop)
    (hinv : ∀ s request x, inv s → good s request → ok s request x →
      inv (perform s request x).2) (hs : inv s) (hm : p.RunMeets perform ok answers s n) :
    inv (p.run perform answers s n).2 := by
  induction p generalizing s n with
  | done a => exact hs
  | ask request next ih =>
    exact ih _ _ (h.2 _ hm.1) (hinv s request _ hs h.1 hm.1) hm.2

/-- Under one and the same answer it does not matter how many were given before. -/
theorem run_const_index (x : χ) (p : Program σ ρ α) (s : σ) (n m : Nat) :
    p.run perform (fun _ => x) s n = p.run perform (fun _ => x) s m := by
  induction p generalizing s n m with
  | done a => rfl
  | ask request next ih => exact ih _ _ _ _ _

theorem run_const_bind (x : χ) (p : Program σ ρ α) (f : α → Program σ ρ β) (s : σ) (n : Nat) :
    (p.bind f).run perform (fun _ => x) s n =
      (f (p.run perform (fun _ => x) s n).1).run perform (fun _ => x)
        (p.run perform (fun _ => x) s n).2 n := by
  induction p generalizing s n with
  | done a => rfl
  | ask request next ih =>
    refine (ih _ _ _ _).trans ?_
    exact run_const_index x _ _ _ _

theorem step_cases (perform : σ → ρ → χ → Bool × σ) (s : σ × Program σ ρ α) (x : χ) :
    (step perform s x).1 = s.1 ∨ ∃ request, s.2.pending = some request ∧
      (step perform s x).1 = (perform s.1 request x).2 := by
  obtain ⟨w, p⟩ := s
  cases p with
  | done a => exact Or.inl rfl
  | ask request next => exact Or.inr ⟨request, rfl, rfl⟩

/-- What a program satisfies holds of the rest of it wherever a run stops. -/
theorem Sat.steps {p : Program σ ρ α} {s : σ} {post : α → σ → Prop}
    (h : p.Sat perform ok good s post) {xs : List χ}
    (hm : StepsMeet (Program.step perform) (Admits ok) (s, p) xs) :
    (xs.foldl (Program.step perform) (s, p)).2.Sat perform ok good
      (xs.foldl (Program.step perform) (s, p)).1 post :=
  foldl_invariant (fun t => t.2.Sat perform ok good t.1 post) (fun _ _ ht hx => ht.step hx) xs
    (s, p) h hm

theorem Sat.stepsMeet {p : Program σ ρ α} {s : σ} {post : α → σ → Prop}
    (h : p.Sat perform ok good s post) (hgood : ∀ s request x, good s request → ok s request x)
    (xs : List χ) : StepsMeet (Program.step perform) (Admits ok) (s, p) xs := by
  induction xs generalizing s p with
  | nil => trivial
  | cons x xs ih =>
    have hx : Admits ok (s, p) x := fun request hpending =>
      hgood s request x (Sat.pending (s := (s, p)) h hpending)
    exact ⟨hx, ih (Sat.step (s := (s, p)) h hx)⟩

/-- What safe requests keep holds wherever a run of a safe program stops. -/
theorem Sat.steps_invariant {p : Program σ ρ α} {s : σ} {post : α → σ → Prop}
    (h : p.Sat perform ok good s post) (inv : σ → Prop)
    (hinv : ∀ s request x, inv s → good s request → ok s request x →
      inv (perform s request x).2) (hs : inv s) {xs : List χ}
    (hm : StepsMeet (Program.step perform) (Admits ok) (s, p) xs) :
    inv (xs.foldl (Program.step perform) (s, p)).1 := by
  refine (foldl_invariant (fun t => t.2.Sat perform ok good t.1 post ∧ inv t.1)
    (fun t x ht hx => ⟨ht.1.step hx, ?_⟩) xs (s, p) ⟨h, hs⟩ hm).2
  obtain ⟨s', q⟩ := t
  cases q with
  | done a => exact ht.2
  | ask request next => exact hinv s' request x ht.2 ht.1.1 (hx request rfl)

theorem foldl_step_invariant (inv : σ → Prop)
    (hinv : ∀ s request x, inv s → inv (perform s request x).2) (p : Program σ ρ α) {s : σ}
    (hs : inv s) (xs : List χ) : inv (xs.foldl (Program.step perform) (s, p)).1 := by
  refine foldl_invariant (fun t => inv t.1) (fun t x ht _ => ?_) xs (s, p) hs
    (stepsMeet_of_forall (fun _ _ => trivial) _ _)
  rcases step_cases perform t x with hsame | ⟨request, -, hperform⟩
  · exact hsame ▸ ht
  · exact hperform ▸ hinv t.1 request x ht

end Program

def Attempt (σ ρ ε α : Type) : Type := Program σ ρ (Except ε α)

namespace Attempt
variable {σ ρ χ α β ε ε' : Type}

def bind (p : Attempt σ ρ ε α) (f : α → Attempt σ ρ ε β) : Attempt σ ρ ε β :=
  Program.bind p fun
    | .ok a => f a
    | .error e => .done (.error e)

instance : Monad (Attempt σ ρ ε) where
  pure a := .done (.ok a)
  bind := bind

def fail (e : ε) : Attempt σ ρ ε α := .done (.error e)

/-- `if !condition { return Err(e) }` -/
def require (condition : Bool) (e : ε) : Attempt σ ρ ε Unit :=
  if condition then pure () else fail e

/-- `value.ok_or(e)?` -/
def okOr (value : Option α) (e : ε) : Attempt σ ρ ε α :=
  match value with
  | some a => pure a
  | none => fail e

/-- `result?` -/
def check (result : Except ε α) : Attempt σ ρ ε α :=
  match result with
  | .ok a => pure a
  | .error e => fail e

/-- `self.map_err(|_| e)?` -/
def mapErr (p : Attempt σ ρ ε α) (f : ε → ε') : Attempt σ ρ ε' α :=
  Program.bind p fun
    | .ok a => .done (.ok a)
    | .error e => .done (.error (f e))

def perform (request : ρ) (e : ε) : Attempt σ ρ ε Unit :=
  .ask request fun ok _ => if ok then .done (.ok ()) else .done (.error e)

/-- What holds after success; a failed program promises nothing. -/
def onOk (post : α → σ → Prop) : Except ε α → σ → Prop
  | .ok a, s => post a s
  | .error _, _ => True

variable {act : σ → ρ → χ → Bool × σ} {ok : σ → ρ → χ → Prop} {good : σ → ρ → Prop}

/-- What a program that can fail satisfies when it succeeds. -/
def Sat (act : σ → ρ → χ → Bool × σ) (ok : σ → ρ → χ → Prop) (good : σ → ρ → Prop)
    (p : Attempt σ ρ ε α) (s : σ) (post : α → σ → Prop) : Prop :=
  Program.Sat act ok good p s (onOk post)

theorem Sat.mono {p : Attempt σ ρ ε α} {s : σ} {post post' : α → σ → Prop}
    (h : p.Sat act ok good s post) (hpost : ∀ a s', post a s' → post' a s') :
    p.Sat act ok good s post' := by
  refine Program.Sat.mono h fun r s' hr => ?_
  cases r with
  | ok a => exact hpost a s' hr
  | error e => trivial

theorem Sat.bind {p : Attempt σ ρ ε α} {f : α → Attempt σ ρ ε β} {s : σ} {mid : α → σ → Prop}
    {post : β → σ → Prop} (hp : p.Sat act ok good s mid)
    (hf : ∀ a s', mid a s' → (f a).Sat act ok good s' post) :
    (p >>= f).Sat act ok good s post := by
  refine Program.Sat.bind hp fun r s' hr => ?_
  cases r with
  | ok a => exact hf a s' hr
  | error e => trivial

/-- Without a demand on requests and results there is nothing to show. -/
theorem sat_trivial (p : Attempt σ ρ ε α) (s : σ) :
    p.Sat act ok (fun _ _ => True) s fun _ _ => True := by
  have h : Program.Sat act ok (fun _ _ => True) p s fun _ _ => True :=
    Program.sat_invariant (fun _ => True) (fun _ _ _ _ _ => trivial) p trivial
  refine Program.Sat.mono h fun r s' _ => ?_
  cases r <;> trivial

theorem sat_pure (a : α) (s : σ) (post : α → σ → Prop) :
    (pure a : Attempt σ ρ ε α).Sat act ok good s post ↔ post a s := Iff.rfl

theorem sat_fail (e : ε) (s : σ) (post : α → σ → Prop) :
    (fail e : Attempt σ ρ ε α).Sat act ok good s post := trivial

theorem sat_require (c : Bool) (e : ε) (s : σ) :
    (require c e : Attempt σ ρ ε Unit).Sat act ok good s fun _ s' => s' = s ∧ c = true := by
  cases c with
  | false => exact sat_fail e s _
  | true => exact ⟨rfl, rfl⟩

theorem sat_okOr (o : Option α) (e : ε) (s : σ) :
    (okOr o e : Attempt σ ρ ε α).Sat act ok good s fun a s' => s' = s ∧ o = some a := by
  cases o with
  | none => exact sat_fail e s _
  | some a => exact ⟨rfl, rfl⟩

theorem sat_check (r : Except ε α) (s : σ) :
    (check r : Attempt σ ρ ε α).Sat act ok good s fun a s' => s' = s ∧ r = .ok a := by
  cases r with
  | error e => exact sat_fail e s _
  | ok a => exact ⟨rfl, rfl⟩

theorem Sat.require_bind {c : Bool} {e : ε} {f : Unit → Attempt σ ρ ε β} {s : σ}
    {post : β → σ → Prop} (h : c = true → (f ()).Sat act ok good s post) :
    (require c e >>= f).Sat act ok good s post :=
  (sat_require c e s).bind fun _ _ hs => hs.1 ▸ h hs.2

theorem Sat.okOr_bind {o : Option α} {e : ε} {f : α → Attempt σ ρ ε β} {s : σ}
    {post : β → σ → Prop} (h : ∀ a, o = some a → (f a).Sat act ok good s post) :
    (okOr o e >>= f).Sat act ok good s post :=
  (sat_okOr o e s).bind fun a _ hs => hs.1 ▸ h a hs.2

theorem Sat.check_bind {r : Except ε α} {f : α → Attempt σ ρ ε β} {s : σ}
    {post : β → σ → Prop} (h : ∀ a, r = .ok a → (f a).Sat act ok good s post) :
    (check r >>= f).Sat act ok good s post :=
  (sat_check r s).bind fun a _ hs => hs.1 ▸ h a hs.2

theorem Sat.mapErr {p : Attempt σ ρ ε α} {f : ε → ε'} {s : σ} {post : α → σ → Prop}
    (hp : p.Sat act ok good s post) : (p.mapErr f).Sat act ok good s post := by
  refine Program.Sat.bind hp fun r s' hr => ?_
  cases r with
  | ok a => exact hr
  | error e => trivial

section Asks
variable {allowed : ρ → Prop}

/-- Every request that the program can make is allowed. -/
def Asks (allowed : ρ → Prop) (p : Attempt σ ρ ε α) : Prop := Program.Asks allowed p

theorem asks_pure (a : α) : (pure a : Attempt σ ρ ε α).Asks allowed := trivial

theorem asks_fail (e : ε) : (fail e : Attempt σ ρ ε α).Asks allowed := trivial

theorem asks_require (c : Bool) (e : ε) : (require c e : Attempt σ ρ ε Unit).Asks allowed := by
  cases c <;> trivial

theorem asks_okOr (o : Option α) (e : ε) : (okOr o e : Attempt σ ρ ε α).Asks allowed := by
  cases o <;> trivial

theorem asks_check (r : Except ε α) : (check r : Attempt σ ρ ε α).Asks allowed := by
  cases r <;> trivial

theorem asks_perform {request : ρ} (h : allowed request) (e : ε) :
    (perform request e : Attempt σ ρ ε Unit).Asks allowed := by
  refine ⟨h, fun ok _ => ?_⟩
  cases ok <;> trivial

theorem Asks.bind {p : Attempt σ ρ ε α} {f : α → Attempt σ ρ ε β} (hp : p.Asks allowed)
    (hf : ∀ a, (f a).Asks allowed) : (p >>= f).Asks allowed := by
  refine Program.Asks.bind hp fun r => ?_
  cases r with
  | ok a => exact hf a
  | error e => trivial

end Asks

theorem sat_perform_result {request : ρ} {e : ε} {s : σ} {post : Except ε Unit → σ → Prop}
    (hg : good s request)
    (hdone : ∀ x, ok s request x → (act s request x).1 = true →
      post (.ok ()) (act s request x).2)
    (hrefused : ∀ x, ok s request x → (act s request x).1 = false →
      post (.error e) (act s request x).2) :
    Program.Sat act ok good (perform request e) s post := by
  refine ⟨hg, fun x hx => ?_⟩
  cases h : (act s request x).1 with
  | false => exact hrefused x hx h
  | true => exact hdone x hx h

theorem sat_perform {request : ρ} {e : ε} {s : σ} {post : Unit → σ → Prop}
    (hg : good s request)
    (hp : ∀ x, ok s request x → (act s request x).1 = true → post () (act s request x).2) :
    (perform request e : Attempt σ ρ ε Unit).Sat act ok good s post :=
  sat_perform_result hg hp fun _ _ _ => trivial

section Results
variable {s : σ} {result : Except ε β → σ → Prop}

/-- What is left to satisfy when the first of two programs has ended. -/
def Continues (act : σ → ρ → χ → Bool × σ) (ok : σ → ρ → χ → Prop) (good : σ → ρ → Prop)
    (f : α → Attempt σ ρ ε β) (result : Except ε β → σ → Prop) : Except ε α → σ → Prop
  | .ok a, s => Program.Sat act ok good (f a) s result
  | .error e, s => result (.error e) s

theorem sat_bind_result {p : Attempt σ ρ ε α} {f : α → Attempt σ ρ ε β} :
    Program.Sat act ok good (p >>= f : Attempt σ ρ ε β) s result ↔
      Program.Sat act ok good p s (Continues act ok good f result) := by
  refine Program.sat_bind_iff.trans ⟨fun h => h.mono ?_, fun h => h.mono ?_⟩
  · rintro (e | a) s' hr
    · exact hr
    · exact hr
  · rintro (e | a) s' hr
    · exact hr
    · exact hr

theorem sat_require_result {c : Bool} {e : ε} {f : Unit → Attempt σ ρ ε β}
    (he : c = false → result (.error e) s) :
    Program.Sat act ok good (require c e >>= f : Attempt σ ρ ε β) s result ↔
      (c = true → Program.Sat act ok good (f ()) s result) := by
  cases c with
  | false => exact ⟨fun _ hc => (by cases hc), fun _ => he rfl⟩
  | true => exact ⟨fun h _ => h, fun h => h rfl⟩

theorem sat_okOr_result {o : Option α} {e : ε} {f : α → Attempt σ ρ ε β}
    (he : o = none → result (.error e) s) :
    Program.Sat act ok good (okOr o e >>= f : Attempt σ ρ ε β) s result ↔
      ∀ a, o = some a → Program.Sat act ok good (f a) s result := by
  cases o with
  | none => exact ⟨fun _ a ha => (by cases ha), fun _ => he rfl⟩
  | some a => exact ⟨fun h b hb => (by cases hb; exact h), fun h => h a rfl⟩

theorem sat_check_result {r : Except ε α} {f : α → Attempt σ ρ ε β}
    (he : ∀ e, r = .error e → result (.error e) s) :
    Program.Sat act ok good (check r >>= f : Attempt σ ρ ε β) s result ↔
      ∀ a, r = .ok a → Program.Sat act ok good (f a) s result := by
  cases r with
  | error e => exact ⟨fun _ a ha => (by cases ha), fun _ => he e rfl⟩
  | ok a => exact ⟨fun h b hb => (by cases hb; exact h), fun h => h a rfl⟩

theorem sat_require_of_true {c : Bool} {e : ε} {f : Unit → Attempt σ ρ ε β} (hc : c = true) :
    Program.Sat act ok good (require c e >>= f : Attempt σ ρ ε β) s result ↔
      Program.Sat act ok good (f ()) s result := by
  rw [hc]
  exact Iff.rfl

theorem sat_okOr_of_some {o : Option α} {a : α} {e : ε} {f : α → Attempt σ ρ ε β}
    (ho : o = some a) :
    Program.Sat act ok good (okOr o e >>= f : Attempt σ ρ ε β) s result ↔
      Program.Sat act ok good (f a) s result := by
  rw [ho]
  exact Iff.rfl

theorem sat_mapErr_result {p : Attempt σ ρ ε' α} {g : ε' → ε} {result : Except ε α → σ → Prop} :
    Program.Sat act ok good (p.mapErr g) s result ↔
      Program.Sat act ok good p s fun r s' => result (r.mapError g) s' := by
  refine Program.sat_bind_iff.trans ⟨fun h => h.mono ?_, fun h => h.mono ?_⟩
  · rintro (e | a) s' hr
    · exact hr
    · exact hr
  · rintro (e | a) s' hr
    · exact hr
    · exact hr

end Results

section Ends
variable {s : σ} {inv : σ → Prop}

/-- What holds after success, and what holds after failure. -/
def endsAs (post : α → σ → Prop) (inv : σ → Prop) : Except ε α → σ → Prop
  | .ok a, s => post a s
  | .error _, s => inv s

/-- Success ends as `post` says, and failure keeps `inv`. -/
def Ends (act : σ → ρ → χ → Bool × σ) (ok : σ → ρ → χ → Prop) (good : σ → ρ → Prop)
    (p : Attempt σ ρ ε α) (s : σ) (post : α → σ → Prop) (inv : σ → Prop) : Prop :=
  Program.Sat act ok good p s (endsAs post inv)

theorem Ends.bind {p : Attempt σ ρ ε α} {f : α → Attempt σ ρ ε β} {mid : α → σ → Prop}
    {post : β → σ → Prop} (hp : p.Ends act ok good s mid inv)
    (hf : ∀ a s', mid a s' → (f a).Ends act ok good s' post inv) :
    (p >>= f).Ends act ok good s post inv := by
  refine Program.Sat.bind hp fun r s' hr => ?_
  cases r with
  | ok a => exact hf a s' hr
  | error e => exact hr

theorem Ends.require_bind {c : Bool} {e : ε} {f : Unit → Attempt σ ρ ε β} {post : β → σ → Prop}
    (hs : inv s) (hf : c = true → (f ()).Ends act ok good s post inv) :
    (require c e >>= f).Ends act ok good s post inv := by
  cases c with
  | false => exact hs
  | true => exact hf rfl

theorem Ends.okOr_bind {o : Option α} {e : ε} {f : α → Attempt σ ρ ε β} {post : β → σ → Prop}
    (hs : inv s) (hf : ∀ a, o = some a → (f a).Ends act ok good s post inv) :
    (okOr o e >>= f).Ends act ok good s post inv := by
  cases o with
  | none => exact hs
  | some a => exact hf a rfl

/-- Good requests that keep `inv` keep it whether the program succeeds or not. -/
theorem Sat.ends {ok' : σ → ρ → χ → Prop} {good' : σ → ρ → Prop} {p : Attempt σ ρ ε α}
    {post : α → σ → Prop} (h : p.Sat act ok good s post) (hs : inv s)
    (hok : ∀ s request x, ok' s request x → ok s request x)
    (hgood : ∀ s request, inv s → good s request → good' s request)
    (hinv : ∀ s request x, inv s → good s request → ok' s request x → inv (act s request x).2) :
    p.Ends act ok' good' s (fun a s' => post a s' ∧ inv s') inv := by
  refine Program.Sat.mono (Program.Sat.strengthen h inv hs hok hgood hinv) fun r s' hr => ?_
  cases r with
  | ok a => exact hr
  | error e => exact hr.2

end Ends

/-- Under the answer `x` to every request the program succeeds, and ends as `post` says. -/
def Attains (act : σ → ρ → χ → Bool × σ) (x : χ) (p : Attempt σ ρ ε α) (s : σ)
    (post : α → σ → Prop) : Prop :=
  ∃ a s', Program.run act (fun _ => x) p s 0 = (.ok a, s') ∧ post a s'

section Attains
variable {x : χ} {s : σ}

theorem attains_pure {a : α} {post : α → σ → Prop} (h : post a s) :
    (pure a : Attempt σ ρ ε α).Attains act x s post := ⟨a, s, rfl, h⟩

theorem Attains.mono {p : Attempt σ ρ ε α} {post post' : α → σ → Prop}
    (h : p.Attains act x s post) (hpost : ∀ a s', post a s' → post' a s') :
    p.Attains act x s post' := by
  obtain ⟨a, s', hrun, ha⟩ := h
  exact ⟨a, s', hrun, hpost a s' ha⟩

theorem Attains.bind {p : Attempt σ ρ ε α} {f : α → Attempt σ ρ ε β} {mid : α → σ → Prop}
    {post : β → σ → Prop} (hp : p.Attains act x s mid)
    (hf : ∀ a s', mid a s' → (f a).Attains act x s' post) :
    (p >>= f).Attains act x s post := by
  obtain ⟨a, s', hrun, ha⟩ := hp
  obtain ⟨b, s'', hnext, hb⟩ := hf a s' ha
  refine ⟨b, s'', ?_, hb⟩
  refine (Program.run_const_bind x _ _ s 0).trans ?_
  rw [hrun]
  exact hnext

theorem Attains.require_bind {c : Bool} {e : ε} {f : Unit → Attempt σ ρ ε β} {post : β → σ → Prop}
    (hc : c = true) (hf : (f ()).Attains act x s post) :
    (require c e >>= f).Attains act x s post := by
  subst hc
  exact hf

theorem Attains.okOr_bind {o : Option α} {e : ε} {f : α → Attempt σ ρ ε β} {a : α}
    {post : β → σ → Prop} (ho : o = some a) (hf : (f a).Attains act x s post) :
    (okOr o e >>= f).Attains act x s post := by
  subst ho
  exact hf

theorem Attains.check_bind {r : Except ε α} {f : α → Attempt σ ρ ε β} {a : α} {post : β → σ → Prop}
    (hr : r = .ok a) (hf : (f a).Attains act x s post) : (check r >>= f).Attains act x s post := by
  subst hr
  exact hf

theorem attains_perform {request : ρ} {e : ε} {post : Unit → σ → Prop}
    (h : (act s request x).1 = true) (hpost : post () (act s request x).2) :
    (perform request e : Attempt σ ρ ε Unit).Attains act x s post := by
  refine ⟨(), (act s request x).2, ?_, hpost⟩
  show Program.run act (fun _ => x) (.ask request _) s 0 = _
  unfold Program.run
  rw [h]
  rfl

end Attains

end Attempt

end Niralis
