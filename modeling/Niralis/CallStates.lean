import Niralis.CallSteps

namespace Niralis.Calls
variable {Q : Type} {A : Q → Type} {ε ε' α β σ : Type}

/-- The calls that a state allows, and the state that a call and its answer lead to. -/
structure Discipline (A : Q → Type) (σ : Type) where
  allows : σ → Q → Prop
  after : σ → Sigma A → σ

namespace Discipline

def state (d : Discipline A σ) (s : σ) (log : List (Sigma A)) : σ := log.foldl d.after s

def Obeyed (d : Discipline A σ) (s : σ) : List (Sigma A) → Prop :=
  Throughout fun before x => d.allows (d.state s before) x.1

theorem state_concat (d : Discipline A σ) (s : σ) (log : List (Sigma A)) (x : Sigma A) :
    d.state s (log ++ [x]) = d.after (d.state s log) x := by
  rw [state, List.foldl_concat, state]

end Discipline

/-- From the state `s` on, whatever the host answers: every call made is allowed at its place, and the
end satisfies `post`. -/
def Follows (d : Discipline A σ) : Calls Q A ε α → σ → (Except ε α → σ → Prop) → Prop
  | done result, s, post => post result s
  | call q next, s, post => d.allows s q ∧ ∀ x, (next x).Follows d (d.after s ⟨q, x⟩) post

section Rules
variable {d : Discipline A σ} {s : σ}

theorem follows_pure {a : α} {post : Except ε α → σ → Prop} (h : post (.ok a) s) :
    (pure a : Calls Q A ε α).Follows d s post := h

theorem follows_fail {e : ε} {post : Except ε α → σ → Prop} (h : post (.error e) s) :
    (fail e : Calls Q A ε α).Follows d s post := h

theorem follows_ask {q : Q} {f : A q → Calls Q A ε β} {post : Except ε β → σ → Prop}
    (hq : d.allows s q) (hf : ∀ x, (f x).Follows d (d.after s ⟨q, x⟩) post) :
    (ask q >>= f).Follows d s post := ⟨hq, hf⟩

theorem Follows.mono {p : Calls Q A ε α} {post post' : Except ε α → σ → Prop}
    (h : p.Follows d s post) (hpost : ∀ r s', post r s' → post' r s') : p.Follows d s post' := by
  induction p generalizing s with
  | done result => exact hpost _ _ h
  | call q next ih => exact ⟨h.1, fun x => ih x (h.2 x)⟩

/-- A sequence follows the discipline where its second part does after the first. -/
theorem Follows.bind {p : Calls Q A ε α} {f : α → Calls Q A ε β} {mid : Except ε α → σ → Prop}
    {post : Except ε β → σ → Prop} (hp : p.Follows d s mid)
    (hok : ∀ a s', mid (.ok a) s' → (f a).Follows d s' post)
    (herror : ∀ e s', mid (.error e) s' → post (.error e) s') : (p >>= f).Follows d s post := by
  induction p generalizing s with
  | done result =>
    cases result with
    | ok a => exact hok a s hp
    | error e => exact herror e s hp
  | call q next ih => exact ⟨hp.1, fun x => ih x (hp.2 x)⟩

theorem Follows.ensure_bind {e : ε} {holds : Bool} {g : Unit → Calls Q A ε β}
    {post : Except ε β → σ → Prop} (h : holds = true → (g ()).Follows d s post)
    (herror : post (.error e) s) : (ensure e holds >>= g).Follows d s post := by
  cases holds with
  | true => exact h rfl
  | false => exact herror

theorem Follows.require_bind {e : ε} {r : Option α} {g : α → Calls Q A ε β}
    {post : Except ε β → σ → Prop} (h : ∀ a, r = some a → (g a).Follows d s post)
    (herror : post (.error e) s) : (require e r >>= g).Follows d s post := by
  cases r with
  | some a => exact h a rfl
  | none => exact herror

theorem Follows.handle {p : Calls Q A ε α} {f : Except ε α → Calls Q A ε' β}
    {mid : Except ε α → σ → Prop} {post : Except ε' β → σ → Prop} (hp : p.Follows d s mid)
    (hf : ∀ r s', mid r s' → (f r).Follows d s' post) : (p.handle f).Follows d s post := by
  induction p generalizing s with
  | done result => exact hf _ _ hp
  | call q next ih => exact ⟨hp.1, fun x => ih x (hp.2 x)⟩

theorem Follows.sat {s₀ : σ} {log : List (Sigma A)} {p : Calls Q A ε α}
    {post : Except ε α → σ → Prop} (h : p.Follows d (d.state s₀ log) post) :
    p.Sat (fun before x => d.allows (d.state s₀ before) x.1) log
      fun r log' => post r (d.state s₀ log') := by
  induction p generalizing log with
  | done result => exact h
  | call q next ih =>
    intro x
    refine ⟨h.1, ih x ?_⟩
    rw [d.state_concat]
    exact h.2 x

theorem Follows.run {p : Calls Q A ε α} {post : Except ε α → σ → Prop} (h : p.Follows d s post)
    (host : Host A) :
    d.Obeyed s (p.run host []).2 ∧ post (p.run host []).1 (d.state s (p.run host []).2) := by
  have hstart : p.Follows d (d.state s []) post := h
  exact hstart.sat.run host

end Rules

end Niralis.Calls
