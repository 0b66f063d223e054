import Niralis.Calls

namespace Niralis.Calls
variable {Q : Type} {A : Q → Type} {ε ε' α β σ : Type}

/-- After the calls of `log`, whatever the host answers: every call made is one that `P` allows at its
place, and the end satisfies `post`. -/
def Sat (P : List (Sigma A) → Sigma A → Prop) :
    Calls Q A ε α → List (Sigma A) → (Except ε α → List (Sigma A) → Prop) → Prop
  | done result, log, post => post result log
  | call q next, log, post => ∀ x, P log ⟨q, x⟩ ∧ (next x).Sat P (log ++ [⟨q, x⟩]) post

/-- The program with all its ends, the early ones as well, followed by another one. -/
def handle : Calls Q A ε α → (Except ε α → Calls Q A ε' β) → Calls Q A ε' β
  | done result, f => f result
  | call q next, f => call q fun x => (next x).handle f

/-- Some turns of a loop. It is left early by failing. -/
def iterate (body : σ → Calls Q A ε σ) : Nat → σ → Calls Q A ε σ
  | 0, s => pure s
  | n + 1, s => body s >>= iterate body n

/-- The computation on a larger host, among whose calls are its own. -/
def embed {Q' : Type} {A' : Q' → Type} (inj : Q → Q') (answer : ∀ q, A' (inj q) → A q) :
    Calls Q A ε α → Calls Q' A' ε α
  | done result => done result
  | call q next => call (inj q) fun x => (next (answer q x)).embed inj answer

@[simp] theorem pure_bind (a : α) (f : α → Calls Q A ε β) :
    ((pure a : Calls Q A ε α) >>= f) = f a := rfl

section Rules
variable {P : List (Sigma A) → Sigma A → Prop} {log : List (Sigma A)}

@[simp] theorem sat_pure (a : α) {post : Except ε α → List (Sigma A) → Prop} :
    (pure a : Calls Q A ε α).Sat P log post ↔ post (.ok a) log := Iff.rfl

@[simp] theorem sat_fail (e : ε) {post : Except ε α → List (Sigma A) → Prop} :
    (fail e : Calls Q A ε α).Sat P log post ↔ post (.error e) log := Iff.rfl

@[simp] theorem sat_ask_bind (q : Q) (f : A q → Calls Q A ε β)
    {post : Except ε β → List (Sigma A) → Prop} :
    (ask q >>= f).Sat P log post ↔
      ∀ x, P log ⟨q, x⟩ ∧ (f x).Sat P (log ++ [⟨q, x⟩]) post := Iff.rfl

theorem Sat.mono {p : Calls Q A ε α} {post post' : Except ε α → List (Sigma A) → Prop}
    (h : p.Sat P log post) (hpost : ∀ r log', post r log' → post' r log') : p.Sat P log post' := by
  induction p generalizing log with
  | done result => exact hpost _ _ h
  | call q next ih => exact fun x => ⟨(h x).1, ih x (h x).2⟩

theorem Sat.imp {R : List (Sigma A) → Sigma A → Prop} {p : Calls Q A ε α}
    {post : Except ε α → List (Sigma A) → Prop} (h : p.Sat P log post)
    (hcall : ∀ before x, P before x → R before x) : p.Sat R log post := by
  induction p generalizing log with
  | done result => exact h
  | call q next ih => exact fun x => ⟨hcall _ _ (h x).1, ih x (h x).2⟩

theorem sat_handle {p : Calls Q A ε α} {f : Except ε α → Calls Q A ε' β}
    {post : Except ε' β → List (Sigma A) → Prop} :
    (p.handle f).Sat P log post ↔ p.Sat P log fun r log' => (f r).Sat P log' post := by
  induction p generalizing log with
  | done result => rfl
  | call q next ih =>
    constructor
    · intro h x
      exact ⟨(h x).1, (ih x).mp (h x).2⟩
    · intro h x
      exact ⟨(h x).1, (ih x).mpr (h x).2⟩

/-- A sequence satisfies what its second part does after the first, where the first gets that far. -/
theorem Sat.bind {p : Calls Q A ε α} {f : α → Calls Q A ε β}
    {mid : Except ε α → List (Sigma A) → Prop} {post : Except ε β → List (Sigma A) → Prop}
    (hp : p.Sat P log mid) (hok : ∀ a log', mid (.ok a) log' → (f a).Sat P log' post)
    (herror : ∀ e log', mid (.error e) log' → post (.error e) log') :
    (p >>= f).Sat P log post := by
  induction p generalizing log with
  | done result =>
    cases result with
    | ok a => exact hok a log hp
    | error e => exact herror e log hp
  | call q next ih => exact fun x => ⟨(hp x).1, ih x (hp x).2⟩

/-- What every turn of a loop keeps holds after any number of them. -/
theorem Sat.iterate {body : σ → Calls Q A ε σ} {inv : Except ε σ → List (Sigma A) → Prop}
    (hbody : ∀ s log, inv (.ok s) log → (body s).Sat P log inv) (n : Nat) {s : σ}
    (hs : inv (.ok s) log) : (iterate body n s).Sat P log inv := by
  induction n generalizing s log with
  | zero => exact hs
  | succ n ih => exact (hbody s log hs).bind (fun s' _ hs' => ih hs') fun _ _ he => he

/-- What all the calls of a computation keep on the larger host. -/
theorem sat_embed {Q' : Type} {A' : Q' → Type} {inj : Q → Q'} {answer : ∀ q, A' (inj q) → A q}
    {P : List (Sigma A') → Sigma A' → Prop} {inv : List (Sigma A') → Prop} {log : List (Sigma A')}
    (hcall : ∀ log q x, inv log → P log ⟨inj q, x⟩ ∧ inv (log ++ [⟨inj q, x⟩])) (hlog : inv log)
    (p : Calls Q A ε α) : (p.embed inj answer).Sat P log fun _ log' => inv log' := by
  induction p generalizing log with
  | done result => exact hlog
  | call q next ih =>
    intro x
    obtain ⟨hx, hnext⟩ := hcall log q x hlog
    exact ⟨hx, ih _ hnext⟩

theorem throughout_concat {x : Sigma A} (hlog : Throughout P log) (hx : P log x) :
    Throughout P (log ++ [x]) :=
  hlog.append (throughout_cons.mpr ⟨by rwa [List.append_nil], throughout_nil⟩)

theorem run_answered (host : Host A) (p : Calls Q A ε α)
    (hlog : Throughout (fun before x => x = ⟨x.1, host before x.1⟩) log) :
    Throughout (fun before x => x = ⟨x.1, host before x.1⟩) (p.run host log).2 := by
  induction p generalizing log with
  | done result => exact hlog
  | call q next ih => exact ih _ (throughout_concat hlog rfl)

theorem Sat.run_from {p : Calls Q A ε α} {post : Except ε α → List (Sigma A) → Prop}
    (h : p.Sat P log post) (hlog : Throughout P log) (host : Host A) :
    Throughout P (p.run host log).2 ∧ post (p.run host log).1 (p.run host log).2 := by
  induction p generalizing log with
  | done result => exact ⟨hlog, h⟩
  | call q next ih =>
    obtain ⟨hcall, hnext⟩ := h (host log q)
    exact ih _ hnext (throughout_concat hlog hcall)

theorem Sat.run {p : Calls Q A ε α} {post : Except ε α → List (Sigma A) → Prop}
    (h : p.Sat P [] post) (host : Host A) :
    Throughout P (p.run host []).2 ∧ post (p.run host []).1 (p.run host []).2 :=
  h.run_from throughout_nil host

end Rules

end Niralis.Calls
