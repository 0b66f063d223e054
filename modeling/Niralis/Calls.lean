import Mathlib.Data.List.Basic
import Mathlib.Tactic.Common

namespace Niralis

/-- A computation is finished, or makes the call `q` and goes on with its answer. The host may answer
anything, and the same call differently the next time. -/
inductive Calls (Q : Type) (A : Q → Type) (ε α : Type)
  | done (result : Except ε α)
  | call (q : Q) (next : A q → Calls Q A ε α)

namespace Calls
variable {Q : Type} {A : Q → Type} {ε α β : Type}

def bind : Calls Q A ε α → (α → Calls Q A ε β) → Calls Q A ε β
  | done (.ok a), f => f a
  | done (.error e), _ => done (.error e)
  | call q next, f => call q fun x => (next x).bind f

instance : Monad (Calls Q A ε) where
  pure a := done (.ok a)
  bind := bind

def ask (q : Q) : Calls Q A ε (A q) := call q fun x => done (.ok x)

def fail (e : ε) : Calls Q A ε α := done (.error e)

abbrev Host (A : Q → Type) := List (Sigma A) → (q : Q) → A q

/-- The result, and the log continued by the calls made. -/
def run (host : Host A) : Calls Q A ε α → List (Sigma A) → Except ε α × List (Sigma A)
  | done result, log => (result, log)
  | call q next, log => (next (host log q)).run host (log ++ [⟨q, host log q⟩])

def Yields : Calls Q A ε α → List (Sigma A) → Except ε α → Prop
  | done r, log, result => log = [] ∧ result = r
  | call q next, log, result => ∃ x rest, log = ⟨q, x⟩ :: rest ∧ (next x).Yields rest result

theorem run_yields (host : Host A) (p : Calls Q A ε α) (log : List (Sigma A)) :
    ∃ calls, (p.run host log).2 = log ++ calls ∧ p.Yields calls (p.run host log).1 := by
  induction p generalizing log with
  | done result => exact ⟨[], by simp [run], rfl, rfl⟩
  | call q next ih =>
    obtain ⟨calls, hlog, hyields⟩ := ih (host log q) (log ++ [⟨q, host log q⟩])
    refine ⟨⟨q, host log q⟩ :: calls, ?_, _, calls, rfl, hyields⟩
    rw [run, hlog, List.append_assoc, List.singleton_append]

/-- The second part of a sequence goes on with the log of the first. -/
theorem run_bind_ok {host : Host A} {p : Calls Q A ε α} {f : α → Calls Q A ε β} {a : α}
    {log log' : List (Sigma A)} (h : p.run host log = (.ok a, log')) :
    (p >>= f).run host log = (f a).run host log' := by
  induction p generalizing log with
  | done result =>
    cases h
    rfl
  | call q next ih => exact ih _ h

theorem yields_of_run {host : Host A} {p : Calls Q A ε α} {result : Except ε α}
    {log : List (Sigma A)} (h : p.run host [] = (result, log)) : p.Yields log result := by
  obtain ⟨calls, hlog, hyields⟩ := run_yields host p []
  rw [h] at hlog hyields
  change log = [] ++ calls at hlog
  rw [hlog]
  exact hyields

section Rules
variable {log : List (Sigma A)} {result : Except ε α}

theorem yields_bind (p : Calls Q A ε α) (f : α → Calls Q A ε β) {r : Except ε β} :
    (p >>= f).Yields log r ↔
      (∃ before after a, log = before ++ after ∧ p.Yields before (.ok a) ∧ (f a).Yields after r) ∨
        ∃ e, r = .error e ∧ p.Yields log (.error e) := by
  change (p.bind f).Yields log r ↔ _
  induction p generalizing log with
  | done first =>
    cases first with
    | ok a =>
      constructor
      · intro h
        exact Or.inl ⟨[], log, a, rfl, ⟨rfl, rfl⟩, h⟩
      · rintro (⟨before, after, a', rfl, ⟨rfl, ha⟩, h⟩ | ⟨e, rfl, -, he⟩)
        · cases ha
          exact h
        · cases he
    | error e =>
      constructor
      · rintro ⟨rfl, rfl⟩
        exact Or.inr ⟨e, rfl, rfl, rfl⟩
      · rintro (⟨before, after, a', rfl, ⟨-, ha⟩, -⟩ | ⟨e', rfl, rfl, he⟩)
        · cases ha
        · cases he
          exact ⟨rfl, rfl⟩
  | call q next ih =>
    constructor
    · rintro ⟨x, rest, rfl, h⟩
      rcases (ih x).mp h with ⟨before, after, a, rfl, hp, hf⟩ | ⟨e, rfl, hp⟩
      · exact Or.inl ⟨⟨q, x⟩ :: before, after, a, rfl, ⟨x, before, rfl, hp⟩, hf⟩
      · exact Or.inr ⟨e, rfl, x, rest, rfl, hp⟩
    · rintro (⟨before, after, a, rfl, ⟨x, rest, rfl, hp⟩, hf⟩ | ⟨e, rfl, x, rest, rfl, hp⟩)
      · exact ⟨x, rest ++ after, rfl, (ih x).mpr (Or.inl ⟨rest, after, a, rfl, hp, hf⟩)⟩
      · exact ⟨x, rest, rfl, (ih x).mpr (Or.inr ⟨e, rfl, hp⟩)⟩

theorem yields_bind_ok (p : Calls Q A ε α) (f : α → Calls Q A ε β) {b : β} :
    (p >>= f).Yields log (.ok b) ↔
      ∃ before after a, log = before ++ after ∧ p.Yields before (.ok a) ∧
        (f a).Yields after (.ok b) := by
  simp [yields_bind]

@[simp] theorem yields_ask_bind (q : Q) (f : A q → Calls Q A ε β) {r : Except ε β} :
    (ask q >>= f).Yields log r ↔ ∃ x rest, log = ⟨q, x⟩ :: rest ∧ (f x).Yields rest r := Iff.rfl

end Rules

def Throughout (P : List (Sigma A) → Sigma A → Prop) (log : List (Sigma A)) : Prop :=
  ∀ before x after, log = before ++ x :: after → P before x

section Throughout
variable {P : List (Sigma A) → Sigma A → Prop} {log more : List (Sigma A)} {x : Sigma A}

theorem throughout_nil : Throughout P [] := by
  intro before x after h
  cases before <;> cases h

theorem Throughout.append (hlog : Throughout P log)
    (hmore : Throughout (fun before x => P (log ++ before) x) more) : Throughout P (log ++ more) := by
  intro before x after h
  rcases List.append_eq_append_iff.mp h with ⟨mid, rfl, hmid⟩ | ⟨mid, hmid, htail⟩
  · exact hmore mid x after hmid
  · cases mid with
    | nil =>
      rw [List.append_nil] at hmid
      subst hmid
      have hfirst : P (log ++ []) x := hmore [] x after htail.symm
      rwa [List.append_nil] at hfirst
    | cons y mid =>
      rw [List.cons_append] at htail
      obtain ⟨rfl, rfl⟩ := List.cons.inj htail
      exact hlog before x mid hmid

theorem Throughout.imp {R : List (Sigma A) → Sigma A → Prop} (hlog : Throughout P log)
    (h : ∀ before x, P before x → R before x) : Throughout R log :=
  fun before x after hsplit => h before x (hlog before x after hsplit)

theorem throughout_cons :
    Throughout P (x :: log) ↔ P [] x ∧ Throughout (fun before y => P (x :: before) y) log := by
  constructor
  · intro h
    exact ⟨h [] x log rfl, fun before y after hsplit =>
      h (x :: before) y after (by rw [hsplit, List.cons_append])⟩
  · rintro ⟨hx, hlog⟩ before y after h
    cases before with
    | nil =>
      obtain ⟨rfl, rfl⟩ := List.cons.inj h
      exact hx
    | cons z before =>
      obtain ⟨rfl, hsplit⟩ := List.cons.inj h
      exact hlog before y after hsplit

end Throughout

end Calls

end Niralis
