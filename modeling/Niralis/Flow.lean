import Mathlib.Tactic.Common

namespace Niralis

inductive Flow (ρ σ α : Type)
  | value (a : α)
  | restart (s : σ)
  | done (r : ρ)

namespace Flow
variable {ρ σ α β : Type}

def bind (x : Flow ρ σ α) (f : α → Flow ρ σ β) : Flow ρ σ β :=
  match x with
  | value a => f a
  | restart s => restart s
  | done r => done r

structure Post (ρ σ α : Type) where
  value : α → Prop
  restart : σ → Prop
  done : ρ → Prop

def Sat (x : Flow ρ σ α) (q : Post ρ σ α) : Prop :=
  match x with
  | value a => q.value a
  | restart s => q.restart s
  | done r => q.done r

theorem Sat.bind {x : Flow ρ σ α} {f : α → Flow ρ σ β} {mid : α → Prop} {q : Post ρ σ β}
    (hx : x.Sat ⟨mid, q.restart, q.done⟩) (hf : ∀ a, mid a → (f a).Sat q) : (x.bind f).Sat q := by
  cases x with
  | value a => exact hf a hx
  | restart s => exact hx
  | done r => exact hx

theorem Sat.mono {x : Flow ρ σ α} {q q' : Post ρ σ α} (hx : x.Sat q)
    (hv : ∀ a, q.value a → q'.value a) (hr : ∀ s, q.restart s → q'.restart s)
    (hd : ∀ r, q.done r → q'.done r) : x.Sat q' := by
  cases x with
  | value a => exact hv a hx
  | restart s => exact hr s hx
  | done r => exact hd r hx

theorem Sat.ne_restart {x : Flow ρ σ α} {v : α → Prop} {d : ρ → Prop}
    (hx : x.Sat ⟨v, fun _ => False, d⟩) (s : σ) : x ≠ .restart s := by
  rintro rfl
  exact hx

/-- A composed step starts the loop over in its first part, or in the rest of it. -/
theorem bind_eq_restart {x : Flow ρ σ α} {f : α → Flow ρ σ β} {s : σ} :
    x.bind f = .restart s ↔ x = .restart s ∨ ∃ a, x = .value a ∧ f a = .restart s := by
  cases x <;> simp [bind]

end Flow

end Niralis
