import Niralis.CallLogs

namespace Niralis.Calls
variable {Q : Type} {A : Q → Type} {ε ε' α β : Type}

/-- The answer to a call, a refusal as the program's own error. -/
def orFail (f : ε' → ε) : Except ε' α → Calls Q A ε α
  | .ok a => pure a
  | .error e => fail (f e)

def require (e : ε) : Option α → Calls Q A ε α
  | some a => pure a
  | none => fail e

def ensure (e : ε) (holds : Bool) : Calls Q A ε Unit :=
  if holds then pure () else fail e

/-- After `log`, whatever the host answers: the calls made are allowed and quiet, and where the program
succeeds, `good` holds of its result and of the calls added. -/
def Adds (P : List (Sigma A) → Sigma A → Prop) (quiet : Sigma A → Prop) (p : Calls Q A ε α)
    (log : List (Sigma A)) (good : α → List (Sigma A) → Prop) : Prop :=
  p.Sat P log fun r log' =>
    ∃ more, log' = log ++ more ∧ (∀ x ∈ more, quiet x) ∧ ∀ a, r = .ok a → good a more

section Rules
variable {P : List (Sigma A) → Sigma A → Prop} {quiet : Sigma A → Prop} {log : List (Sigma A)}

theorem Sat.ensure_bind {e : ε} {holds : Bool} {g : Unit → Calls Q A ε β}
    {post : Except ε β → List (Sigma A) → Prop} (h : holds = true → (g ()).Sat P log post)
    (herror : post (.error e) log) : (ensure e holds >>= g).Sat P log post := by
  cases holds with
  | true => exact h rfl
  | false => exact herror

theorem Sat.require_bind {e : ε} {r : Option α} {g : α → Calls Q A ε β}
    {post : Except ε β → List (Sigma A) → Prop} (h : ∀ a, r = some a → (g a).Sat P log post)
    (herror : post (.error e) log) : (require e r >>= g).Sat P log post := by
  cases r with
  | some a => exact h a rfl
  | none => exact herror

theorem adds_pure {a : α} {good : α → List (Sigma A) → Prop} (h : good a []) :
    (pure a : Calls Q A ε α).Adds P quiet log good := by
  refine ⟨[], (List.append_nil log).symm, List.forall_mem_nil _, ?_⟩
  intro b hb
  cases hb
  exact h

theorem adds_fail {e : ε} {good : α → List (Sigma A) → Prop} :
    (fail e : Calls Q A ε α).Adds P quiet log good := by
  refine ⟨[], (List.append_nil log).symm, List.forall_mem_nil _, ?_⟩
  intro b hb
  cases hb

theorem Adds.mono {p : Calls Q A ε α} {good good' : α → List (Sigma A) → Prop}
    (h : p.Adds P quiet log good) (hgood : ∀ a more, good a more → good' a more) :
    p.Adds P quiet log good' := by
  apply Sat.mono h
  rintro r _ ⟨more, rfl, hmore, hr⟩
  exact ⟨more, rfl, hmore, fun a ha => hgood a more (hr a ha)⟩

theorem Adds.bind {p : Calls Q A ε α} {f : α → Calls Q A ε β} {mid : α → List (Sigma A) → Prop}
    {good : β → List (Sigma A) → Prop} (hp : p.Adds P quiet log mid)
    (hf : ∀ a more, (∀ x ∈ more, quiet x) → mid a more →
      (f a).Adds P quiet (log ++ more) fun b rest => good b (more ++ rest)) :
    (p >>= f).Adds P quiet log good := by
  refine Sat.bind hp ?_ ?_
  · rintro a _ ⟨more, rfl, hmore, ha⟩
    apply Sat.mono (hf a more hmore (ha a rfl))
    rintro r _ ⟨rest, rfl, hrest, hr⟩
    exact ⟨more ++ rest, List.append_assoc _ _ _, List.forall_mem_append.mpr ⟨hmore, hrest⟩, hr⟩
  · rintro e _ ⟨more, rfl, hmore, -⟩
    exact ⟨more, rfl, hmore, by simp⟩

theorem adds_ask {q : Q} {f : A q → Calls Q A ε β} {good : β → List (Sigma A) → Prop}
    (hq : ∀ x, P log ⟨q, x⟩ ∧ quiet ⟨q, x⟩)
    (hf : ∀ x, (f x).Adds P quiet (log ++ [⟨q, x⟩]) fun b rest => good b (⟨q, x⟩ :: rest)) :
    (ask q >>= f).Adds P quiet log good := by
  intro x
  refine ⟨(hq x).1, Sat.mono (hf x) ?_⟩
  rintro r _ ⟨rest, rfl, hrest, hr⟩
  refine ⟨⟨q, x⟩ :: rest, by rw [List.append_assoc, List.singleton_append], ?_, hr⟩
  exact List.forall_mem_cons.mpr ⟨(hq x).2, hrest⟩

theorem adds_orFail {f : ε' → ε} {r : Except ε' α} {good : α → List (Sigma A) → Prop}
    (h : ∀ a, r = .ok a → good a []) : (orFail f r : Calls Q A ε α).Adds P quiet log good := by
  cases r with
  | ok a => exact adds_pure (h a rfl)
  | error e => exact adds_fail

theorem adds_orFail_bind {f : ε' → ε} {r : Except ε' α} {g : α → Calls Q A ε β}
    {good : β → List (Sigma A) → Prop} (h : ∀ a, r = .ok a → (g a).Adds P quiet log good) :
    (orFail f r >>= g).Adds P quiet log good := by
  cases r with
  | ok a => exact h a rfl
  | error e => exact adds_fail

theorem adds_require_bind {e : ε} {r : Option α} {g : α → Calls Q A ε β}
    {good : β → List (Sigma A) → Prop} (h : ∀ a, r = some a → (g a).Adds P quiet log good) :
    (require e r >>= g).Adds P quiet log good := by
  cases r with
  | some a => exact h a rfl
  | none => exact adds_fail

theorem adds_ensure {e : ε} {holds : Bool} {good : Unit → List (Sigma A) → Prop}
    (h : holds = true → good () []) :
    (ensure e holds : Calls Q A ε Unit).Adds P quiet log good := by
  cases holds with
  | true => exact adds_pure (h rfl)
  | false => exact adds_fail

theorem adds_ensure_bind {e : ε} {holds : Bool} {g : Unit → Calls Q A ε β}
    {good : β → List (Sigma A) → Prop} (h : holds = true → (g ()).Adds P quiet log good) :
    (ensure e holds >>= g).Adds P quiet log good := by
  cases holds with
  | true => exact h rfl
  | false => exact adds_fail

theorem Adds.handle_orFail {p : Calls Q A ε α} {f : ε → ε'} {good : α → List (Sigma A) → Prop}
    (hp : p.Adds P quiet log good) : (p.handle (orFail f)).Adds P quiet log good := by
  refine sat_handle.mpr (Sat.mono hp ?_)
  rintro r _ ⟨more, rfl, hmore, hr⟩
  cases r with
  | ok a =>
    refine ⟨more, rfl, hmore, fun b hb => ?_⟩
    cases hb
    exact hr a rfl
  | error e => exact ⟨more, rfl, hmore, by simp⟩

end Rules

end Niralis.Calls
