import Mathlib.Data.List.Basic

namespace Niralis

/-- Every step of the run is taken in a state where `ok` admits it. -/
def StepsMeet {σ α : Type} (step : σ → α → σ) (ok : σ → α → Prop) : σ → List α → Prop
  | _, [] => True
  | s, a :: as => ok s a ∧ StepsMeet step ok (step s a) as

section Runs
variable {σ α : Type} {step : σ → α → σ} {ok : σ → α → Prop}

@[simp] theorem stepsMeet_nil (s : σ) : StepsMeet step ok s [] := trivial

@[simp] theorem stepsMeet_cons (s : σ) (a : α) (as : List α) :
    StepsMeet step ok s (a :: as) ↔ ok s a ∧ StepsMeet step ok (step s a) as := Iff.rfl

theorem stepsMeet_append (s : σ) (as bs : List α) :
    StepsMeet step ok s (as ++ bs) ↔
      StepsMeet step ok s as ∧ StepsMeet step ok (as.foldl step s) bs := by
  induction as generalizing s with
  | nil => simp
  | cons a as ih => simp only [List.cons_append, stepsMeet_cons, ih, List.foldl_cons, and_assoc]

/-- What holds at the start and is kept by every admitted step holds after the run. -/
theorem foldl_invariant (inv : σ → Prop)
    (hstep : ∀ s a, inv s → ok s a → inv (step s a)) :
    ∀ (as : List α) (s : σ), inv s → StepsMeet step ok s as → inv (as.foldl step s)
  | [], _, hs, _ => hs
  | a :: as, s, hs, hm =>
    foldl_invariant inv hstep as (step s a) (hstep s a hs hm.1) hm.2

theorem stepsMeet_take {s : σ} {as : List α} (h : StepsMeet step ok s as) (n : Nat) :
    StepsMeet step ok s (as.take n) := by
  rw [← List.take_append_drop n as, stepsMeet_append] at h
  exact h.1

/-- A run meets its condition when every step does in the state it is taken in. -/
theorem stepsMeet_of_getElem {as : List α} {s : σ}
    (h : ∀ n a, as[n]? = some a → ok ((as.take n).foldl step s) a) : StepsMeet step ok s as := by
  induction as generalizing s with
  | nil => trivial
  | cons a as ih =>
    refine ⟨h 0 a rfl, ih fun n b hb => ?_⟩
    exact h (n + 1) b hb

theorem stepsMeet_getElem {as : List α} {s : σ} (hm : StepsMeet step ok s as) {n : Nat} {a : α}
    (h : as[n]? = some a) : ok ((as.take n).foldl step s) a := by
  obtain ⟨hlt, rfl⟩ := List.getElem?_eq_some_iff.mp h
  rw [← List.take_append_drop n as, stepsMeet_append, List.drop_eq_getElem_cons hlt] at hm
  exact hm.2.1

theorem foldl_take_succ {as : List α} {n : Nat} {a : α} (h : as[n]? = some a) (s : σ) :
    (as.take (n + 1)).foldl step s = step ((as.take n).foldl step s) a := by
  rw [List.take_add_one, h, Option.toList_some, List.foldl_append]
  rfl

theorem exists_step_of_change {P : σ → Prop} {s : σ} {as : List α} (hs : ¬P s)
    (ht : P (as.foldl step s)) : ∃ n a, as[n]? = some a ∧ ¬P ((as.take n).foldl step s) ∧
      P (step ((as.take n).foldl step s) a) := by
  induction as generalizing s with
  | nil => exact absurd ht hs
  | cons a as ih =>
    by_cases ha : P (step s a)
    · exact ⟨0, a, rfl, hs, ha⟩
    · obtain ⟨n, b, hb, hbefore, hafter⟩ := ih ha ht
      exact ⟨n + 1, b, hb, hbefore, hafter⟩

/-- What holds at one point of the run and is kept by every admitted step holds from there on. -/
theorem foldl_take_invariant (inv : σ → Prop) (hstep : ∀ s a, inv s → ok s a → inv (step s a))
    {s : σ} {as : List α} (hm : StepsMeet step ok s as) {i j : Nat} (hij : i ≤ j)
    (h : inv ((as.take i).foldl step s)) : inv ((as.take j).foldl step s) := by
  have hsplit : as.take j = as.take i ++ (as.take j).drop i := by
    conv_lhs => rw [← List.take_append_drop i (as.take j)]
    rw [List.take_take, Nat.min_eq_left hij]
  have hm' := stepsMeet_take hm j
  rw [hsplit, stepsMeet_append] at hm'
  rw [hsplit, List.foldl_append]
  exact foldl_invariant inv hstep _ _ h hm'.2

theorem stepsMeet_of_forall (h : ∀ s a, ok s a) (s : σ) (as : List α) :
    StepsMeet step ok s as := by
  induction as generalizing s with
  | nil => trivial
  | cons a as ih => exact ⟨h s a, ih _⟩

/-- Two conditions that agree wherever an invariant holds, which steps that meet the second keep, are
met by the same runs. -/
theorem stepsMeet_iff_of_invariant {ok' : σ → α → Prop} (inv : σ → Prop)
    (hiff : ∀ s a, inv s → (ok s a ↔ ok' s a)) (hstep : ∀ s a, inv s → ok' s a → inv (step s a))
    {s : σ} (hs : inv s) (as : List α) : StepsMeet step ok s as ↔ StepsMeet step ok' s as := by
  induction as generalizing s with
  | nil => rfl
  | cons a as ih =>
    rw [stepsMeet_cons, stepsMeet_cons, hiff s a hs]
    exact and_congr_right fun ha => ih (hstep s a hs ha)

end Runs
end Niralis
