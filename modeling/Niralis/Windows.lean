import Mathlib.Data.List.Chain
import Mathlib.Data.List.Pairwise
import Mathlib.Order.Basic
import Mathlib.Tactic.Common

namespace Niralis

def windowsAny {α : Type} (bad : α → α → Bool) : List α → Bool
  | a :: b :: rest => bad a b || windowsAny bad (b :: rest)
  | _ => false

def dedupAdjacent {α : Type} [DecidableEq α] : List α → List α
  | a :: b :: rest =>
    if a = b then dedupAdjacent (b :: rest) else a :: dedupAdjacent (b :: rest)
  | l => l

theorem dedupAdjacent_eq_nil {α : Type} [DecidableEq α] {l : List α} :
    dedupAdjacent l = [] ↔ l = [] := by
  induction l with
  | nil => simp [dedupAdjacent]
  | cons a rest ih =>
    cases rest with
    | nil => simp [dedupAdjacent]
    | cons b rest =>
      unfold dedupAdjacent
      split
      · simp only [ih, reduceCtorEq]
      · simp

theorem windowsAny_eq_false {α : Type} {bad : α → α → Bool} {l : List α} :
    windowsAny bad l = false ↔ l.IsChain fun a b => bad a b = false := by
  induction l with
  | nil => simp [windowsAny]
  | cons a rest ih =>
    cases rest with
    | nil => simp [windowsAny]
    | cons b rest => simp [windowsAny, ih, List.isChain_cons_cons]

/-- No adjacent pair falls and no value occurs twice: the list rises strictly. -/
theorem rises_iff {l : List Nat} :
    windowsAny (fun a b => decide (b < a)) l = false ∧
      windowsAny (fun a b => decide (a = b)) (l.mergeSort fun a b => decide (a ≤ b)) = false ↔
      l.Pairwise (· < ·) := by
  have hle : windowsAny (fun a b => decide (b < a)) l = false ↔
      l.Pairwise fun a b => decide (a ≤ b) = true := by
    rw [windowsAny_eq_false]
    simp only [decide_eq_false_iff_not, not_lt, decide_eq_true_eq]
    exact List.isChain_iff_pairwise
  rw [hle]
  constructor
  · rintro ⟨hs, hd⟩
    rw [List.mergeSort_of_pairwise hs, windowsAny_eq_false] at hd
    rw [← List.isChain_iff_pairwise]
    have hchain : l.IsChain (· ≤ ·) := by
      rw [List.isChain_iff_pairwise]
      simpa using hs
    clear hle hs
    induction l with
    | nil => simp
    | cons a rest ih =>
      cases rest with
      | nil => simp
      | cons b rest =>
        rw [List.isChain_cons_cons] at hd hchain ⊢
        have hab : a ≠ b := by simpa using hd.1
        exact ⟨lt_of_le_of_ne hchain.1 hab, ih hd.2 hchain.2⟩
  · intro h
    have hs : l.Pairwise fun a b => decide (a ≤ b) = true :=
      h.imp fun hab => by simpa using Nat.le_of_lt hab
    refine ⟨hs, ?_⟩
    rw [List.mergeSort_of_pairwise hs, windowsAny_eq_false]
    rw [← List.isChain_iff_pairwise] at h
    exact h.imp fun {a b} hab => by simpa using Nat.ne_of_lt hab

theorem foldl_max_le_iff (l : List Nat) (n m : Nat) :
    l.foldl max n ≤ m ↔ n ≤ m ∧ ∀ x ∈ l, x ≤ m := by
  induction l generalizing n with
  | nil => simp
  | cons a l ih => rw [List.foldl_cons, ih, Nat.max_le, List.forall_mem_cons, and_assoc]

end Niralis
