import Mathlib.Data.List.Destutter
import Mathlib.Data.List.Sort
import Mathlib.Order.Basic

namespace Niralis

section DistinctSorted
variable {α : Type} [LinearOrder α] {l m : List α} {a b : α}

/-- `sort_unstable` and then `dedup`, which drops an element equal to the one before it. -/
def sortDedup (l : List α) : List α := (l.insertionSort (· ≤ ·)).destutter (· ≠ ·)

theorem mem_destutter'_ne : a ∈ l.destutter' (· ≠ ·) b ↔ a = b ∨ a ∈ l := by
  induction l generalizing b with
  | nil => simp
  | cons c l ih =>
    by_cases hbc : b = c
    · subst hbc
      rw [List.destutter'_cons_neg _ (not_not_intro rfl), ih, List.mem_cons]
      tauto
    · rw [List.destutter'_cons_pos _ hbc, List.mem_cons, ih, List.mem_cons]

theorem mem_destutter_ne : a ∈ l.destutter (· ≠ ·) ↔ a ∈ l := by
  cases l with
  | nil => rfl
  | cons b l => rw [List.destutter_cons', mem_destutter'_ne, List.mem_cons]

@[simp] theorem mem_sortDedup : a ∈ sortDedup l ↔ a ∈ l := by
  rw [sortDedup, mem_destutter_ne, List.mem_insertionSort]

theorem sortDedup_pairwise (l : List α) : (sortDedup l).Pairwise (· < ·) := by
  have hle : (sortDedup l).Pairwise (· ≤ ·) :=
    (List.pairwise_insertionSort (· ≤ ·) l).sublist (List.destutter_sublist _ _)
  have hne : (sortDedup l).IsChain (· ≠ ·) := List.isChain_destutter _ _
  have hlt : (sortDedup l).IsChain (· < ·) := by
    have hchain := hle.isChain
    revert hchain hne
    generalize sortDedup l = s
    intro hne hchain
    induction s with
    | nil => exact .nil
    | cons c s ih =>
      cases s with
      | nil => exact .singleton c
      | cons d s =>
        rw [List.isChain_cons_cons] at hne hchain ⊢
        have hpair : (d :: s).Pairwise (· ≤ ·) := List.isChain_iff_pairwise.mp hchain.2
        exact ⟨lt_of_le_of_ne hchain.1 hne.1, ih hne.2 hchain.2⟩
  exact List.isChain_iff_pairwise.mp hlt

theorem eq_of_mem_iff (hl : l.Pairwise (· < ·)) (hm : m.Pairwise (· < ·)) (h : ∀ a, a ∈ l ↔ a ∈ m) :
    l = m := by
  have hperm : l.Perm m :=
    (List.perm_ext_iff_of_nodup (hl.imp fun h => ne_of_lt h) (hm.imp fun h => ne_of_lt h)).mpr h
  exact hperm.eq_of_pairwise (fun a b _ _ hab hba => absurd hba (lt_asymm hab)) hl hm

/-- What is left of the members of a list without one value. -/
def distinctWithout (a : α) (l : List α) : List α := (sortDedup l).filter (· ≠ a)

theorem mem_distinctWithout : b ∈ distinctWithout a l ↔ b ∈ l ∧ b ≠ a := by
  simp [distinctWithout]

theorem distinctWithout_pairwise (a : α) (l : List α) : (distinctWithout a l).Pairwise (· < ·) :=
  (sortDedup_pairwise l).filter _

end DistinctSorted

end Niralis
