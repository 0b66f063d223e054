import Mathlib.Data.List.Basic
import Mathlib.Tactic.Common

namespace Niralis

structure Slot (α : Type) where
  before : List α
  entry : α
  after : List α

namespace Slot
variable {α : Type}

def all (s : Slot α) : List α := s.before ++ s.entry :: s.after

def others (s : Slot α) : List α := s.before ++ s.after

def put (s : Slot α) (a : α) : List α := s.before ++ a :: s.after

/-- `Vec::swap_remove`: the last entry takes the place of the removed one. -/
def swapRemove (s : Slot α) : List α :=
  match s.after.getLast? with
  | none => s.before
  | some a => s.before ++ a :: s.after.dropLast

def first (p : α → Bool) : List α → Option (Slot α)
  | [] => none
  | a :: as =>
    if p a then some ⟨[], a, as⟩
    else (first p as).map fun s => { s with before := a :: s.before }

def nth : Nat → List α → Option (Slot α)
  | _, [] => none
  | 0, a :: as => some ⟨[], a, as⟩
  | i + 1, a :: as => (nth i as).map fun s => { s with before := a :: s.before }

variable {p : α → Bool} {l : List α} {s : Slot α}

theorem first_eq_some (h : first p l = some s) : l = s.all ∧ p s.entry = true := by
  induction l generalizing s with
  | nil => cases h
  | cons a as ih =>
    unfold first at h
    split at h
    next ha =>
      cases h
      exact ⟨rfl, ha⟩
    next =>
      obtain ⟨t, ht, rfl⟩ := Option.map_eq_some_iff.mp h
      obtain ⟨rfl, hp⟩ := ih ht
      exact ⟨rfl, hp⟩

theorem first_eq_none (h : first p l = none) : ∀ a ∈ l, p a = false := by
  induction l with
  | nil => simp
  | cons a as ih =>
    unfold first at h
    split at h
    · cases h
    next ha =>
      intro b hb
      rcases List.mem_cons.mp hb with rfl | hb
      · simpa using ha
      · exact ih (Option.map_eq_none_iff.mp h) b hb

theorem nth_eq_some {i : Nat} (h : nth i l = some s) : l = s.all := by
  induction l generalizing i s with
  | nil => cases i <;> cases h
  | cons a as ih =>
    cases i with
    | zero =>
      cases h
      rfl
    | succ i =>
      obtain ⟨t, ht, rfl⟩ := Option.map_eq_some_iff.mp h
      rw [ih ht]
      rfl

theorem mem_all {x : α} : x ∈ s.all ↔ x = s.entry ∨ x ∈ s.others := by
  simp only [all, others, List.mem_append, List.mem_cons]
  tauto

theorem mem_put {a x : α} : x ∈ s.put a ↔ x = a ∨ x ∈ s.others := by
  simp only [put, others, List.mem_append, List.mem_cons]
  tauto

theorem all_perm (s : Slot α) : s.all.Perm (s.entry :: s.others) := List.perm_middle

theorem put_perm (s : Slot α) (a : α) : (s.put a).Perm (a :: s.others) := List.perm_middle

theorem swapRemove_perm (s : Slot α) : s.swapRemove.Perm s.others := by
  obtain ⟨before, entry, after⟩ := s
  rcases List.eq_nil_or_concat after with rfl | ⟨init, last, rfl⟩
  · simp [swapRemove, others]
  · simpa [swapRemove, others] using
      (List.perm_append_singleton last init).symm.append_left before

theorem mem_swapRemove {x : α} : x ∈ s.swapRemove ↔ x ∈ s.others :=
  s.swapRemove_perm.mem_iff

theorem length_swapRemove (s : Slot α) : s.swapRemove.length = s.others.length :=
  s.swapRemove_perm.length_eq

theorem length_all (s : Slot α) : s.all.length = s.others.length + 1 := by
  simp [all, others]
  omega

section Keys
variable {κ : Type} {key : α → κ}

theorem map_put {a : α} (h : key a = key s.entry) : (s.put a).map key = s.all.map key := by
  simp [put, all, h]

theorem nodup_swapRemove (h : (s.all.map key).Nodup) : (s.swapRemove.map key).Nodup := by
  rw [(s.swapRemove_perm.map key).nodup_iff]
  refine h.sublist (List.Sublist.map key ?_)
  exact List.Sublist.append_left (List.sublist_cons_self _ _) _

theorem key_ne_of_mem_others (h : (s.all.map key).Nodup) {x : α} (hx : x ∈ s.others) :
    key x ≠ key s.entry := by
  intro heq
  have hcons := (s.all_perm.map key).nodup_iff.mp h
  exact (List.nodup_cons.mp hcons).1 (heq ▸ List.mem_map_of_mem hx)

end Keys

end Slot

end Niralis
