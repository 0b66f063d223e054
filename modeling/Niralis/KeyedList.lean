import Mathlib.Data.List.Basic
import Mathlib.Tactic.Common

namespace Niralis.KeyedList

section Keyed
variable {α κ : Type} [DecidableEq κ] (key : α → κ)

def lookup (k : κ) (l : List α) : Option α := l.find? fun a => key a = k

/-- Replaces the entry with the key of `a`, or inserts `a` in key order. -/
def put (lt : κ → κ → Bool) (a : α) : List α → List α
  | [] => [a]
  | b :: bs =>
    if key b = key a then a :: bs
    else if lt (key a) (key b) then a :: b :: bs
    else b :: put lt a bs

def erase (k : κ) (l : List α) : List α := l.filter fun a => key a ≠ k

variable {key}

theorem key_of_lookup {k : κ} {l : List α} {a : α} (h : lookup key k l = some a) : key a = k := by
  simpa using List.find?_some h

theorem mem_of_lookup {k : κ} {l : List α} {a : α} (h : lookup key k l = some a) : a ∈ l :=
  List.mem_of_find?_eq_some h

variable {lt : κ → κ → Bool} {a : α} {l : List α}

theorem lookup_put_self : lookup key (key a) (put key lt a l) = some a := by
  induction l with
  | nil => simp [put, lookup]
  | cons b bs ih =>
    unfold put
    split
    · simp [lookup]
    next hb =>
      split
      · simp [lookup]
      · simpa [lookup, hb] using ih

theorem lookup_put_of_ne {k : κ} (hk : k ≠ key a) :
    lookup key k (put key lt a l) = lookup key k l := by
  induction l with
  | nil => simp [put, lookup, hk.symm]
  | cons b bs ih =>
    unfold put
    split
    next hb => simp [lookup, hb, hk.symm]
    next hb =>
      split
      · simp [lookup, hk.symm]
      · simp only [lookup, List.find?_cons] at ih ⊢
        split
        · rfl
        · exact ih

theorem mem_put {x : α} (hx : x ∈ put key lt a l) : x = a ∨ x ∈ l := by
  induction l with
  | nil => simpa [put] using hx
  | cons b bs ih =>
    unfold put at hx
    split at hx
    · rcases List.mem_cons.mp hx with rfl | hx
      · exact Or.inl rfl
      · exact Or.inr (List.mem_cons_of_mem _ hx)
    · split at hx
      · exact List.mem_cons.mp hx
      · rcases List.mem_cons.mp hx with rfl | hx
        · exact Or.inr List.mem_cons_self
        · exact (ih hx).imp id (List.mem_cons_of_mem _)

@[simp] theorem lookup_erase_self {k : κ} : lookup key k (erase key k l) = none := by
  simp [lookup, erase]

theorem lookup_erase_of_ne {k k' : κ} (h : k ≠ k') :
    lookup key k (erase key k' l) = lookup key k l := by
  induction l with
  | nil => rfl
  | cons b bs ih =>
    simp only [lookup, erase, List.filter_cons, List.find?_cons] at ih ⊢
    by_cases hb : key b = k'
    · simpa [hb, h.symm] using ih
    · by_cases hk : key b = k <;> simp_all

theorem mem_erase {k : κ} {x : α} : x ∈ erase key k l ↔ x ∈ l ∧ key x ≠ k := by
  simp [erase]

section Ordered

/-- The entries stand in the order of their keys, each key once. -/
def Ordered (key : α → κ) (lt : κ → κ → Bool) (l : List α) : Prop :=
  l.Pairwise fun a b => lt (key a) (key b) = true

theorem ordered_erase (h : Ordered key lt l) (k : κ) : Ordered key lt (erase key k l) :=
  List.Pairwise.filter _ h

theorem ordered_put (htrans : ∀ j k m, lt j k = true → lt k m = true → lt j m = true)
    (htotal : ∀ j k, lt j k = true ∨ j = k ∨ lt k j = true) (h : Ordered key lt l) (a : α) :
    Ordered key lt (put key lt a l) := by
  induction l with
  | nil => exact List.pairwise_singleton _ _
  | cons b bs ih =>
    have hb := List.pairwise_cons.mp h
    unfold put
    split
    next hkey => exact List.pairwise_cons.mpr ⟨fun c hc => hkey ▸ hb.1 c hc, hb.2⟩
    next hkey =>
      split
      next hlt =>
        refine List.pairwise_cons.mpr ⟨fun c hc => ?_, h⟩
        rcases List.mem_cons.mp hc with rfl | hc
        · exact hlt
        · exact htrans _ _ _ hlt (hb.1 c hc)
      next hlt =>
        refine List.pairwise_cons.mpr ⟨fun c hc => ?_, ih hb.2⟩
        rcases mem_put hc with rfl | hc
        · rcases htotal (key b) (key c) with hbc | heq | hcb
          · exact hbc
          · exact absurd heq hkey
          · exact absurd hcb hlt
        · exact hb.1 c hc

theorem lookup_of_mem (hirrefl : ∀ k, lt k k = false) (h : Ordered key lt l) {x : α} (hx : x ∈ l) :
    lookup key (key x) l = some x := by
  induction l with
  | nil => cases hx
  | cons b bs ih =>
    have hb := List.pairwise_cons.mp h
    rcases List.mem_cons.mp hx with rfl | hx
    · simp [lookup]
    · have hne : key b ≠ key x := by
        intro heq
        have hlt := hb.1 x hx
        rw [heq, hirrefl] at hlt
        cases hlt
      simpa [lookup, hne] using ih hb.2 hx

theorem lookup_eq_some_iff (hirrefl : ∀ k, lt k k = false) (h : Ordered key lt l) {k : κ} {x : α} :
    lookup key k l = some x ↔ x ∈ l ∧ key x = k := by
  constructor
  · intro hx
    exact ⟨mem_of_lookup hx, key_of_lookup hx⟩
  · rintro ⟨hx, rfl⟩
    exact lookup_of_mem hirrefl h hx

/-- Each key has one entry, so that what is filtered out is not replaced. -/
theorem lookup_filter (hirrefl : ∀ k, lt k k = false) (h : Ordered key lt l) (p : α → Bool) (k : κ) :
    lookup key k (l.filter p) = (lookup key k l).filter p := by
  have hfilter : Ordered key lt (l.filter p) := List.Pairwise.filter _ h
  ext x
  rw [lookup_eq_some_iff hirrefl hfilter, List.mem_filter, Option.filter_eq_some_iff,
    lookup_eq_some_iff hirrefl h, and_right_comm]

end Ordered

theorem lookup_map {β : Type} {key : β → κ} (f : α → β) (k : κ) (l : List α) :
    lookup key k (l.map f) = (lookup (fun a => key (f a)) k l).map f := by
  unfold lookup
  rw [List.find?_map]
  rfl

end Keyed

end Niralis.KeyedList
