import Mathlib.Data.List.Nodup
import Mathlib.Tactic.Common

namespace Niralis

structure KeyedTable (κ ν : Type) where
  entries : List (κ × ν)
  nodup : (entries.map Prod.fst).Nodup

namespace KeyedTable
variable {κ ν : Type} [DecidableEq κ]

def empty : KeyedTable κ ν where
  entries := []
  nodup := List.nodup_nil

def get (t : KeyedTable κ ν) (k : κ) : Option ν :=
  (t.entries.find? fun entry => entry.1 = k).map Prod.snd

def retain (t : KeyedTable κ ν) (keep : κ → ν → Bool) : KeyedTable κ ν where
  entries := t.entries.filter fun entry => keep entry.1 entry.2
  nodup := t.nodup.sublist (List.filter_sublist.map Prod.fst)

def remove (t : KeyedTable κ ν) (k : κ) : KeyedTable κ ν := t.retain fun key _ => key ≠ k

def insert (t : KeyedTable κ ν) (k : κ) (v : ν) : KeyedTable κ ν where
  entries := (k, v) :: (t.remove k).entries
  nodup := by
    rw [List.map_cons, List.nodup_cons]
    refine ⟨fun h => ?_, (t.remove k).nodup⟩
    obtain ⟨entry, hentry, hkey⟩ := List.mem_map.mp h
    have hne := (List.mem_filter.mp hentry).2
    simp [hkey] at hne

variable {t : KeyedTable κ ν} {k : κ} {v : ν}

@[simp] theorem get_empty (k : κ) : (empty : KeyedTable κ ν).get k = none := rfl

theorem get_eq_some_iff : t.get k = some v ↔ (k, v) ∈ t.entries := by
  constructor
  · intro h
    obtain ⟨⟨key, value⟩, hfound, rfl⟩ := Option.map_eq_some_iff.mp h
    have hkey : key = k := by simpa using List.find?_some hfound
    subst hkey
    exact List.mem_of_find?_eq_some hfound
  · intro h
    cases hfound : t.entries.find? fun entry => entry.1 = k with
    | none =>
      have := List.find?_eq_none.mp hfound _ h
      simp at this
    | some entry =>
      have hkey : entry.1 = k := by simpa using List.find?_some hfound
      have hsame : entry = (k, v) :=
        List.inj_on_of_nodup_map t.nodup (List.mem_of_find?_eq_some hfound) h hkey
      rw [get, hfound, hsame]
      rfl

theorem get_retain (t : KeyedTable κ ν) (keep : κ → ν → Bool) (k : κ) :
    (t.retain keep).get k = (t.get k).filter (keep k) := by
  ext v
  rw [Option.filter_eq_some_iff, get_eq_some_iff, get_eq_some_iff]
  exact List.mem_filter

@[simp] theorem get_remove_self (t : KeyedTable κ ν) (k : κ) : (t.remove k).get k = none := by
  rw [remove, get_retain]
  cases t.get k <;> simp

theorem get_remove_of_ne {k' : κ} (h : k' ≠ k) : (t.remove k).get k' = t.get k' := by
  rw [remove, get_retain]
  cases t.get k' <;> simp [h]

@[simp] theorem get_insert_self (t : KeyedTable κ ν) (k : κ) (v : ν) :
    (t.insert k v).get k = some v :=
  get_eq_some_iff.mpr List.mem_cons_self

theorem get_insert_of_ne {k' : κ} (h : k' ≠ k) : (t.insert k v).get k' = t.get k' := by
  rw [← get_remove_of_ne (t := t) h]
  unfold get insert
  rw [List.find?_cons_of_neg (by simpa using Ne.symm h)]

end KeyedTable

end Niralis
