import Mathlib.Algebra.Ring.Nat
import Mathlib.Data.Nat.Basic
import Mathlib.Tactic.Common

namespace Niralis

def u64Bound : Nat := 2 ^ 64

def wrappingAdd (a b : Nat) : Nat := (a + b) % u64Bound

def checkedAdd (a b : Nat) : Option Nat := if a + b < u64Bound then some (a + b) else none

def saturatingAdd (a b : Nat) : Nat := min (a + b) (u64Bound - 1)

theorem wrappingAdd_of_lt {a b : Nat} (h : a + b < u64Bound) : wrappingAdd a b = a + b :=
  Nat.mod_eq_of_lt h

theorem checkedAdd_eq_some {a b c : Nat} :
    checkedAdd a b = some c ↔ a + b < u64Bound ∧ c = a + b := by
  unfold checkedAdd
  split
  · simp_all [eq_comm]
  · simp only [reduceCtorEq, false_iff, not_and]
    omega

end Niralis
