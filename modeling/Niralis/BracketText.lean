import Mathlib.Data.List.Basic
import Mathlib.Tactic.Common

namespace Niralis.BracketText

/-- The white space of JSON: space, tab, line feed and carriage return. -/
def isSpace (b : UInt8) : Bool := b = 32 || b = 9 || b = 10 || b = 13

def opens (b : UInt8) : Bool := b = 123 || b = 91
def closes (b : UInt8) : Bool := b = 125 || b = 93

structure Scan where
  depth : Nat := 0
  inString : Bool := false
  escaped : Bool := false
  deriving DecidableEq

/-- Brackets within a string do not count, and no quote behind a backslash ends one. -/
def Scan.step (s : Scan) (b : UInt8) : Scan :=
  if s.inString then
    if s.escaped then { s with escaped := false }
    else if b = 92 then { s with escaped := true }
    else if b = 34 then { s with inString := false }
    else s
  else if b = 34 then { s with inString := true }
  else if opens b then { s with depth := s.depth + 1 }
  else if closes b then { s with depth := s.depth - 1 }
  else s

def Scan.closed (s : Scan) : Bool := s.depth = 0 && !s.inString

def restFrom (s : Scan) : List UInt8 → Option (List UInt8)
  | [] => none
  | b :: rest => if (s.step b).closed then some rest else restFrom (s.step b) rest

/-- A text that a bracket opens, whose last byte closes it. -/
def IsBracketed (text : List UInt8) : Prop :=
  (text.head?.any opens) = true ∧ restFrom {} text = some []

instance (text : List UInt8) : Decidable (IsBracketed text) := inferInstanceAs (Decidable (_ ∧ _))

section Prefixes
variable {s : Scan} {text text' rest after after' before before' : List UInt8}

theorem restFrom_append (h : restFrom s text = some rest) (more : List UInt8) :
    restFrom s (text ++ more) = some (rest ++ more) := by
  induction text generalizing s with
  | nil => cases h
  | cons b text ih =>
    unfold restFrom at h
    rw [List.cons_append, restFrom]
    split at h
    next hclosed =>
      cases h
      rw [if_pos hclosed]
    next hclosed =>
      rw [if_neg hclosed]
      exact ih h

theorem IsBracketed.ne_nil (h : IsBracketed text) : text ≠ [] := by
  rintro rfl
  cases h.2

theorem not_opens_of_isSpace {b : UInt8} (h : isSpace b = true) : opens b = false := by
  simp only [isSpace, Bool.or_eq_true, decide_eq_true_eq] at h
  rcases h with ((rfl | rfl) | rfl) | rfl <;> rfl

theorem IsBracketed.append_inj (h : IsBracketed text) (h' : IsBracketed text')
    (heq : text ++ after = text' ++ after') : text = text' ∧ after = after' := by
  have hrest := restFrom_append h.2 after
  have hrest' := restFrom_append h'.2 after'
  rw [heq, hrest', List.nil_append, List.nil_append, Option.some.injEq] at hrest
  subst hrest
  exact ⟨List.append_cancel_right heq, rfl⟩

/-- White space before a bracketed text is all the white space there is in front. -/
theorem dropWhile_isSpace (h : IsBracketed text) (hbefore : ∀ b ∈ before, isSpace b = true) :
    (before ++ text ++ after).dropWhile isSpace = text ++ after := by
  rw [List.append_assoc, List.dropWhile_append_of_pos hbefore]
  cases text with
  | nil => exact absurd rfl h.ne_nil
  | cons b text =>
    have hopens : opens b = true := h.1
    have hnot : isSpace b = false := by
      cases hspace : isSpace b with
      | false => rfl
      | true =>
        rw [not_opens_of_isSpace hspace] at hopens
        cases hopens
    rw [List.cons_append, List.dropWhile_cons, hnot, if_neg (by simp)]

/-- Two bracketed texts within white space are one and the same wherever the whole is the same. -/
theorem IsBracketed.padded_inj (h : IsBracketed text) (h' : IsBracketed text')
    (hbefore : ∀ b ∈ before, isSpace b = true) (hbefore' : ∀ b ∈ before', isSpace b = true)
    (heq : before ++ text ++ after = before' ++ text' ++ after') : text = text' ∧ after = after' := by
  have hdrop := congrArg (List.dropWhile isSpace) heq
  rw [dropWhile_isSpace h hbefore, dropWhile_isSpace h' hbefore'] at hdrop
  exact h.append_inj h' hdrop

end Prefixes

end Niralis.BracketText
