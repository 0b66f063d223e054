import Mathlib.Data.List.Basic
import Mathlib.Tactic.Common

namespace Niralis.Framing

inductive ReadError
  | tooLarge | truncated | io
  deriving DecidableEq, Repr

/-- Reads on after `taken`; a read fails after as many bytes of the line as `fails` says. The rest
of the stream is what no read has taken. -/
def readFrom (limit : Nat) (fails : Option Nat) (taken : List UInt8) :
    List UInt8 → Except ReadError (List UInt8) × List UInt8
  | [] =>
    if limit ≤ taken.length then (.error .tooLarge, [])
    else if fails = some taken.length then (.error .io, [])
    else (.error .truncated, [])
  | b :: rest =>
    if limit ≤ taken.length then (.error .tooLarge, b :: rest)
    else if fails = some taken.length then (.error .io, b :: rest)
    else if b = 10 then (.ok taken, rest)
    else readFrom limit fails (taken ++ [b]) rest

def readLine (limit : Nat) (fails : Option Nat) (input : List UInt8) :
    Except ReadError (List UInt8) × List UInt8 := readFrom limit fails [] input

/-- Everything up to the first `stop`, which is taken too. -/
def readUntil (stop : UInt8) : List UInt8 → List UInt8 × List UInt8
  | [] => ([], [])
  | b :: rest =>
    if b = stop then ([b], rest)
    else
      let (line, rest) := readUntil stop rest
      (b :: line, rest)

section Reading
variable {limit : Nat} {fails : Option Nat} {taken input rest line : List UInt8}

theorem readFrom_ok (h : readFrom limit fails taken input = (.ok line, rest)) :
    ∃ body, line = taken ++ body ∧ input = body ++ 10 :: rest := by
  induction input generalizing taken with
  | nil =>
    unfold readFrom at h
    split_ifs at h <;> cases h
  | cons b input ih =>
    unfold readFrom at h
    split_ifs at h with hlimit hfails hb
    · cases h
    · cases h
    · cases h
      exact ⟨[], by simp, by simp [hb]⟩
    · obtain ⟨body, rfl, rfl⟩ := ih h
      exact ⟨b :: body, by simp, by simp⟩

/-- A line that was read is the bytes up to the line feed, which is taken too. -/
theorem readLine_ok (h : readLine limit fails input = (.ok line, rest)) :
    input = line ++ 10 :: rest := by
  obtain ⟨body, rfl, hinput⟩ := readFrom_ok h
  exact hinput

theorem readFrom_suffix (taken : List UInt8) :
    (readFrom limit fails taken input).2 <:+ input := by
  induction input generalizing taken with
  | nil =>
    unfold readFrom
    split_ifs <;> exact List.suffix_rfl
  | cons b input ih =>
    unfold readFrom
    split_ifs
    · exact List.suffix_rfl
    · exact List.suffix_rfl
    · exact List.suffix_cons _ _
    · exact (ih _).trans (List.suffix_cons _ _)

theorem readLine_suffix : (readLine limit fails input).2 <:+ input := readFrom_suffix []

/-- Where a read can fail only before its first byte, a line is read up to its end, or else nothing
of it is taken, or there is nothing after it. -/
theorem readFrom_whole (hfails : ∀ n, fails = some n → n = 0) (htaken : taken ≠ [])
    (hshort : taken.length + (input.takeWhile (· ≠ 10)).length < limit) :
    (∃ line, (readFrom limit fails taken input).1 = .ok line) ∨
      (readFrom limit fails taken input).2 = [] := by
  induction input generalizing taken with
  | nil =>
    right
    unfold readFrom
    split_ifs <;> rfl
  | cons b input ih =>
    have hlimit : ¬limit ≤ taken.length := by omega
    have hio : ¬fails = some taken.length := fun h => by
      have := hfails _ h
      exact htaken (List.eq_nil_of_length_eq_zero this)
    unfold readFrom
    rw [if_neg hlimit, if_neg hio]
    by_cases hb : b = 10
    · rw [if_pos hb]
      exact Or.inl ⟨_, rfl⟩
    · rw [if_neg hb]
      refine ih (by simp) ?_
      rw [List.takeWhile_cons_of_pos (by simpa using hb), List.length_cons] at hshort
      rw [List.length_append, List.length_singleton]
      omega

theorem readLine_whole (hfails : ∀ n, fails = some n → n = 0)
    (hshort : (input.takeWhile (· ≠ 10)).length < limit) :
    (∃ line, (readLine limit fails input).1 = .ok line) ∨ (readLine limit fails input).2 = [] ∨
      (readLine limit fails input).2 = input := by
  cases input with
  | nil =>
    right
    left
    unfold readLine readFrom
    split_ifs <;> rfl
  | cons b input =>
    unfold readLine readFrom
    split_ifs with hlimit hio hb
    · exact Or.inr (Or.inr rfl)
    · exact Or.inr (Or.inr rfl)
    · exact Or.inl ⟨_, rfl⟩
    · rw [List.takeWhile_cons_of_pos (by simpa using hb), List.length_cons] at hshort
      have hwhole : [b].length + (input.takeWhile (· ≠ 10)).length < limit := by
        rw [List.length_singleton]
        omega
      rcases readFrom_whole hfails (by simp) hwhole with hok | hend
      · exact Or.inl hok
      · exact Or.inr (Or.inl hend)

theorem readFrom_append (hline : 10 ∉ line) (hlimit : taken.length + line.length < limit) :
    readFrom limit none taken (line ++ 10 :: rest) = (.ok (taken ++ line), rest) := by
  induction line generalizing taken with
  | nil =>
    rw [List.length_nil] at hlimit
    simp only [List.nil_append, List.append_nil]
    unfold readFrom
    rw [if_neg (by omega), if_neg (by simp), if_pos rfl]
  | cons b line ih =>
    rw [List.length_cons] at hlimit
    have hb : b ≠ 10 := fun h => hline (h ▸ List.mem_cons_self)
    rw [List.cons_append]
    unfold readFrom
    rw [if_neg (by omega), if_neg (by simp), if_neg hb, ih fun h => hline (List.mem_cons_of_mem _ h)]
    · simp
    · rw [List.length_append, List.length_singleton]
      omega

theorem readLine_line (hline : 10 ∉ line) (hlimit : line.length < limit) :
    readLine limit none (line ++ 10 :: rest) = (.ok line, rest) :=
  readFrom_append hline (by simpa using hlimit)

/-- As many bytes as the limit without a line feed are taken and given up. -/
theorem readFrom_long (hline : 10 ∉ line) (hlimit : taken.length + line.length = limit) :
    readFrom limit none taken (line ++ rest) = (.error .tooLarge, rest) := by
  induction line generalizing taken with
  | nil =>
    rw [List.length_nil] at hlimit
    rw [List.nil_append]
    cases rest <;>
    · unfold readFrom
      rw [if_pos (by omega)]
  | cons b line ih =>
    rw [List.length_cons] at hlimit
    have hb : b ≠ 10 := fun h => hline (h ▸ List.mem_cons_self)
    rw [List.cons_append]
    unfold readFrom
    rw [if_neg (by omega), if_neg (by simp), if_neg hb]
    refine ih (fun h => hline (List.mem_cons_of_mem _ h)) ?_
    rw [List.length_append, List.length_singleton]
    omega

theorem readLine_long (hline : 10 ∉ line) (hlimit : line.length = limit) :
    readLine limit none (line ++ rest) = (.error .tooLarge, rest) :=
  readFrom_long hline (by simpa using hlimit)

end Reading

theorem readUntil_line {stop : UInt8} {line : List UInt8} (hline : stop ∉ line) (rest : List UInt8) :
    readUntil stop (line ++ stop :: rest) = (line ++ [stop], rest) := by
  induction line with
  | nil => simp [readUntil]
  | cons b line ih =>
    have hb : b ≠ stop := fun h => hline (h ▸ List.mem_cons_self)
    have hrest : stop ∉ line := fun h => hline (List.mem_cons_of_mem _ h)
    rw [List.cons_append, readUntil, if_neg hb, ih hrest]
    rfl

end Niralis.Framing
