import Mathlib.Algebra.BigOperators.Group.List.Basic
import Mathlib.Algebra.Ring.Nat
import Mathlib.Data.Nat.Cast.Basic

namespace Niralis.JsonText

/-- A quotation mark, a backslash and a control character are escaped. -/
def charBytes (c : Char) : Nat :=
  if c = '"' ∨ c = '\\' then 2
  else if 0x20 ≤ c.val then c.utf8Size
  else if c = '\x08' ∨ c = '\t' ∨ c = '\n' ∨ c = '\x0c' ∨ c = '\r' then 2
  else 6

def text (s : String) : Nat := 2 + (s.toList.map charBytes).sum

def number (n : Nat) : Nat := (Nat.toDigits 10 n).length

def optional (n : Option Nat) : Nat := n.elim 4 number

def separated (items : List Nat) : Nat := items.sum + (items.length - 1)

def array (items : List Nat) : Nat := 2 + separated items

def object (fields : List (String × Nat)) : Nat :=
  2 + separated (fields.map fun field => text field.1 + 1 + field.2)

example : object [("version", number 1), ("entries", array [])] =
    "\x7b\"version\":1,\"entries\":[]\x7d".utf8ByteSize := by decide

def escape (c : Char) : List Char :=
  if c = '"' then ['\\', '"']
  else if c = '\\' then ['\\', '\\']
  else if 0x20 ≤ c.val then [c]
  else if c = '\x08' then ['\\', 'b']
  else if c = '\t' then ['\\', 't']
  else if c = '\n' then ['\\', 'n']
  else if c = '\x0c' then ['\\', 'f']
  else if c = '\r' then ['\\', 'r']
  else ['\\', 'u', '0', '0', Nat.digitChar (c.toNat / 16), Nat.digitChar (c.toNat % 16)]

def quoted (s : String) : List Char := '"' :: s.toList.flatMap escape ++ ['"']

def decimal (n : Nat) : List Char := Nat.toDigits 10 n

/-- The members with a comma before each but the first. -/
def joined : List (List Char) → List Char
  | [] => []
  | [item] => item
  | item :: items => item ++ ',' :: joined items

def braced (fields : List (String × List Char)) : List Char :=
  '\x7b' :: joined (fields.map fun field => quoted field.1 ++ ':' :: field.2) ++ ['\x7d']

def bracketed (items : List (List Char)) : List Char := '[' :: joined items ++ [']']

def bytes (chars : List Char) : List UInt8 := chars.flatMap String.utf8EncodeChar

def size (chars : List Char) : Nat := (chars.map Char.utf8Size).sum

@[simp] theorem size_nil : size [] = 0 := rfl

@[simp] theorem size_cons (c : Char) (cs : List Char) : size (c :: cs) = c.utf8Size + size cs := by
  simp [size]

@[simp] theorem size_append (cs ds : List Char) : size (cs ++ ds) = size cs + size ds := by
  simp [size]

theorem length_bytes (cs : List Char) : (bytes cs).length = size cs := by
  simp [bytes, size, List.length_flatMap]

theorem size_escape (c : Char) : size (escape c) = charBytes c := by
  by_cases hquote : c = '"'
  · subst hquote
    decide
  by_cases hslash : c = '\\'
  · subst hslash
    decide
  by_cases hplain : 0x20 ≤ c.val
  · simp [escape, charBytes, hquote, hslash, hplain]
  -- what is left is one of the thirty-two control characters
  have hlt : c.toNat < 32 := by
    have := UInt32.not_le.mp hplain
    exact UInt32.lt_iff_toNat_lt.mp this
  have hall : ∀ n < 32, size (escape (Char.ofNat n)) = charBytes (Char.ofNat n) := by decide
  have := hall c.toNat hlt
  rwa [Char.ofNat_toNat] at this

theorem size_flatMap_escape (cs : List Char) :
    size (cs.flatMap escape) = (cs.map charBytes).sum := by
  induction cs with
  | nil => rfl
  | cons c cs ih => rw [List.flatMap_cons, size_append, size_escape, ih, List.map_cons, List.sum_cons]

@[simp] theorem size_quoted (s : String) : size (quoted s) = text s := by
  have hquote : Char.utf8Size '"' = 1 := by decide
  rw [quoted, size_append, size_cons, size_flatMap_escape, size_cons, hquote, size_nil, text]
  omega

theorem utf8Size_of_mem_decimal {n : Nat} {c : Char} (h : c ∈ decimal n) : c.utf8Size = 1 := by
  have hdigit := Nat.isDigit_of_mem_toDigits (by decide) (by decide) h
  have hle : c.val ≤ 57 := by
    simp [Char.isDigit] at hdigit
    exact hdigit.2
  have : c.val ≤ 127 := UInt32.le_trans hle (by decide)
  simp [Char.utf8Size, this]

@[simp] theorem size_decimal (n : Nat) : size (decimal n) = number n := by
  have hone : (decimal n).map Char.utf8Size = (decimal n).map fun _ => 1 :=
    List.map_congr_left fun c hc => utf8Size_of_mem_decimal hc
  rw [size, hone, List.map_const', List.sum_replicate_nat, Nat.mul_one]
  rfl

theorem size_joined (items : List (List Char)) : size (joined items) = separated (items.map size) := by
  have hcomma : Char.utf8Size ',' = 1 := by decide
  induction items with
  | nil => rfl
  | cons item items ih =>
    cases items with
    | nil => simp [joined, separated]
    | cons next items =>
      rw [joined, size_append, size_cons, ih, hcomma]
      · simp [separated]
        omega
      · simp

@[simp] theorem size_braced (fields : List (String × List Char)) :
    size (braced fields) = object (fields.map fun field => (field.1, size field.2)) := by
  have hopen : Char.utf8Size '\x7b' = 1 := by decide
  have hclose : Char.utf8Size '\x7d' = 1 := by decide
  have hcolon : Char.utf8Size ':' = 1 := by decide
  have hfield : ∀ field : String × List Char,
      size (quoted field.1 ++ ':' :: field.2) = text field.1 + 1 + size field.2 := by
    intro field
    rw [size_append, size_cons, hcolon, size_quoted, Nat.add_assoc]
  rw [braced, size_append, size_cons, hopen, size_cons, hclose, size_nil, size_joined, object]
  simp only [List.map_map, Function.comp_def, hfield]
  omega

@[simp] theorem size_bracketed (items : List (List Char)) :
    size (bracketed items) = array (items.map size) := by
  have hopen : Char.utf8Size '[' = 1 := by decide
  have hclose : Char.utf8Size ']' = 1 := by decide
  rw [bracketed, size_append, size_cons, hopen, size_cons, hclose, size_nil, size_joined, array]
  omega

theorem number_le {n k : Nat} (hk : 0 < k) (h : n < 10 ^ k) : number n ≤ k :=
  (Nat.length_toDigits_le_iff (by decide) hk).mpr h

theorem size_toList (s : String) : size s.toList = s.utf8ByteSize := by
  rw [← length_bytes, bytes, ← String.size_toByteArray, ← String.utf8Encode_toList, List.utf8Encode]
  simp

theorem text_le (s : String) : text s ≤ 6 * s.utf8ByteSize + 2 := by
  have hchar : ∀ c : Char, charBytes c ≤ 6 * c.utf8Size := by
    intro c
    have := c.utf8Size_pos
    unfold charBytes
    split_ifs <;> omega
  have hsum : ∀ cs : List Char, (cs.map charBytes).sum ≤ 6 * size cs := by
    intro cs
    induction cs with
    | nil => exact Nat.le_refl 0
    | cons c cs ih =>
      rw [List.map_cons, List.sum_cons, size_cons]
      have := hchar c
      omega
  rw [text, ← size_toList]
  have := hsum s.toList
  omega

theorem newline_not_mem_escape (c : Char) : '\n' ∉ escape c := by
  by_cases hplain : 0x20 ≤ c.val
  · intro h
    unfold escape at h
    split_ifs at h
    · simp at h
    · simp at h
    · simp only [List.mem_singleton] at h
      subst h
      revert hplain
      decide
  have hlt : c.toNat < 32 := by
    have := UInt32.not_le.mp hplain
    exact UInt32.lt_iff_toNat_lt.mp this
  have hall : ∀ n < 32, '\n' ∉ escape (Char.ofNat n) := by decide
  have := hall c.toNat hlt
  rwa [Char.ofNat_toNat] at this

theorem newline_not_mem_quoted (s : String) : '\n' ∉ quoted s := by
  have hbody : '\n' ∉ s.toList.flatMap escape := by
    simp only [List.mem_flatMap, not_exists, not_and]
    exact fun c _ => newline_not_mem_escape c
  simp [quoted, hbody]

theorem newline_not_mem_decimal (n : Nat) : '\n' ∉ decimal n := by
  intro h
  have hdigit := Nat.isDigit_of_mem_toDigits (by decide) (by decide) h
  revert hdigit
  decide

theorem newline_not_mem_joined {items : List (List Char)} (h : ∀ item ∈ items, '\n' ∉ item) :
    '\n' ∉ joined items := by
  induction items with
  | nil => exact List.not_mem_nil
  | cons item items ih =>
    have hitem := h item List.mem_cons_self
    have hrest := ih fun other hmem => h other (List.mem_cons_of_mem _ hmem)
    cases items with
    | nil => exact hitem
    | cons next items => simp [joined, hitem, hrest]

theorem newline_not_mem_braced {fields : List (String × List Char)}
    (h : ∀ field ∈ fields, '\n' ∉ field.2) : '\n' ∉ braced fields := by
  have hjoined : '\n' ∉ joined (fields.map fun field => quoted field.1 ++ ':' :: field.2) := by
    refine newline_not_mem_joined fun item hitem => ?_
    obtain ⟨field, hmem, rfl⟩ := List.mem_map.mp hitem
    simp [newline_not_mem_quoted, h field hmem]
  simp [braced, hjoined]

theorem newline_mem_utf8EncodeChar (c : Char) : 10 ∈ String.utf8EncodeChar c ↔ c = '\n' := by
  have hbyte : ∀ n, n < 256 → ((10 : UInt8) = UInt8.ofNat n ↔ n = 10) := by
    intro n hn
    rw [← UInt8.toNat_inj, UInt8.toNat_ofNat', Nat.mod_eq_of_lt hn]
    exact eq_comm
  unfold String.utf8EncodeChar
  dsimp only
  split_ifs with h₁ h₂ h₃
  · rw [List.mem_singleton, hbyte _ (by omega)]
    constructor
    · intro h
      exact Char.ext (UInt32.toNat_inj.mp h)
    · rintro rfl
      rfl
  all_goals
    have hne : c ≠ '\n' := by
      rintro rfl
      exact h₁ (by decide)
    simp only [List.mem_cons, List.not_mem_nil, or_false, hne, iff_false, not_or]
    refine ⟨?_, ?_⟩ <;> try refine ⟨?_, ?_⟩
    all_goals try refine ⟨?_, ?_⟩
    all_goals
      rw [hbyte _ (by omega)]
      omega

theorem newline_mem_bytes {cs : List Char} : 10 ∈ bytes cs ↔ '\n' ∈ cs := by
  simp [bytes, List.mem_flatMap, newline_mem_utf8EncodeChar]

end Niralis.JsonText
