import Mathlib.Data.List.Basic
import Mathlib.Tactic.Common

namespace Niralis.Text

/-- A line loses its terminating line feed and a carriage return right before it. -/
def stripCarriageReturn (line : List Char) : List Char :=
  if line.getLast? = some '\r' then line.dropLast else line

def linesFrom (current : List Char) : List Char → List (List Char)
  | [] => if current = [] then [] else [current]
  | c :: cs =>
    if c = '\n' then stripCarriageReturn current :: linesFrom [] cs
    else linesFrom (current ++ [c]) cs

def lines (text : List Char) : List (List Char) := linesFrom [] text

def isAsciiWhitespace (c : Char) : Bool :=
  c = ' ' || c = '\t' || c = '\n' || c = '\x0c' || c = '\r'

/-- `char::is_whitespace`, the Unicode property `White_Space`. -/
def isWhitespace (c : Char) : Bool :=
  let n := c.toNat
  (9 ≤ n && n ≤ 13) || n = 0x20 || n = 0x85 || n = 0xa0 || n = 0x1680 ||
    (0x2000 ≤ n && n ≤ 0x200a) || n = 0x2028 || n = 0x2029 || n = 0x202f || n = 0x205f ||
    n = 0x3000

def fieldsFrom (current : List Char) : List Char → List (List Char)
  | [] => if current = [] then [] else [current]
  | c :: cs =>
    if isAsciiWhitespace c then
      if current = [] then fieldsFrom [] cs else current :: fieldsFrom [] cs
    else fieldsFrom (current ++ [c]) cs

def splitAsciiWhitespace (text : List Char) : List (List Char) := fieldsFrom [] text

def trim (text : List Char) : List Char :=
  ((text.dropWhile isWhitespace).reverse.dropWhile isWhitespace).reverse

def decimalValue (digits : List Char) : Nat :=
  digits.foldl (fun value c => value * 10 + (c.toNat - '0'.toNat)) 0

/-- `str::parse::<u8>`: an optional plus sign, then digits whose value fits. -/
def parseU8 (text : List Char) : Option Nat :=
  let digits := if text.head? = some '+' then text.tail else text
  if digits ≠ [] ∧ digits.all Char.isDigit ∧ decimalValue digits < 256 then
    some (decimalValue digits)
  else none

def containsPair (a b : Char) : List Char → Bool
  | c :: d :: cs => (c = a && d = b) || containsPair a b (d :: cs)
  | _ => false

theorem stripCarriageReturn_ne_nil {c : Char} {cs : List Char} (hc : c ≠ '\r') :
    stripCarriageReturn (c :: cs) ≠ [] := by
  unfold stripCarriageReturn
  split
  · cases cs with
    | nil => simp_all
    | cons d ds => simp
  · simp

/-- Text whose first line does not start with a line break has a line that is not empty. -/
theorem exists_nonempty_line {c : Char} (hc : c ≠ '\r') (current text : List Char) :
    ∃ line ∈ linesFrom (c :: current) text, line ≠ [] := by
  induction text generalizing current with
  | nil => exact ⟨c :: current, by simp [linesFrom], by simp⟩
  | cons d ds ih =>
    rw [linesFrom]
    split
    · exact ⟨_, List.mem_cons_self, stripCarriageReturn_ne_nil hc⟩
    · exact ih (current ++ [d])

end Niralis.Text
