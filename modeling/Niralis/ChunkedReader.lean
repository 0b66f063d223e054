import Mathlib.Data.List.Basic
import Mathlib.Tactic.Common

namespace Niralis.ChunkedReader

/-- What one read of the stream gives: some bytes, nothing yet, or an error that ends it. -/
inductive ReadResult
  | chunk (first : UInt8) (more : List UInt8)
  | interrupted
  | failed
  deriving DecidableEq, Repr

/-- The reads to come; after them the stream is at its end. -/
abbrev Reader := List ReadResult

inductive ReadErrorKind
  | unexpectedEof | other
  deriving DecidableEq, Repr

/-- `read_exact` of one byte: an interrupted read is tried again. -/
def readByte : Reader → Except ReadErrorKind UInt8 × Reader
  | [] => (.error .unexpectedEof, [])
  | .chunk b [] :: reads => (.ok b, reads)
  | .chunk b (c :: more) :: reads => (.ok b, .chunk c more :: reads)
  | .interrupted :: reads => readByte reads
  | .failed :: reads => (.error .other, reads)

/-- The bytes that arrive before the stream ends or fails. -/
def bytes : Reader → List UInt8
  | [] => []
  | .chunk b more :: reads => b :: more ++ bytes reads
  | .interrupted :: reads => bytes reads
  | .failed :: _ => []

def ending : Reader → ReadErrorKind
  | [] => .unexpectedEof
  | .chunk _ _ :: reads => ending reads
  | .interrupted :: reads => ending reads
  | .failed :: _ => .other

section Bytes
variable {reader rest : Reader} {b : UInt8} {more : List UInt8}

/-- The pieces do not show. -/
theorem readByte_of_cons (h : bytes reader = b :: more) :
    ∃ rest, readByte reader = (.ok b, rest) ∧ bytes rest = more ∧ ending rest = ending reader := by
  induction reader with
  | nil => cases h
  | cons result reads ih =>
    cases result with
    | chunk c tail =>
      obtain ⟨rfl, hmore⟩ := List.cons.inj h
      cases tail with
      | nil => exact ⟨reads, rfl, hmore, rfl⟩
      | cons d tail => exact ⟨.chunk d tail :: reads, rfl, hmore, rfl⟩
    | interrupted => exact ih h
    | failed => cases h

theorem readByte_of_nil (h : bytes reader = []) :
    ∃ rest, readByte reader = (.error (ending reader), rest) := by
  induction reader with
  | nil => exact ⟨[], rfl⟩
  | cons result reads ih =>
    cases result with
    | chunk c tail => cases h
    | interrupted => exact ih h
    | failed => exact ⟨reads, rfl⟩

theorem bytes_of_readByte (h : readByte reader = (.ok b, rest)) : bytes reader = b :: bytes rest := by
  cases hbytes : bytes reader with
  | nil =>
    obtain ⟨_, herror⟩ := readByte_of_nil hbytes
    rw [herror] at h
    cases h
  | cons c more =>
    obtain ⟨_, hread, hmore, -⟩ := readByte_of_cons hbytes
    rw [hread] at h
    cases h
    rw [hmore]

end Bytes

section Lines

inductive LineError
  | tooLong
  | read (kind : ReadErrorKind)
  deriving DecidableEq, Repr

/-- Reads on after `taken`, up to a line feed, which is taken too, or until `stop` bytes are there
without one. -/
def readLineFrom (stop : Nat) (taken : List UInt8) (reader : Reader) :
    Except LineError (List UInt8) × Reader :=
  match _hread : readByte reader with
  | (.error kind, rest) => (.error (.read kind), rest)
  | (.ok b, rest) =>
    if b = 10 then (.ok (taken ++ [b]), rest)
    else if stop ≤ (taken ++ [b]).length then (.error .tooLong, rest)
    else readLineFrom stop (taken ++ [b]) rest
termination_by (bytes reader).length
decreasing_by
  rw [bytes_of_readByte _hread, List.length_cons]
  exact Nat.lt_succ_self _

def readLine (stop : Nat) (reader : Reader) : Except LineError (List UInt8) × Reader :=
  readLineFrom stop [] reader

variable {stop : Nat} {taken line more : List UInt8} {reader rest : Reader} {b : UInt8}

theorem readLineFrom_of_error {kind : ReadErrorKind} (h : readByte reader = (.error kind, rest)) :
    readLineFrom stop taken reader = (.error (.read kind), rest) := by
  rw [readLineFrom]
  split <;> simp_all

theorem readLineFrom_of_ok (h : readByte reader = (.ok b, rest)) :
    readLineFrom stop taken reader =
      if b = 10 then (.ok (taken ++ [b]), rest)
      else if stop ≤ (taken ++ [b]).length then (.error .tooLong, rest)
      else readLineFrom stop (taken ++ [b]) rest := by
  rw [readLineFrom]
  split <;> simp_all

theorem readLineFrom_fits (hbytes : bytes reader = line ++ 10 :: more) (hline : 10 ∉ line)
    (hfits : taken.length + line.length < stop) :
    ∃ rest, readLineFrom stop taken reader = (.ok (taken ++ line ++ [10]), rest) ∧
      bytes rest = more ∧ ending rest = ending reader := by
  induction line generalizing taken reader with
  | nil =>
    obtain ⟨rest, hread, hmore, hending⟩ := readByte_of_cons hbytes
    refine ⟨rest, ?_, hmore, hending⟩
    rw [readLineFrom_of_ok hread, if_pos rfl, List.append_nil]
  | cons c line ih =>
    obtain ⟨next, hread, hmore, hending⟩ := readByte_of_cons hbytes
    rw [List.mem_cons, not_or] at hline
    rw [List.length_cons] at hfits
    have hlength : (taken ++ [c]).length = taken.length + 1 := by simp
    obtain ⟨rest, hrest, hbytes', hending'⟩ := @ih (taken ++ [c]) next hmore hline.2 (by omega)
    refine ⟨rest, ?_, hbytes', hending'.trans hending⟩
    rw [readLineFrom_of_ok hread, if_neg (Ne.symm hline.1), if_neg (by omega), hrest,
      List.append_assoc taken, List.singleton_append]

theorem readLineFrom_overlong (htaken : taken.length < stop)
    (h : ∀ line more, bytes reader = line ++ 10 :: more → 10 ∉ line →
      stop ≤ taken.length + line.length) :
    ∃ error rest, readLineFrom stop taken reader = (.error error, rest) := by
  induction hbytes : bytes reader generalizing taken reader with
  | nil =>
    obtain ⟨rest, hread⟩ := readByte_of_nil hbytes
    exact ⟨_, rest, readLineFrom_of_error hread⟩
  | cons c tail ih =>
    obtain ⟨next, hread, hmore, -⟩ := readByte_of_cons hbytes
    rw [readLineFrom_of_ok hread]
    have hlength : (taken ++ [c]).length = taken.length + 1 := by simp
    split
    next hc =>
      have := h [] tail (by rw [hbytes, hc, List.nil_append]) List.not_mem_nil
      rw [List.length_nil] at this
      omega
    next hc =>
      split
      next hstop => exact ⟨_, next, rfl⟩
      next hstop =>
        refine ih (by omega) (fun line more hline hnot => ?_) hmore
        have := h (c :: line) more (by rw [hbytes, ← hmore, hline, List.cons_append]) ?_
        · rw [List.length_cons] at this
          omega
        · rw [List.mem_cons, not_or]
          exact ⟨Ne.symm hc, hnot⟩

/-- A line that fits is read, and nothing behind it, however its bytes arrive. -/
theorem readLine_fits (stop : Nat) (hbytes : bytes reader = line ++ 10 :: more) (hline : 10 ∉ line)
    (hfits : line.length < stop) :
    ∃ rest, readLine stop reader = (.ok (line ++ [10]), rest) ∧ bytes rest = more ∧
      ending rest = ending reader :=
  readLineFrom_fits hbytes hline (by simpa using hfits)

theorem readLine_overlong (hstop : 0 < stop)
    (h : ∀ line more, bytes reader = line ++ 10 :: more → 10 ∉ line → stop ≤ line.length) :
    ∃ error rest, readLine stop reader = (.error error, rest) :=
  readLineFrom_overlong hstop fun line more hbytes hline => by simpa using h line more hbytes hline

theorem readLine_ok (hstop : 0 < stop) {taken : List UInt8}
    (h : readLine stop reader = (.ok taken, rest)) :
    ∃ line, taken = line ++ [10] ∧ bytes reader = line ++ 10 :: bytes rest ∧ 10 ∉ line ∧
      line.length < stop := by
  by_cases hline : ∃ line more, bytes reader = line ++ 10 :: more ∧ 10 ∉ line ∧ line.length < stop
  · obtain ⟨line, more, hbytes, hnot, hfits⟩ := hline
    obtain ⟨rest', hread, hmore, -⟩ := readLine_fits stop hbytes hnot hfits
    rw [hread] at h
    cases h
    exact ⟨line, rfl, hmore ▸ hbytes, hnot, hfits⟩
  · have hover : ∀ line more, bytes reader = line ++ 10 :: more → 10 ∉ line → stop ≤ line.length :=
      fun line more hbytes hnot => Nat.not_lt.mp fun hfits => hline ⟨line, more, hbytes, hnot, hfits⟩
    obtain ⟨error, rest', hread⟩ := readLine_overlong hstop hover
    rw [hread] at h
    cases h

end Lines

end Niralis.ChunkedReader
