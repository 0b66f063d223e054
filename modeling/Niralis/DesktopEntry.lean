import Mathlib.Data.List.Induction
import Niralis.KeyedTable
import Niralis.Text

namespace Niralis.DesktopEntry

section Values

/-- What stands for a backslash and the character after it. -/
def decodeEscape : Char → Option (List Char)
  | 's' => some [' ']
  | 'n' => some ['\n']
  | 't' => some ['\t']
  | 'r' => some ['\r']
  | '\\' => some ['\\']
  | '"' => some ['\\', '"']
  | '$' => some ['\\', '$']
  | '`' => some ['\\', '`']
  | _ => none

def decodeValue : List Char → Option (List Char)
  | [] => some []
  | [c] => if c = '\\' then none else some [c]
  | c :: next :: rest =>
    if c = '\\' then
      (decodeEscape next).bind fun decoded => (decodeValue rest).map (decoded ++ ·)
    else (decodeValue (next :: rest)).map (c :: ·)

/-- The escapes that the desktop entry format itself has. -/
def escapeChar : Char → List Char
  | ' ' => ['\\', 's']
  | '\n' => ['\\', 'n']
  | '\t' => ['\\', 't']
  | '\r' => ['\\', 'r']
  | '\\' => ['\\', '\\']
  | c => [c]

def escapeValue (text : List Char) : List Char := text.flatMap escapeChar

/-- Each backslash begins an escape that is known. -/
inductive WellEscaped : List Char → Prop
  | nil : WellEscaped []
  | plain {c : Char} {rest : List Char} (hc : c ≠ '\\') (hrest : WellEscaped rest) :
      WellEscaped (c :: rest)
  | escape {next : Char} {rest : List Char}
      (hnext : next ∈ ['s', 'n', 't', 'r', '\\', '"', '$', '`']) (hrest : WellEscaped rest) :
      WellEscaped ('\\' :: next :: rest)

variable {c next : Char} {rest value : List Char}

theorem decodeEscape_isSome :
    (decodeEscape next).isSome = true ↔ next ∈ ['s', 'n', 't', 'r', '\\', '"', '$', '`'] := by
  unfold decodeEscape
  split <;> simp_all

theorem decodeValue_plain (hc : c ≠ '\\') :
    decodeValue (c :: rest) = (decodeValue rest).map (c :: ·) := by
  cases rest with
  | nil => simp [decodeValue, hc]
  | cons next rest => simp [decodeValue, hc]

theorem decodeValue_escape :
    decodeValue ('\\' :: next :: rest) =
      (decodeEscape next).bind fun decoded => (decodeValue rest).map (decoded ++ ·) := by
  rw [decodeValue, if_pos rfl]

theorem decodeValue_append (h : WellEscaped value) :
    ∃ decoded, ∀ rest, decodeValue (value ++ rest) = (decodeValue rest).map (decoded ++ ·) := by
  induction h with
  | nil => exact ⟨[], fun rest => by simp⟩
  | @plain c value hc _ ih =>
    obtain ⟨decoded, hdecoded⟩ := ih
    refine ⟨c :: decoded, fun rest => ?_⟩
    rw [List.cons_append, decodeValue_plain hc, hdecoded rest, Option.map_map]
    rfl
  | @escape next value hnext _ ih =>
    obtain ⟨decoded, hdecoded⟩ := ih
    obtain ⟨first, hfirst⟩ := Option.isSome_iff_exists.mp (decodeEscape_isSome.mpr hnext)
    refine ⟨first ++ decoded, fun rest => ?_⟩
    rw [List.cons_append, List.cons_append, decodeValue_escape, hfirst, hdecoded rest,
      Option.bind_some, Option.map_map]
    exact congrArg (Option.map · (decodeValue rest))
      (funext fun text => (List.append_assoc first decoded text).symm)

/-- A value is rejected exactly for a backslash at its end or before a character that makes no
escape. -/
theorem decodeValue_eq_none_iff (value : List Char) :
    decodeValue value = none ↔ ∃ before, WellEscaped before ∧ (value = before ++ ['\\'] ∨
      ∃ next rest, next ∉ ['s', 'n', 't', 'r', '\\', '"', '$', '`'] ∧
        value = before ++ '\\' :: next :: rest) := by
  constructor
  · intro h
    induction value using decodeValue.induct with
    | case1 => cases h
    | case2 => exact ⟨[], .nil, Or.inl rfl⟩
    | case3 c hc =>
      rw [decodeValue_plain hc] at h
      cases h
    | case4 next rest ih =>
      rw [decodeValue_escape] at h
      cases hnext : decodeEscape next with
      | none =>
        refine ⟨[], .nil, Or.inr ⟨next, rest, fun hmem => ?_, rfl⟩⟩
        rw [← decodeEscape_isSome, hnext] at hmem
        cases hmem
      | some decoded =>
        rw [hnext, Option.bind_some, Option.map_eq_none_iff] at h
        have hmem := decodeEscape_isSome.mp (Option.isSome_iff_exists.mpr ⟨decoded, hnext⟩)
        obtain ⟨before, hbefore, hend | ⟨bad, after, hbad, hrest⟩⟩ := ih h
        · exact ⟨_, hbefore.escape hmem, Or.inl (by rw [hend]; rfl)⟩
        · exact ⟨_, hbefore.escape hmem, Or.inr ⟨bad, after, hbad, by rw [hrest]; rfl⟩⟩
    | case5 c next rest hc ih =>
      rw [decodeValue_plain hc, Option.map_eq_none_iff] at h
      obtain ⟨before, hbefore, hend | ⟨bad, after, hbad, hrest⟩⟩ := ih h
      · exact ⟨_, hbefore.plain hc, Or.inl (by rw [hend]; rfl)⟩
      · exact ⟨_, hbefore.plain hc, Or.inr ⟨bad, after, hbad, by rw [hrest]; rfl⟩⟩
  · rintro ⟨before, hbefore, rfl | ⟨next, rest, hnext, rfl⟩⟩
    · obtain ⟨decoded, hdecoded⟩ := decodeValue_append hbefore
      rw [hdecoded]
      rfl
    · obtain ⟨decoded, hdecoded⟩ := decodeValue_append hbefore
      have hnone : decodeEscape next = none :=
        Option.not_isSome_iff_eq_none.mp fun h => hnext (decodeEscape_isSome.mp h)
      rw [hdecoded, decodeValue_escape, hnone]
      rfl

theorem decodeValue_escapeValue (text : List Char) :
    decodeValue (escapeValue text) = some text := by
  induction text with
  | nil => rfl
  | cons c text ih =>
    have hhead : decodeValue (escapeChar c ++ escapeValue text) =
        (decodeValue (escapeValue text)).map (c :: ·) := by
      unfold escapeChar
      split
      · exact decodeValue_escape
      · exact decodeValue_escape
      · exact decodeValue_escape
      · exact decodeValue_escape
      · exact decodeValue_escape
      next hbackslash => exact decodeValue_plain hbackslash
    rw [escapeValue, List.flatMap_cons, ← escapeValue, hhead, ih, Option.map_some]

end Values

section Fields
open Text

def splitOnce (separator : Char) : List Char → Option (List Char × List Char)
  | [] => none
  | c :: rest =>
    if c = separator then some ([], rest)
    else (splitOnce separator rest).map fun (left, right) => (c :: left, right)

def isSkipped (line : List Char) : Bool :=
  line = [] || line.head? = some '#' || line.head? = some ';'

def isGroupHeader (line : List Char) : Bool :=
  line.head? = some '[' && line.getLast? = some ']'

def entryHeader : List Char := "[Desktop Entry]".toList

abbrev FieldTable : Type := KeyedTable (List Char) (List Char)

structure FieldsState where
  fields : FieldTable
  inDesktopEntry : Bool

def fieldLine (s : FieldsState) (line : List Char) : Option FieldsState :=
  if isSkipped line then some s
  else if isGroupHeader line then some { s with inDesktopEntry := line = entryHeader }
  else if !s.inDesktopEntry then some s
  else
    match splitOnce '=' line with
    | none => none
    | some (key, value) =>
      if trim key = [] then none
      else (decodeValue (trim value)).map fun decoded =>
        { s with fields := s.fields.insert (trim key) decoded }

def trimmedLines (raw : List Char) : List (List Char) := (lines raw).map trim

def desktopEntryFields (raw : List Char) : Option FieldTable :=
  ((trimmedLines raw).foldlM fieldLine ⟨.empty, false⟩).map (·.fields)

def requiredField (fields : FieldTable) (key : List Char) : Option (List Char) :=
  (fields.get key).bind fun value => if trim value = [] then none else some (trim value)

/-- A line that says something about the session: neither blank nor a comment nor a header, and the
last header before it opens the group `[Desktop Entry]`. -/
structure EntryLine (lines : List (List Char)) (i : Nat) (line : List Char) : Prop where
  found : lines[i]? = some line
  notSkipped : isSkipped line = false
  notHeader : isGroupHeader line = false
  group : ((lines.take i).filter isGroupHeader).getLast? = some entryHeader

/-- The line has an equals sign, a key before the first one and a value after it. -/
def IsFieldOf (line key decoded : List Char) : Prop :=
  ∃ left right, line = left ++ '=' :: right ∧ '=' ∉ left ∧ key = trim left ∧ key ≠ [] ∧
    decodeValue (trim right) = some decoded

variable {lines : List (List Char)} {line left right key decoded : List Char} {s : FieldsState}
  {i : Nat}

theorem splitOnce_eq_some_iff {separator : Char} {text : List Char} :
    splitOnce separator text = some (left, right) ↔
      text = left ++ separator :: right ∧ separator ∉ left := by
  induction text generalizing left with
  | nil => simp [splitOnce]
  | cons c text ih =>
    by_cases hc : c = separator
    · subst hc
      rw [splitOnce, if_pos rfl]
      constructor
      · rintro h
        cases h
        exact ⟨rfl, List.not_mem_nil⟩
      · rintro ⟨htext, hleft⟩
        cases left with
        | nil =>
          cases htext
          rfl
        | cons d left =>
          cases htext
          exact absurd List.mem_cons_self hleft
    · rw [splitOnce, if_neg hc, Option.map_eq_some_iff]
      constructor
      · rintro ⟨⟨left', right'⟩, hsplit, heq⟩
        cases heq
        obtain ⟨rfl, hleft⟩ := ih.mp hsplit
        exact ⟨rfl, List.not_mem_cons_of_ne_of_not_mem (Ne.symm hc) hleft⟩
      · rintro ⟨htext, hleft⟩
        cases left with
        | nil =>
          cases htext
          exact absurd rfl hc
        | cons d left =>
          cases htext
          exact ⟨(left, right), ih.mpr ⟨rfl, fun h => hleft (List.mem_cons_of_mem _ h)⟩, rfl⟩

theorem fieldLine_field (hskipped : isSkipped line = false) (hheader : isGroupHeader line = false)
    (hin : s.inDesktopEntry = true) :
    (fieldLine s line = none ∧ ∀ key decoded, ¬IsFieldOf line key decoded) ∨
      ∃ key decoded, IsFieldOf line key decoded ∧
        (∀ key' decoded', IsFieldOf line key' decoded' → key' = key ∧ decoded' = decoded) ∧
        fieldLine s line = some { s with fields := s.fields.insert key decoded } := by
  have hline : fieldLine s line = match splitOnce '=' line with
      | none => none
      | some (key, value) =>
        if trim key = [] then none
        else (decodeValue (trim value)).map fun decoded =>
          { s with fields := s.fields.insert (trim key) decoded } := by
    simp [fieldLine, hskipped, hheader, hin]
  rw [hline]
  -- the first equals sign decides where the key ends
  have hunique : ∀ key' decoded', IsFieldOf line key' decoded' → ∃ left right,
      splitOnce '=' line = some (left, right) ∧ key' = trim left ∧ key' ≠ [] ∧
        decodeValue (trim right) = some decoded' := by
    rintro key' decoded' ⟨left, right, hsplit, hleft, hkey, hne, hdecoded⟩
    exact ⟨left, right, splitOnce_eq_some_iff.mpr ⟨hsplit, hleft⟩, hkey, hne, hdecoded⟩
  cases hsplit : splitOnce '=' line with
  | none =>
    refine Or.inl ⟨rfl, fun key' decoded' h => ?_⟩
    obtain ⟨left, right, hfound, -⟩ := hunique key' decoded' h
    cases hsplit.symm.trans hfound
  | some parts =>
    obtain ⟨left, right⟩ := parts
    dsimp only
    by_cases hkey : trim left = []
    · rw [if_pos hkey]
      refine Or.inl ⟨rfl, fun key' decoded' h => ?_⟩
      obtain ⟨left', right', hfound, hkey', hne, -⟩ := hunique key' decoded' h
      cases hsplit.symm.trans hfound
      exact hne (hkey'.trans hkey)
    · rw [if_neg hkey]
      cases hdecoded : decodeValue (trim right) with
      | none =>
        refine Or.inl ⟨rfl, fun key' decoded' h => ?_⟩
        obtain ⟨left', right', hfound, -, -, hdecoded'⟩ := hunique key' decoded' h
        cases hsplit.symm.trans hfound
        cases hdecoded.symm.trans hdecoded'
      | some decoded =>
        obtain ⟨hsame, hleft⟩ := splitOnce_eq_some_iff.mp hsplit
        refine Or.inr ⟨trim left, decoded, ⟨left, right, hsame, hleft, rfl, hkey, hdecoded⟩,
          fun key' decoded' h => ?_, rfl⟩
        obtain ⟨left', right', hfound, hkey', -, hdecoded'⟩ := hunique key' decoded' h
        cases hsplit.symm.trans hfound
        exact ⟨hkey', Option.some.inj (hdecoded'.symm.trans hdecoded)⟩

/-- The last line is judged by the headers before it, and changes nothing for the others. -/
theorem entryLine_append (lines : List (List Char)) (last : List Char) (i : Nat)
    (line : List Char) :
    EntryLine (lines ++ [last]) i line ↔ EntryLine lines i line ∨
      (i = lines.length ∧ line = last ∧ isSkipped last = false ∧ isGroupHeader last = false ∧
        (lines.filter isGroupHeader).getLast? = some entryHeader) := by
  constructor
  · rintro ⟨hfound, hskipped, hheader, hgroup⟩
    by_cases hi : i < lines.length
    · rw [List.getElem?_append_left hi] at hfound
      rw [List.take_append_of_le_length (Nat.le_of_lt hi)] at hgroup
      exact Or.inl ⟨hfound, hskipped, hheader, hgroup⟩
    · have hlast : i = lines.length := by
        have := (List.getElem?_eq_some_iff.mp hfound).1
        rw [List.length_append, List.length_singleton] at this
        omega
      subst hlast
      rw [List.getElem?_concat_length] at hfound
      rw [List.take_left] at hgroup
      cases hfound
      exact Or.inr ⟨rfl, rfl, hskipped, hheader, hgroup⟩
  · rintro (⟨hfound, hskipped, hheader, hgroup⟩ | ⟨rfl, rfl, hskipped, hheader, hgroup⟩)
    · have hi : i < lines.length := (List.getElem?_eq_some_iff.mp hfound).1
      refine ⟨?_, hskipped, hheader, ?_⟩
      · rwa [List.getElem?_append_left hi]
      · rwa [List.take_append_of_le_length (Nat.le_of_lt hi)]
    · refine ⟨List.getElem?_concat_length, hskipped, hheader, ?_⟩
      rwa [List.take_left]

def IsLastField (lines : List (List Char)) (key decoded : List Char) : Prop :=
  ∃ i line, EntryLine lines i line ∧ IsFieldOf line key decoded ∧
    ∀ j line', i < j → EntryLine lines j line' → ∀ decoded', ¬IsFieldOf line' key decoded'

structure HasRead (lines : List (List Char)) (s : FieldsState) : Prop where
  group : s.inDesktopEntry = true ↔ (lines.filter isGroupHeader).getLast? = some entryHeader
  accepted : ∀ i line, EntryLine lines i line → ∃ key decoded, IsFieldOf line key decoded
  get : ∀ key decoded, s.fields.get key = some decoded ↔ IsLastField lines key decoded

theorem isLastField_congr {lines' : List (List Char)}
    (h : ∀ i line, EntryLine lines' i line ↔ EntryLine lines i line) :
    IsLastField lines' key decoded ↔ IsLastField lines key decoded := by
  simp only [IsLastField, h]

theorem HasRead.other (h : HasRead lines s) {inEntry : Bool}
    (hgroup : inEntry = true ↔
      ((lines ++ [line]).filter isGroupHeader).getLast? = some entryHeader)
    (hsame : ∀ i line', EntryLine (lines ++ [line]) i line' ↔ EntryLine lines i line') :
    HasRead (lines ++ [line]) { s with inDesktopEntry := inEntry } where
  group := hgroup
  accepted i line' hline := h.accepted i line' ((hsame i line').mp hline)
  get key decoded := (h.get key decoded).trans (isLastField_congr hsame).symm

theorem HasRead.field (h : HasRead lines s) (hskipped : isSkipped line = false)
    (hheader : isGroupHeader line = false) (hin : s.inDesktopEntry = true)
    (hfield : IsFieldOf line key decoded)
    (hunique : ∀ key' decoded', IsFieldOf line key' decoded' → key' = key ∧ decoded' = decoded) :
    HasRead (lines ++ [line]) { s with fields := s.fields.insert key decoded } := by
  have hgroup := h.group.mp hin
  have hlast : EntryLine (lines ++ [line]) lines.length line :=
    (entryLine_append _ _ _ _).mpr (Or.inr ⟨rfl, rfl, hskipped, hheader, hgroup⟩)
  have hcases : ∀ j line', EntryLine (lines ++ [line]) j line' →
      EntryLine lines j line' ∨ (j = lines.length ∧ line' = line) := fun j line' hj =>
    ((entryLine_append _ _ _ _).mp hj).imp id fun hnew => ⟨hnew.1, hnew.2.1⟩
  have hbefore : ∀ j line', EntryLine lines j line' → j < lines.length := fun j line' hj =>
    (List.getElem?_eq_some_iff.mp hj.found).1
  refine ⟨?_, fun i line' hline => ?_, fun key' decoded' => ?_⟩
  · rw [List.filter_append, List.filter_singleton, hheader]
    simpa using h.group
  · rcases hcases i line' hline with hold | ⟨-, rfl⟩
    · exact h.accepted i line' hold
    · exact ⟨key, decoded, hfield⟩
  -- the new line is the last of its own key, and no line of another
  · by_cases hkey : key' = key
    · subst hkey
      show (s.fields.insert key' decoded).get key' = some decoded' ↔ _
      rw [KeyedTable.get_insert_self]
      constructor
      · rintro heq
        cases heq
        refine ⟨lines.length, line, hlast, hfield, fun j line' hj hline => ?_⟩
        rcases hcases j line' hline with hold | ⟨rfl, -⟩
        · exact absurd hj (Nat.not_lt_of_lt (hbefore j line' hold))
        · exact absurd hj (Nat.lt_irrefl _)
      · rintro ⟨i, line', hline, hfield', hlater⟩
        rcases hcases i line' hline with hold | ⟨-, rfl⟩
        · exact absurd hfield (hlater _ _ (hbefore i line' hold) hlast decoded)
        · rw [(hunique _ _ hfield').2]
    · show (s.fields.insert key decoded).get key' = some decoded' ↔ _
      rw [KeyedTable.get_insert_of_ne hkey, h.get]
      have hnot : ∀ decoded', ¬IsFieldOf line key' decoded' := fun decoded' hfield' =>
        hkey (hunique _ _ hfield').1
      constructor
      · rintro ⟨i, line', hline, hfield', hlater⟩
        refine ⟨i, line', (entryLine_append _ _ _ _).mpr (Or.inl hline), hfield',
          fun j line'' hj hline' => ?_⟩
        rcases hcases j line'' hline' with hold | ⟨-, rfl⟩
        · exact hlater j line'' hj hold
        · exact hnot
      · rintro ⟨i, line', hline, hfield', hlater⟩
        rcases hcases i line' hline with hold | ⟨-, rfl⟩
        · refine ⟨i, line', hold, hfield', fun j line'' hj hline' => ?_⟩
          exact hlater j line'' hj ((entryLine_append _ _ _ _).mpr (Or.inl hline'))
        · exact absurd hfield' (hnot decoded')

theorem hasRead_nil : HasRead [] ⟨.empty, false⟩ := by
  have hnone : ∀ i line, ¬EntryLine [] i line := fun i line h => by
    cases h.found
  refine ⟨by simp, fun i line h => absurd h (hnone i line), fun key decoded => ?_⟩
  constructor
  · exact fun h => nomatch h
  · rintro ⟨i, line, h, -⟩
    exact absurd h (hnone i line)

theorem HasRead.next_line (h : HasRead lines s) (line : List Char) :
    (∃ s', fieldLine s line = some s' ∧ HasRead (lines ++ [line]) s') ∨
      (fieldLine s line = none ∧ EntryLine (lines ++ [line]) lines.length line ∧
        ∀ key decoded, ¬IsFieldOf line key decoded) := by
  -- a line that is no field of the group leaves the fields as they are
  have hsplit : ∀ inEntry, (inEntry = true ↔
      ((lines ++ [line]).filter isGroupHeader).getLast? = some entryHeader) →
      (isSkipped line = true ∨ isGroupHeader line = true ∨ s.inDesktopEntry = false) →
      HasRead (lines ++ [line]) { s with inDesktopEntry := inEntry } := by
    intro inEntry hgroup hother
    refine h.other hgroup fun i line' => ?_
    rw [entryLine_append]
    refine or_iff_left ?_
    rintro ⟨-, -, hskipped, hheader, hentry⟩
    rcases hother with hbad | hbad | hbad
    · rw [hskipped] at hbad
      cases hbad
    · rw [hheader] at hbad
      cases hbad
    · rw [h.group.mpr hentry] at hbad
      cases hbad
  have hsameGroup : isGroupHeader line = false → (s.inDesktopEntry = true ↔
      ((lines ++ [line]).filter isGroupHeader).getLast? = some entryHeader) := by
    intro hheader
    rw [List.filter_append, List.filter_singleton, hheader]
    simpa using h.group
  by_cases hskipped : isSkipped line = true
  · have hheader : isGroupHeader line = false := by
      cases line with
      | nil => rfl
      | cons c rest =>
        simp only [isSkipped, List.head?_cons, Option.some.injEq, Bool.or_eq_true,
          decide_eq_true_eq, reduceCtorEq, false_or] at hskipped
        rcases hskipped with rfl | rfl <;> rfl
    exact Or.inl ⟨s, by simp [fieldLine, hskipped],
      hsplit s.inDesktopEntry (hsameGroup hheader) (Or.inl hskipped)⟩
  · by_cases hheader : isGroupHeader line = true
    · refine Or.inl ⟨{ s with inDesktopEntry := line = entryHeader },
        by simp [fieldLine, hskipped, hheader], hsplit _ ?_ (Or.inr (Or.inl hheader))⟩
      rw [List.filter_append, List.filter_singleton, hheader]
      simp
    · rw [Bool.not_eq_true] at hskipped hheader
      cases hin : s.inDesktopEntry with
      | false =>
        refine Or.inl ⟨s, by simp [fieldLine, hskipped, hheader, hin], ?_⟩
        exact hsplit s.inDesktopEntry (hsameGroup hheader) (Or.inr (Or.inr hin))
      | true =>
        rcases fieldLine_field hskipped hheader hin with ⟨hnone, hbad⟩ |
          ⟨key, decoded, hfield, hunique, hsome⟩
        · refine Or.inr ⟨hnone, (entryLine_append _ _ _ _).mpr (Or.inr ?_), hbad⟩
          exact ⟨rfl, rfl, hskipped, hheader, h.group.mp hin⟩
        · exact Or.inl ⟨_, hsome, h.field hskipped hheader hin hfield hunique⟩

/-- The loop ends with all lines read, or at a line of the group that is no field. -/
theorem foldlM_fieldLine (lines : List (List Char)) :
    (∃ s, lines.foldlM fieldLine ⟨.empty, false⟩ = some s ∧ HasRead lines s) ∨
      (lines.foldlM fieldLine ⟨.empty, false⟩ = none ∧ ∃ i line, EntryLine lines i line ∧
        ∀ key decoded, ¬IsFieldOf line key decoded) := by
  induction lines using List.reverseRecOn with
  | nil => exact Or.inl ⟨_, rfl, hasRead_nil⟩
  | append_singleton lines line ih =>
    rw [List.foldlM_append]
    rcases ih with ⟨s, hs, hread⟩ | ⟨hnone, i, bad, hbad, hnot⟩
    · rw [hs]
      rcases hread.next_line line with ⟨s', hs', hread'⟩ | ⟨hnone, hlast, hnot⟩
      · exact Or.inl ⟨s', by simp [hs'], hread'⟩
      · exact Or.inr ⟨by simp [hnone], _, line, hlast, hnot⟩
    · rw [hnone]
      exact Or.inr ⟨rfl, i, bad, (entryLine_append _ _ _ _).mpr (Or.inl hbad), hnot⟩

/-- The fields of a file: there are some exactly when every line of the group is one, each key has
the value of its last line and comes from the group, and values are decoded by undoing the
escapes. -/
theorem desktopEntryFields_spec (raw : List Char) :
    ((desktopEntryFields raw).isSome = true ↔ ∀ i line, EntryLine (trimmedLines raw) i line →
      ∃ key decoded, IsFieldOf line key decoded) ∧
    (∀ fields, desktopEntryFields raw = some fields → ∀ key decoded,
      fields.get key = some decoded ↔ IsLastField (trimmedLines raw) key decoded) ∧
    (∀ text, decodeValue (escapeValue text) = some text) ∧
    ∀ value, decodeValue value = none ↔ ∃ before, WellEscaped before ∧
      (value = before ++ ['\\'] ∨
        ∃ next rest, next ∉ ['s', 'n', 't', 'r', '\\', '"', '$', '`'] ∧
          value = before ++ '\\' :: next :: rest) := by
  refine ⟨?_, fun fields hfields => ?_, decodeValue_escapeValue, decodeValue_eq_none_iff⟩
  · unfold desktopEntryFields
    rcases foldlM_fieldLine (trimmedLines raw) with ⟨s, hs, hread⟩ | ⟨hnone, i, bad, hbad, hnot⟩
    · rw [hs]
      exact iff_of_true rfl hread.accepted
    · rw [hnone]
      refine iff_of_false Bool.false_ne_true fun hall => ?_
      obtain ⟨key, decoded, hfield⟩ := hall i bad hbad
      exact hnot key decoded hfield
  · unfold desktopEntryFields at hfields
    rcases foldlM_fieldLine (trimmedLines raw) with ⟨s, hs, hread⟩ | ⟨hnone, -⟩
    · rw [hs] at hfields
      cases hfields
      exact hread.get
    · rw [hnone] at hfields
      cases hfields

end Fields

end Niralis.DesktopEntry
