import Niralis.DesktopEntry
import Niralis.ExecTokens

namespace Niralis.SessionCommand
open DesktopEntry ExecTokens Text

section Writing

def quoteChar (c : Char) : List Char :=
  if isEscaped c then ['\\', c] else if c = '%' then ['%', '%'] else [c]

def quoteArg (arg : List Char) : List Char := '"' :: (arg.flatMap quoteChar ++ ['"'])

/-- The arguments in quotes, each but the first after one space and so many more. -/
def renderExec (first : List Char) (following : List (Nat × List Char)) : List Char :=
  quoteArg first ++
    following.flatMap fun (more, arg) => ' ' :: (List.replicate more ' ' ++ quoteArg arg)

def doubleBackslashes (text : List Char) : List Char :=
  text.flatMap fun c => if c = '\\' then ['\\', '\\'] else [c]

def execKey : List Char := "Exec".toList

def execLine (exec : List Char) : List Char := execKey ++ '=' :: doubleBackslashes exec

def fileText (before : List (List Char)) : List Char := before.flatMap (· ++ ['\n'])

/-- A file with some lines, the `Exec` line, and what follows it: the line is in the group
`[Desktop Entry]`, the other lines there are well formed, and none after it is for its key. -/
structure SessionFile (before : List (List Char)) (line rest : List Char) : Prop where
  noBreaks : ∀ other ∈ before, '\n' ∉ other
  nextLine : rest = [] ∨ rest.head? = some '\n'
  inGroup : ((before.map trim).filter isGroupHeader).getLast? = some entryHeader
  wellFormed : ∀ i other, EntryLine (trimmedLines (fileText before ++ line ++ rest)) i other →
    i ≠ before.length → ∃ key decoded, IsFieldOf other key decoded
  last : ∀ i other, EntryLine (trimmedLines (fileText before ++ line ++ rest)) i other →
    before.length < i → ∀ decoded, ¬IsFieldOf other execKey decoded

end Writing

section Lines
variable {line rest text : List Char} {before : List (List Char)}

theorem linesFrom_line (hline : '\n' ∉ line) (current rest : List Char) :
    linesFrom current (line ++ '\n' :: rest) =
      stripCarriageReturn (current ++ line) :: linesFrom [] rest := by
  induction line generalizing current with
  | nil => simp [linesFrom]
  | cons c line ih =>
    have hc : c ≠ '\n' := fun h => hline (h ▸ List.mem_cons_self)
    rw [List.cons_append, linesFrom, if_neg hc, ih fun h => hline (List.mem_cons_of_mem _ h)]
    simp

theorem linesFrom_last (hline : '\n' ∉ line) (current : List Char) (hne : current ++ line ≠ []) :
    linesFrom current line = [current ++ line] := by
  induction line generalizing current with
  | nil =>
    rw [List.append_nil] at hne ⊢
    rw [linesFrom, if_neg hne]
  | cons c line ih =>
    have hc : c ≠ '\n' := fun h => hline (h ▸ List.mem_cons_self)
    rw [linesFrom, if_neg hc, ih (fun h => hline (List.mem_cons_of_mem _ h)) _ (by simp)]
    simp

theorem lines_fileText (h : ∀ other ∈ before, '\n' ∉ other) (rest : List Char) :
    lines (fileText before ++ rest) = before.map stripCarriageReturn ++ lines rest := by
  induction before with
  | nil => rfl
  | cons line before ih =>
    have hline : '\n' ∉ line := h line List.mem_cons_self
    have hfile : fileText (line :: before) ++ rest = line ++ '\n' :: (fileText before ++ rest) := by
      simp [fileText]
    rw [hfile, lines, linesFrom_line hline, List.nil_append]
    exact congrArg (stripCarriageReturn line :: ·)
      (ih fun other hother => h other (List.mem_cons_of_mem _ hother))

theorem trim_append_whitespace {c : Char} (hc : isWhitespace c = true) (text : List Char) :
    trim (text ++ [c]) = trim text := by
  unfold trim
  rw [List.dropWhile_append]
  split
  next hempty =>
    have hnil : text.dropWhile isWhitespace = [] := List.isEmpty_iff.mp hempty
    simp [hnil, hc]
  · rw [List.reverse_append]
    simp [hc]

theorem trim_stripCarriageReturn (line : List Char) : trim (stripCarriageReturn line) = trim line := by
  unfold stripCarriageReturn
  split
  next hlast =>
    have hsplit : line = line.dropLast ++ ['\r'] :=
      (List.dropLast_append_getLast? '\r' hlast).symm
    conv_rhs => rw [hsplit]
    exact (trim_append_whitespace (by decide) _).symm
  · rfl

theorem trim_of_ends {a b : Char} {middle : List Char} (ha : isWhitespace a = false)
    (hb : isWhitespace b = false) : trim (a :: (middle ++ [b])) = a :: (middle ++ [b]) := by
  unfold trim
  rw [List.dropWhile_cons_of_neg (by simp [ha])]
  have hreverse : (a :: (middle ++ [b])).reverse = b :: (a :: middle).reverse := by simp
  rw [hreverse, List.dropWhile_cons_of_neg (by simp [hb]), ← hreverse, List.reverse_reverse]

end Lines

section Rendered
variable {arg first exec : List Char} {following : List (Nat × List Char)}

theorem spells_quoteChar {c : Char} (hc : isControl c = false) {raw arg : List Char}
    (h : Spells true raw arg false) : Spells true (quoteChar c ++ raw) (c :: arg) false := by
  unfold quoteChar
  split
  next hescaped => exact .escape hescaped h
  next hnot =>
    split
    next hpercent =>
      subst hpercent
      exact .percent h
    next hpercent =>
      refine .quotedPlain (isPlain_iff.mpr ⟨hc, ?_, ?_, hpercent⟩) h
      · rintro rfl
        exact hnot (by decide)
      · rintro rfl
        exact hnot (by decide)

theorem spells_quoteArg (h : ∀ c ∈ arg, isControl c = false) :
    Spells false (quoteArg arg) arg false := by
  refine .openQuote ?_
  induction arg with
  | nil => exact .closeQuote (.nil false)
  | cons c arg ih =>
    rw [List.flatMap_cons, List.append_assoc]
    exact spells_quoteChar (h c List.mem_cons_self)
      (ih fun d hd => h d (List.mem_cons_of_mem _ hd))

theorem renders_spaces {rest : List Char} {argv : List (List Char)} (h : Renders rest argv)
    (n : Nat) : Renders (List.replicate n ' ' ++ rest) argv := by
  induction n with
  | zero => exact h
  | succ n ih => exact .space ih

theorem renders_renderExec
    (h : ∀ arg ∈ first :: following.map Prod.snd, ∀ c ∈ arg, isControl c = false) :
    Renders (renderExec first following) (first :: following.map Prod.snd) := by
  induction following generalizing first with
  | nil =>
    exact .word (by simp [quoteArg]) (spells_quoteArg (h first List.mem_cons_self)) (Or.inl rfl) .nil
  | cons next following ih =>
    obtain ⟨more, arg⟩ := next
    have hrest := @ih arg fun a ha => h a (List.mem_cons_of_mem _ ha)
    have htext : renderExec first ((more, arg) :: following) =
        quoteArg first ++ ' ' :: (List.replicate more ' ' ++ renderExec arg following) := by
      simp [renderExec]
    rw [htext]
    exact .word (by simp [quoteArg]) (spells_quoteArg (h first List.mem_cons_self))
      (Or.inr ⟨_, rfl⟩) (.space (renders_spaces hrest more))

theorem renderExec_ends (first : List Char) (following : List (Nat × List Char)) :
    ∃ middle, renderExec first following = '"' :: (middle ++ ['"']) := by
  induction following generalizing first with
  | nil => exact ⟨first.flatMap quoteChar, by simp [renderExec, quoteArg]⟩
  | cons next following ih =>
    obtain ⟨more, arg⟩ := next
    obtain ⟨middle, hmiddle⟩ := ih arg
    refine ⟨first.flatMap quoteChar ++ '"' :: ' ' :: (List.replicate more ' ' ++ '"' :: middle), ?_⟩
    have htext : renderExec first ((more, arg) :: following) =
        quoteArg first ++ ' ' :: (List.replicate more ' ' ++ renderExec arg following) := by
      simp [renderExec]
    rw [htext, hmiddle]
    simp [quoteArg]

theorem decodeValue_doubleBackslashes (text : List Char) :
    decodeValue (doubleBackslashes text) = some text := by
  induction text with
  | nil => rfl
  | cons c text ih =>
    rw [doubleBackslashes, List.flatMap_cons, ← doubleBackslashes]
    split
    next hc =>
      subst hc
      rw [List.cons_append, List.cons_append, List.nil_append, decodeValue_escape, ih]
      rfl
    next hc =>
      rw [List.cons_append, List.nil_append, decodeValue_plain hc, ih, Option.map_some]

theorem mem_of_mem_doubleBackslashes {c : Char} {text : List Char}
    (h : c ∈ doubleBackslashes text) : c ∈ text := by
  obtain ⟨d, hd, hc⟩ := List.mem_flatMap.mp h
  split at hc
  next hbackslash =>
    have hsame : c = d := by simpa [hbackslash] using hc
    exact hsame ▸ hd
  · exact List.mem_singleton.mp hc ▸ hd

theorem doubleBackslashes_ends (middle : List Char) :
    doubleBackslashes ('"' :: (middle ++ ['"'])) =
      '"' :: (doubleBackslashes middle ++ ['"']) := by
  simp [doubleBackslashes]

theorem execLine_ends {middle : List Char} (hexec : exec = '"' :: (middle ++ ['"'])) :
    ∃ inner, execLine exec = 'E' :: (inner ++ ['"']) := by
  refine ⟨['x', 'e', 'c', '=', '"'] ++ doubleBackslashes middle, ?_⟩
  rw [execLine, hexec, doubleBackslashes_ends]
  rfl

theorem isFieldOf_execLine {middle : List Char} (hexec : exec = '"' :: (middle ++ ['"'])) :
    IsFieldOf (execLine exec) execKey exec := by
  refine ⟨execKey, doubleBackslashes exec, rfl, by decide, by decide, by decide, ?_⟩
  have htrim : trim (doubleBackslashes exec) = doubleBackslashes exec := by
    rw [hexec, doubleBackslashes_ends]
    exact trim_of_ends (by decide) (by decide)
  rw [htrim]
  exact decodeValue_doubleBackslashes exec

end Rendered

section File
variable {before : List (List Char)} {line rest first : List Char}
  {following : List (Nat × List Char)}

theorem trimmedLines_file (h : SessionFile before line rest) {inner : List Char}
    (hline : line = 'E' :: (inner ++ ['"'])) (hbreak : '\n' ∉ line) :
    ∃ after, trimmedLines (fileText before ++ line ++ rest) =
      before.map trim ++ line :: after := by
  have hstrip : stripCarriageReturn line = line := by
    have hlast : line.getLast? = some '"' := by
      rw [hline, ← List.cons_append, List.getLast?_concat]
    simp [stripCarriageReturn, hlast]
  have htrim : trim line = line := by
    rw [hline]
    exact trim_of_ends (by decide) (by decide)
  have hbefore : (before.map stripCarriageReturn).map trim = before.map trim := by
    rw [List.map_map]
    exact List.map_congr_left fun other _ => trim_stripCarriageReturn other
  have htext : trimmedLines (fileText before ++ line ++ rest) =
      before.map trim ++ (lines (line ++ rest)).map trim := by
    rw [trimmedLines, List.append_assoc, lines_fileText h.noBreaks, List.map_append, hbefore]
  rw [htext]
  rcases h.nextLine with rfl | hnext
  · refine ⟨[], ?_⟩
    rw [List.append_nil, lines, linesFrom_last hbreak [] (by simp [hline]), List.nil_append]
    simp [htrim]
  · obtain ⟨after, rfl⟩ : ∃ after, rest = '\n' :: after := by
      cases rest with
      | nil => cases hnext
      | cons c after =>
        cases hnext
        exact ⟨after, rfl⟩
    refine ⟨(linesFrom [] after).map trim, ?_⟩
    rw [lines, linesFrom_line hbreak, List.nil_append, hstrip, List.map_cons, htrim]

theorem exec_of_file {exec middle : List Char} (hexec : exec = '"' :: (middle ++ ['"']))
    (hbreak : '\n' ∉ execLine exec) (h : SessionFile before (execLine exec) rest) :
    ∃ fields, desktopEntryFields (fileText before ++ execLine exec ++ rest) = some fields ∧
      requiredField fields execKey = some exec := by
  obtain ⟨inner, hline⟩ := execLine_ends hexec
  obtain ⟨after, hlines⟩ := trimmedLines_file h hline hbreak
  have hfield := isFieldOf_execLine hexec
  have hfound : (before.map trim ++ execLine exec :: after)[before.length]? =
      some (execLine exec) := by
    rw [List.getElem?_append_right (by simp)]
    simp
  have hentry : EntryLine (trimmedLines (fileText before ++ execLine exec ++ rest)) before.length
      (execLine exec) := by
    refine ⟨?_, ?_, ?_, ?_⟩
    · rw [hlines]
      exact hfound
    · rw [hline]
      rfl
    · rw [hline]
      rfl
    · rw [hlines, List.take_left' (by simp)]
      exact h.inGroup
  -- the loop stops early only at a line that is no field, and this file has none
  rcases foldlM_fieldLine (trimmedLines (fileText before ++ execLine exec ++ rest)) with
    ⟨s, hs, hread⟩ | ⟨-, i, other, hother, hnot⟩
  · have hget : s.fields.get execKey = some exec :=
      (hread.get execKey exec).mpr ⟨before.length, execLine exec, hentry, hfield,
        fun j other hj hother decoded => h.last j other hother hj decoded⟩
    have htrim : trim exec = exec := by
      rw [hexec]
      exact trim_of_ends (by decide) (by decide)
    refine ⟨s.fields, by rw [desktopEntryFields, hs]; rfl, ?_⟩
    rw [requiredField, hget, Option.bind_some, htrim, if_neg (by simp [hexec])]
  · exfalso
    by_cases hi : i = before.length
    · subst hi
      have hsame : other = execLine exec := by
        have hother' := hother.found
        rw [hlines, hfound] at hother'
        exact (Option.some.inj hother').symm
      exact hnot execKey exec (hsame ▸ hfield)
    · obtain ⟨key, decoded, hwell⟩ := h.wellFormed i other hother hi
      exact hnot key decoded hwell

end File

section Percent
variable {text raw arg : List Char} {argv : List (List Char)} {quoted after : Bool}

/-- The text cut into pieces that each stand for at most one character of the arguments, and for a
percent sign only where there were two. -/
def Pieces (text output : List Char) : Prop :=
  ∃ pieces : List (List Char × List Char), pieces.flatMap Prod.fst = text ∧
    pieces.flatMap Prod.snd = output ∧
      ∀ piece ∈ pieces, piece.2.length ≤ 1 ∧ ('%' ∈ piece.2 → piece.1 = ['%', '%'])

theorem Pieces.cons {output : List Char} (h : Pieces text output) (source meant : List Char)
    (hlength : meant.length ≤ 1) (hpercent : '%' ∈ meant → source = ['%', '%']) :
    Pieces (source ++ text) (meant ++ output) := by
  obtain ⟨pieces, rfl, rfl, hall⟩ := h
  exact ⟨(source, meant) :: pieces, rfl, rfl,
    List.forall_mem_cons.mpr ⟨⟨hlength, hpercent⟩, hall⟩⟩

theorem Pieces.append {text' output output' : List Char} (h : Pieces text output)
    (h' : Pieces text' output') : Pieces (text ++ text') (output ++ output') := by
  obtain ⟨pieces, rfl, rfl, hall⟩ := h
  obtain ⟨pieces', rfl, rfl, hall'⟩ := h'
  exact ⟨pieces ++ pieces', List.flatMap_append, List.flatMap_append,
    List.forall_mem_append.mpr ⟨hall, hall'⟩⟩

theorem pieces_nil : Pieces [] [] := ⟨[], rfl, rfl, by simp⟩

theorem pieces_of_spells (h : Spells quoted raw arg after) : Pieces raw arg := by
  have hone : ∀ {c : Char}, c ≠ '%' → '%' ∈ [c] → ∀ source : List Char, source = ['%', '%'] := by
    intro c hc hmem
    exact absurd (List.mem_singleton.mp hmem).symm hc
  induction h with
  | nil => exact pieces_nil
  | openQuote h ih => exact ih.cons ['"'] [] (by decide) (by simp)
  | closeQuote h ih => exact ih.cons ['"'] [] (by decide) (by simp)
  | @escape c raw arg after hc h ih =>
    have hne : c ≠ '%' := by
      rintro rfl
      exact absurd hc (by decide)
    exact ih.cons ['\\', c] [c] (Nat.le_refl _) fun hmem => hone hne hmem _
  | percent h ih =>
    exact ih.cons ['%', '%'] ['%'] (Nat.le_refl _) fun _ => rfl
  | @quotedPlain c raw arg after hc h ih =>
    exact ih.cons [c] [c] (Nat.le_refl _)
      fun hmem => hone (isPlain_iff.mp hc).2.2.2 hmem _
  | @plain c raw arg after hc hspace h ih =>
    exact ih.cons [c] [c] (Nat.le_refl _)
      fun hmem => hone (isPlain_iff.mp hc).2.2.2 hmem _

theorem pieces_of_renders (h : Renders text argv) : Pieces text argv.flatten := by
  induction h with
  | nil => exact pieces_nil
  | space h ih => exact ih.cons [' '] [] (by decide) (by simp)
  | word hraw hword hend h ih => exact (pieces_of_spells hword).append ih

end Percent

/-- A vector of arguments without control characters, within the limits, is read back from a session
file whose last `Exec` line was written for it; and whatever text is accepted, the vector is not
empty and within its limits, and has a percent sign only where the text had two. -/
theorem command_read_back :
    (∀ (before : List (List Char)) (rest first : List Char) (following : List (Nat × List Char)),
      (∀ arg ∈ first :: following.map Prod.snd, ∀ c ∈ arg, isControl c = false) →
      (first :: following.map Prod.snd).length ≤ maxArgc →
      (∀ arg ∈ first :: following.map Prod.snd, utf8Length arg ≤ maxArgBytes) →
      utf8Length (renderExec first following) ≤ maxExecBytes →
      SessionFile before (execLine (renderExec first following)) rest →
      ∃ fields exec, desktopEntryFields
          (fileText before ++ execLine (renderExec first following) ++ rest) = some fields ∧
        requiredField fields execKey = some exec ∧
        parseExec exec = some (first :: following.map Prod.snd)) ∧
    ∀ text argv, parseExec text = some argv →
      argv ≠ [] ∧ argv.length ≤ maxArgc ∧ (∀ arg ∈ argv, utf8Length arg ≤ maxArgBytes) ∧
        (argv.map (utf8Length · + 1)).sum ≤ maxArgvBytes ∧ Pieces text argv.flatten := by
  constructor
  · intro before rest first following hcontrol hcount hargs hlength hfile
    have hrenders := renders_renderExec hcontrol
    obtain ⟨middle, hexec⟩ := renderExec_ends first following
    have hbreak : '\n' ∉ execLine (renderExec first following) := by
      intro hmem
      rcases List.mem_append.mp hmem with hkey | hvalue
      · exact absurd hkey (by decide)
      · rcases List.mem_cons.mp hvalue with hequals | hvalue
        · cases hequals
        · have := hrenders.not_control _ (mem_of_mem_doubleBackslashes hvalue)
          exact absurd this (by decide)
    obtain ⟨fields, hfields, hrequired⟩ := exec_of_file hexec hbreak hfile
    exact ⟨fields, _, hfields, hrequired,
      parseExec_eq_some_iff.mpr ⟨hrenders, by simp, hlength, hcount, hargs⟩⟩
  · intro text argv h
    obtain ⟨hrenders, hne, hlength, hfits⟩ := parseExec_eq_some_iff.mp h
    exact ⟨hne, hfits.count, hfits.args, hrenders.total_le hlength hfits.count,
      pieces_of_renders hrenders⟩

section Sample

/-- Another group with an `Exec` line of its own comes before the session's, and one more after it. -/
def linesBefore : List (List Char) :=
  ["[Desktop Action new]".toList, "Exec=other".toList, "[Desktop Entry]".toList,
    "Name=Sway".toList]

def textAfter : List Char := "\n[Desktop Action exit]\nExec=last".toList

/-- Two arguments, the second with a percent sign, a space, a quote and a backslash. -/
def swayExec : List Char := renderExec "sway".toList [(1, "50% \"\\".toList)]

def swayLines : List (List Char) :=
  linesBefore ++ [execLine swayExec, "[Desktop Action exit]".toList, "Exec=last".toList]

theorem trimmedLines_sway :
    trimmedLines (fileText linesBefore ++ execLine swayExec ++ textAfter) = swayLines := by
  decide +kernel

/-- Beside the command there is one line that says something about the session. -/
theorem entryLine_sway {i : Nat} {other : List Char} (h : EntryLine swayLines i other) :
    (i = 3 ∧ other = "Name=Sway".toList) ∨ i = 4 := by
  have hlines : ∀ i < 7, (swayLines[i]?.all fun other => isGroupHeader other ||
      decide (((swayLines.take i).filter isGroupHeader).getLast? ≠ some entryHeader) ||
      decide ((i = 3 ∧ other = "Name=Sway".toList) ∨ i = 4)) = true := by decide +kernel
  have hlength : swayLines.length = 7 := by decide +kernel
  have hi : i < 7 := hlength ▸ (List.getElem?_eq_some_iff.mp h.found).1
  have hline := hlines i hi
  rw [h.found, Option.all_some, h.notHeader, h.group] at hline
  simp only [Bool.false_or, Bool.or_eq_true, decide_eq_true_eq, ne_eq, not_true_eq_false,
    false_or] at hline
  exact hline

theorem sessionFile_sway : SessionFile linesBefore (execLine swayExec) textAfter := by
  refine ⟨by decide, Or.inr rfl, by decide +kernel, ?_, ?_⟩
  · rw [trimmedLines_sway]
    intro i other hentry hne
    rcases entryLine_sway hentry with ⟨-, rfl⟩ | rfl
    · exact ⟨"Name".toList, "Sway".toList, "Name".toList, "Sway".toList, rfl, by decide, rfl,
        by decide, rfl⟩
    · exact absurd rfl hne
  · rw [trimmedLines_sway]
    intro i other hentry hlate
    rcases entryLine_sway hentry with ⟨rfl, -⟩ | rfl
    · exact absurd hlate (by decide)
    · exact absurd hlate (by decide)

/-- The command of the session is read, and not that of another group. -/
theorem sway_read_back : ∃ fields exec, desktopEntryFields
      (fileText linesBefore ++ execLine swayExec ++ textAfter) = some fields ∧
    requiredField fields execKey = some exec ∧
    parseExec exec = some ["sway".toList, "50% \"\\".toList] := by
  have hplain : (["sway".toList, "50% \"\\".toList].all fun arg =>
      arg.all fun c => !isControl c) = true := by decide
  have hcontrol : ∀ arg ∈ ["sway".toList, "50% \"\\".toList], ∀ c ∈ arg, isControl c = false :=
    fun arg harg c hc =>
      Bool.not_eq_true' _ ▸ List.all_eq_true.mp (List.all_eq_true.mp hplain arg harg) c hc
  exact command_read_back.1 linesBefore textAfter "sway".toList [(1, "50% \"\\".toList)]
    hcontrol (by decide) (by decide) (by decide +kernel) sessionFile_sway

end Sample

end Niralis.SessionCommand
