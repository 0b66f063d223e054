import Mathlib.Algebra.Ring.Nat
import Niralis.Text

namespace Niralis.ExecTokens

def maxExecBytes : Nat := 8 * 1024
def maxArgc : Nat := 64
def maxArgBytes : Nat := 4 * 1024
def maxArgvBytes : Nat := 16 * 1024

/-- `char::is_control`, the Unicode category `Cc`. -/
def isControl (c : Char) : Bool :=
  c.toNat < 32 || (127 ≤ c.toNat && c.toNat ≤ 159)

def utf8Length (text : List Char) : Nat := (text.map Char.utf8Size).sum

section Parser

structure TokenizerState where
  argv : List (List Char) := []
  token : List Char := []
  quoted : Bool := false
  tokenStarted : Bool := false
  deriving DecidableEq, Repr

def TokenizerState.push (s : TokenizerState) (c : Char) : TokenizerState :=
  { s with token := s.token ++ [c], tokenStarted := true }

def pushToken (argv : List (List Char)) (token : List Char) : Option (List (List Char)) :=
  if maxArgBytes < utf8Length token ∨ maxArgc ≤ argv.length then none else some (argv ++ [token])

/-- The characters that a backslash may stand before, within quotes. -/
def isEscaped (c : Char) : Bool := c = '"' || c = '`' || c = '$' || c = '\\'

def scan (s : TokenizerState) : List Char → Option TokenizerState
  | [] => some s
  | c :: rest =>
    if isControl c then none
    else if s.quoted then
      if c = '"' then scan { s with quoted := false, tokenStarted := true } rest
      else if c = '\\' then
        match rest with
        | [] => none
        | escaped :: rest => if isEscaped escaped then scan (s.push escaped) rest else none
      else if c = '%' then
        match rest with
        | [] => none
        | code :: rest => if code = '%' then scan (s.push '%') rest else none
      else scan (s.push c) rest
    else if c = ' ' ∨ c = '\t' then
      if s.tokenStarted then
        (pushToken s.argv s.token).bind fun argv =>
          scan { argv, token := [], quoted := s.quoted, tokenStarted := false } rest
      else scan s rest
    else if c = '"' then scan { s with quoted := true, tokenStarted := true } rest
    else if c = '%' then
      match rest with
      | [] => none
      | code :: rest => if code = '%' then scan (s.push '%') rest else none
    else if c = '\\' then none
    else scan (s.push c) rest

/-- What follows the loop; the sum of at most 64 bounded lengths does not overflow. -/
def finish (s : TokenizerState) : Option (List (List Char)) :=
  if s.quoted || (!s.tokenStarted && s.argv = []) then none
  else
    (if s.tokenStarted then pushToken s.argv s.token else some s.argv).bind fun argv =>
      if argv = [] then none
      else if maxArgvBytes < (argv.map (utf8Length · + 1)).sum then none
      else some argv

def parseExec (value : List Char) : Option (List (List Char)) :=
  if value = [] ∨ maxExecBytes < utf8Length value ∨ '\x00' ∈ value then none
  else (scan {} value).bind finish

end Parser

section Texts

def isPlain (c : Char) : Bool := !(isControl c || c = '"' || c = '\\' || c = '%')

/-- `raw` is a way to write `arg`, starting and ending within quotes or outside them. -/
inductive Spells : Bool → List Char → List Char → Bool → Prop
  | nil (quoted : Bool) : Spells quoted [] [] quoted
  | openQuote {raw arg : List Char} {after : Bool} (h : Spells true raw arg after) :
      Spells false ('"' :: raw) arg after
  | closeQuote {raw arg : List Char} {after : Bool} (h : Spells false raw arg after) :
      Spells true ('"' :: raw) arg after
  | escape {c : Char} {raw arg : List Char} {after : Bool} (hc : isEscaped c = true)
      (h : Spells true raw arg after) : Spells true ('\\' :: c :: raw) (c :: arg) after
  | percent {quoted : Bool} {raw arg : List Char} {after : Bool} (h : Spells quoted raw arg after) :
      Spells quoted ('%' :: '%' :: raw) ('%' :: arg) after
  | quotedPlain {c : Char} {raw arg : List Char} {after : Bool} (hc : isPlain c = true)
      (h : Spells true raw arg after) : Spells true (c :: raw) (c :: arg) after
  | plain {c : Char} {raw arg : List Char} {after : Bool} (hc : isPlain c = true) (hspace : c ≠ ' ')
      (h : Spells false raw arg after) : Spells false (c :: raw) (c :: arg) after

/-- The text of the vector: arguments with spaces between them, and perhaps around them. -/
inductive Renders : List Char → List (List Char) → Prop
  | nil : Renders [] []
  | space {rest : List Char} {argv : List (List Char)} (h : Renders rest argv) :
      Renders (' ' :: rest) argv
  | word {raw arg rest : List Char} {argv : List (List Char)} (hraw : raw ≠ [])
      (hword : Spells false raw arg false) (hend : rest = [] ∨ ∃ after, rest = ' ' :: after)
      (h : Renders rest argv) : Renders (raw ++ rest) (arg :: argv)

end Texts

section Reading
variable {s s' s₁ : TokenizerState} {c : Char} {text raw arg rest : List Char}
  {argv prior : List (List Char)} {quoted after : Bool}

/-- One turn of the loop: the state before and what is left to be read, and both after it. -/
inductive Turn : TokenizerState → List Char → TokenizerState → List Char → Prop
  | openQuote (s : TokenizerState) (rest : List Char) (hq : s.quoted = false) :
      Turn s ('"' :: rest) { s with quoted := true, tokenStarted := true } rest
  | closeQuote (s : TokenizerState) (rest : List Char) (hq : s.quoted = true) :
      Turn s ('"' :: rest) { s with quoted := false, tokenStarted := true } rest
  | escape (s : TokenizerState) (c : Char) (rest : List Char) (hq : s.quoted = true)
      (hc : isEscaped c = true) : Turn s ('\\' :: c :: rest) (s.push c) rest
  | percent (s : TokenizerState) (rest : List Char) :
      Turn s ('%' :: '%' :: rest) (s.push '%') rest
  | quotedPlain (s : TokenizerState) (c : Char) (rest : List Char) (hq : s.quoted = true)
      (hc : isPlain c = true) : Turn s (c :: rest) (s.push c) rest
  | plain (s : TokenizerState) (c : Char) (rest : List Char) (hq : s.quoted = false)
      (hc : isPlain c = true) (hspace : c ≠ ' ') : Turn s (c :: rest) (s.push c) rest
  | separator (s : TokenizerState) (rest : List Char) (hq : s.quoted = false)
      (hstarted : s.tokenStarted = false) : Turn s (' ' :: rest) s rest
  | endToken (s : TokenizerState) (rest : List Char) (argv : List (List Char))
      (hq : s.quoted = false) (hstarted : s.tokenStarted = true)
      (hpush : pushToken s.argv s.token = some argv) :
      Turn s (' ' :: rest) { argv, token := [], quoted := s.quoted, tokenStarted := false } rest

theorem isPlain_iff : isPlain c = true ↔
    isControl c = false ∧ c ≠ '"' ∧ c ≠ '\\' ∧ c ≠ '%' := by
  simp [isPlain, and_assoc]

/-- A tab is a control character, and never gets as far as the separators. -/
theorem isControl_tab : isControl '\t' = true := by decide

theorem scan_of_turn (h : Turn s text s₁ rest) : scan s text = scan s₁ rest := by
  rw [scan.eq_def]
  cases h with
  | openQuote rest hq => simp [hq, show isControl '"' = false by decide]
  | closeQuote rest hq => simp [hq, show isControl '"' = false by decide]
  | escape c rest hq hc => simp [hq, hc, show isControl '\\' = false by decide]
  | percent rest => cases s.quoted <;> simp [show isControl '%' = false by decide]
  | quotedPlain c rest hq hc =>
    obtain ⟨hcontrol, hquote, hbackslash, hpercent⟩ := isPlain_iff.mp hc
    simp [hq, hcontrol, hquote, hbackslash, hpercent]
  | plain c rest hq hc hspace =>
    obtain ⟨hcontrol, hquote, hbackslash, hpercent⟩ := isPlain_iff.mp hc
    have htab : c ≠ '\t' := by
      rintro rfl
      exact absurd isControl_tab (Bool.eq_false_iff.mp hcontrol)
    simp [hq, hcontrol, hquote, hbackslash, hpercent, hspace, htab]
  | separator rest hq hstarted => simp [hq, hstarted, show isControl ' ' = false by decide]
  | endToken rest argv hq hstarted hpush =>
    simp [hq, hstarted, hpush, show isControl ' ' = false by decide]

theorem turn_of_scan (h : scan s (c :: text) = some s') :
    ∃ s₁ rest, Turn s (c :: text) s₁ rest ∧ scan s₁ rest = some s' := by
  have hcontrol : isControl c = false := by
    cases hc : isControl c with
    | false => rfl
    | true =>
      rw [scan.eq_def] at h
      simp [hc] at h
  have hnext : ∀ s₁ rest, Turn s (c :: text) s₁ rest →
      ∃ s₁ rest, Turn s (c :: text) s₁ rest ∧ scan s₁ rest = some s' := fun s₁ rest hturn =>
    ⟨s₁, rest, hturn, (scan_of_turn hturn).symm.trans h⟩
  rw [scan.eq_def] at h
  -- in the order in which `scan` matches the character
  by_cases hquote : c = '"'
  · subst hquote
    cases hq : s.quoted with
    | false => exact hnext _ _ (.openQuote s text hq)
    | true => exact hnext _ _ (.closeQuote s text hq)
  · by_cases hpercent : c = '%'
    · subst hpercent
      cases text with
      | nil => cases hq : s.quoted <;> simp [hq, hcontrol] at h
      | cons code rest =>
        have hcode : code = '%' := by
          cases hq : s.quoted <;> simp [hq, hcontrol] at h <;> exact h.1
        subst hcode
        exact hnext _ _ (.percent s rest)
    · by_cases hbackslash : c = '\\'
      · subst hbackslash
        cases hq : s.quoted with
        | false => simp [hq, hcontrol] at h
        | true =>
          cases text with
          | nil => simp [hq, hcontrol] at h
          | cons escaped rest =>
            have hescaped : isEscaped escaped = true := by
              simp only [hq, hcontrol] at h
              by_contra hnot
              simp [hnot] at h
            exact hnext _ _ (.escape s escaped rest hq hescaped)
      · have hplain : isPlain c = true := isPlain_iff.mpr ⟨hcontrol, hquote, hbackslash, hpercent⟩
        cases hq : s.quoted with
        | true => exact hnext _ _ (.quotedPlain s c text hq hplain)
        | false =>
          by_cases hspace : c = ' '
          · subst hspace
            cases hstarted : s.tokenStarted with
            | false => exact hnext _ _ (.separator s text hq hstarted)
            | true =>
              cases hpush : pushToken s.argv s.token with
              | none => simp [hq, hstarted, hpush, hcontrol] at h
              | some argv => exact hnext _ _ (.endToken s text argv hq hstarted hpush)
          · exact hnext _ _ (.plain s c text hq hplain hspace)

theorem Turn.shorter (h : Turn s text s₁ rest) : rest.length < text.length := by
  cases h <;> simp only [List.length_cons] <;> omega

/-- What is left to be read, in the state reached: more of the token, if one has started, and the
other arguments. -/
def RendersFrom (s : TokenizerState) (text : List Char) (argv : List (List Char)) : Prop :=
  if s.tokenStarted then
    ∃ raw arg rest others, text = raw ++ rest ∧ Spells s.quoted raw arg false ∧
      argv = s.argv ++ (s.token ++ arg) :: others ∧
      (rest = [] ∨ ∃ after, rest = ' ' :: after) ∧ Renders rest others
  else ∃ others, argv = s.argv ++ others ∧ Renders text others

def WellFormed (s : TokenizerState) : Prop :=
  s.tokenStarted = false → s.quoted = false ∧ s.token = []

theorem Turn.wellFormed (h : Turn s text s₁ rest) (hs : WellFormed s) : WellFormed s₁ := by
  cases h with
  | separator rest hq hstarted => exact hs
  | endToken rest argv hq hstarted hpush => exact fun _ => ⟨hq, rfl⟩
  | _ => exact fun hstarted => nomatch hstarted

theorem pushToken_eq_some_iff {token : List Char} :
    pushToken prior token = some argv ↔
      utf8Length token ≤ maxArgBytes ∧ prior.length < maxArgc ∧ argv = prior ++ [token] := by
  unfold pushToken
  split
  next hlimits =>
    constructor
    · exact fun h => nomatch h
    · rintro ⟨htoken, hprior, -⟩
      omega
  next hlimits =>
    rw [not_or, Nat.not_lt, Nat.not_le] at hlimits
    rw [Option.some.injEq]
    exact ⟨fun h => ⟨hlimits.1, hlimits.2, h.symm⟩, fun h => h.2.2.symm⟩

theorem rendersFrom_of_spells (source added : List Char) (h : RendersFrom s₁ rest argv)
    (hs : WellFormed s)
    (hargv : s₁.argv = s.argv) (htoken : s₁.token = s.token ++ added)
    (hstarted : s₁.tokenStarted = true) (hsource : source ≠ [])
    (hspells : ∀ raw arg, Spells s₁.quoted raw arg false →
      Spells s.quoted (source ++ raw) (added ++ arg) false) :
    RendersFrom s (source ++ rest) argv := by
  unfold RendersFrom at h ⊢
  rw [if_pos hstarted] at h
  obtain ⟨raw, arg, tail, others, rfl, hword, rfl, hend, hothers⟩ := h
  have hmore := hspells raw arg hword
  split
  · refine ⟨source ++ raw, added ++ arg, tail, others, ?_, hmore, ?_, hend, hothers⟩
    · rw [List.append_assoc]
    · rw [hargv, htoken, List.append_assoc]
  next hnot =>
    obtain ⟨hq, hempty⟩ := hs (Bool.eq_false_iff.mpr hnot)
    rw [hq] at hmore
    refine ⟨(added ++ arg) :: others, ?_, ?_⟩
    · rw [hargv, htoken, hempty, List.nil_append]
    · rw [← List.append_assoc]
      exact .word (by simp [hsource]) hmore hend hothers

theorem Turn.rendersFrom (h : Turn s text s₁ rest) (hs : WellFormed s)
    (hrest : RendersFrom s₁ rest argv) : RendersFrom s text argv := by
  cases h with
  | openQuote rest hq =>
    refine rendersFrom_of_spells ['"'] [] hrest hs rfl (by simp) rfl (by simp)
      fun raw arg hword => ?_
    rw [hq]
    exact .openQuote hword
  | closeQuote rest hq =>
    refine rendersFrom_of_spells ['"'] [] hrest hs rfl (by simp) rfl (by simp)
      fun raw arg hword => ?_
    rw [hq]
    exact .closeQuote hword
  | escape c rest hq hc =>
    refine rendersFrom_of_spells ['\\', c] [c] hrest hs rfl rfl rfl (by simp)
      fun raw arg hword => ?_
    rw [hq]
    exact .escape hc (hq ▸ hword)
  | percent rest =>
    exact rendersFrom_of_spells ['%', '%'] ['%'] hrest hs rfl rfl rfl (by simp)
      fun raw arg hword => .percent hword
  | quotedPlain c rest hq hc =>
    refine rendersFrom_of_spells [c] [c] hrest hs rfl rfl rfl (by simp)
      fun raw arg hword => ?_
    rw [hq]
    exact .quotedPlain hc (hq ▸ hword)
  | plain c rest hq hc hspace =>
    refine rendersFrom_of_spells [c] [c] hrest hs rfl rfl rfl (by simp)
      fun raw arg hword => ?_
    rw [hq]
    exact .plain hc hspace (hq ▸ hword)
  | separator rest hq hstarted =>
    unfold RendersFrom at hrest ⊢
    rw [if_neg (by rw [hstarted]; exact Bool.false_ne_true)] at hrest ⊢
    obtain ⟨others, hargv, hothers⟩ := hrest
    exact ⟨others, hargv, .space hothers⟩
  | endToken rest pushed hq hstarted hpush =>
    obtain ⟨others, rfl, hothers⟩ : ∃ others, argv = pushed ++ others ∧ Renders rest others := hrest
    obtain ⟨-, -, rfl⟩ := pushToken_eq_some_iff.mp hpush
    unfold RendersFrom
    rw [if_pos hstarted]
    refine ⟨[], [], ' ' :: rest, others, rfl, ?_, by simp, Or.inr ⟨rest, rfl⟩, .space hothers⟩
    rw [hq]
    exact .nil false

/-- The vector is within the limits for its length and for each argument. -/
structure Fits (argv : List (List Char)) : Prop where
  count : argv.length ≤ maxArgc
  args : ∀ arg ∈ argv, utf8Length arg ≤ maxArgBytes

theorem fits_of_pushToken {token : List Char} (hprior : Fits prior)
    (h : pushToken prior token = some argv) : Fits argv := by
  obtain ⟨htoken, hcount, rfl⟩ := pushToken_eq_some_iff.mp h
  refine ⟨?_, fun arg harg => ?_⟩
  · rw [List.length_append, List.length_singleton]
    exact hcount
  · rcases List.mem_append.mp harg with hold | hnew
    · exact hprior.args arg hold
    · rw [List.mem_singleton.mp hnew]
      exact htoken

theorem Turn.fits (h : Turn s text s₁ rest) (hs : Fits s.argv) : Fits s₁.argv := by
  cases h with
  | endToken rest argv hq hstarted hpush => exact fits_of_pushToken hs hpush
  | _ => exact hs

theorem finish_eq_some_iff : finish s = some argv ↔ s.quoted = false ∧
    (if s.tokenStarted then pushToken s.argv s.token else some s.argv) = some argv ∧ argv ≠ [] ∧
      (argv.map (utf8Length · + 1)).sum ≤ maxArgvBytes := by
  unfold finish
  cases hq : s.quoted with
  | true => simp
  | false =>
    cases hstarted : s.tokenStarted with
    | false =>
      by_cases hempty : s.argv = []
      · simp only [hempty, Bool.not_false, Bool.true_and, decide_true, Bool.or_true, if_true]
        constructor
        · exact fun h => nomatch h
        · rintro ⟨-, h, hne, -⟩
          exact absurd (Option.some.inj h).symm hne
      · simp only [hempty, Bool.not_false, Bool.true_and, decide_false, Bool.or_false,
          Bool.false_eq_true, if_false, Option.bind_some]
        split
        next hlarge =>
          constructor
          · exact fun h => nomatch h
          · rintro ⟨-, h, -, hsmall⟩
            cases h
            omega
        next hsmall =>
          constructor
          · rintro h
            cases h
            exact ⟨trivial, rfl, hempty, Nat.le_of_not_lt hsmall⟩
          · exact fun h => h.2.1
    | true =>
      simp only [Bool.not_true, Bool.false_and, Bool.or_false, Bool.false_eq_true, if_false,
        if_true]
      cases hpush : pushToken s.argv s.token with
      | none => simp
      | some pushed =>
        rw [Option.bind_some]
        split
        next hempty =>
          constructor
          · exact fun h => nomatch h
          · rintro ⟨-, h, hne, -⟩
            cases h
            exact absurd hempty hne
        next hne =>
          split
          next hlarge =>
            constructor
            · exact fun h => nomatch h
            · rintro ⟨-, h, -, hsmall⟩
              cases h
              omega
          next hsmall =>
            constructor
            · rintro h
              cases h
              exact ⟨trivial, rfl, hne, Nat.le_of_not_lt hsmall⟩
            · exact fun h => h.2.1

/-- The text that the loop reads renders the vector that it ends with. -/
theorem rendersFrom_of_scan (hs : WellFormed s) (hfits : Fits s.argv)
    (h : scan s text = some s') (hfinish : finish s' = some argv) :
    RendersFrom s text argv ∧ Fits argv := by
  induction hn : text.length using Nat.strongRecOn generalizing s text with
  | ind n ih =>
    cases text with
    | nil =>
      have hsame : s = s' := by simpa [scan] using h
      subst hsame
      obtain ⟨hq, hpushed, -, -⟩ := finish_eq_some_iff.mp hfinish
      unfold RendersFrom
      split
      next hstarted =>
        rw [if_pos hstarted] at hpushed
        refine ⟨⟨[], [], [], [], rfl, ?_, ?_, Or.inl rfl, .nil⟩, fits_of_pushToken hfits hpushed⟩
        · rw [hq]
          exact .nil false
        · rw [List.append_nil]
          exact (pushToken_eq_some_iff.mp hpushed).2.2
      next hnot =>
        rw [if_neg hnot] at hpushed
        cases hpushed
        exact ⟨⟨[], by simp, .nil⟩, hfits⟩
    | cons c text =>
      obtain ⟨s₁, rest, hturn, hrest⟩ := turn_of_scan h
      have hshorter : rest.length < n := hn ▸ hturn.shorter
      obtain ⟨hrenders, hall⟩ := ih _ hshorter (hturn.wellFormed hs) (hturn.fits hfits) hrest rfl
      exact ⟨hturn.rendersFrom hs hrenders, hall⟩

theorem scan_of_spells (h : Spells quoted raw arg after) (hq : s.quoted = quoted)
    (hstarted : raw ≠ [] ∨ s.tokenStarted = true) (rest : List Char) :
    scan s (raw ++ rest) = scan ⟨s.argv, s.token ++ arg, after, true⟩ rest := by
  induction h generalizing s with
  | nil quoted =>
    have hsame : s = ⟨s.argv, s.token ++ [], quoted, true⟩ := by
      rw [List.append_nil, ← hq, ← hstarted.resolve_left (fun h => h rfl)]
    rw [List.nil_append, ← hsame]
  | openQuote h ih =>
    exact (scan_of_turn (.openQuote s _ hq)).trans (ih rfl (Or.inr rfl))
  | closeQuote h ih =>
    exact (scan_of_turn (.closeQuote s _ hq)).trans (ih rfl (Or.inr rfl))
  | escape hc h ih =>
    refine ((scan_of_turn (.escape s _ _ hq hc)).trans (ih hq (Or.inr rfl))).trans ?_
    simp [TokenizerState.push]
  | percent h ih =>
    refine ((scan_of_turn (.percent s _)).trans (ih hq (Or.inr rfl))).trans ?_
    simp [TokenizerState.push]
  | quotedPlain hc h ih =>
    refine ((scan_of_turn (.quotedPlain s _ _ hq hc)).trans (ih hq (Or.inr rfl))).trans ?_
    simp [TokenizerState.push]
  | plain hc hspace h ih =>
    refine ((scan_of_turn (.plain s _ _ hq hc hspace)).trans (ih hq (Or.inr rfl))).trans ?_
    simp [TokenizerState.push]

theorem argv_of_renders_nil (h : Renders [] argv) : argv = [] := by
  generalize htext : ([] : List Char) = text at h
  cases h with
  | nil => rfl
  | space h => cases htext
  | word hraw hword hend h => exact absurd (List.append_eq_nil_iff.mp htext.symm).1 hraw

/-- A text of the vector is read back, as far as the limits allow. -/
theorem scan_of_renders (prior : List (List Char)) (h : Renders text argv)
    (hfits : Fits (prior ++ argv)) :
    ∃ s', scan ⟨prior, [], false, false⟩ text = some s' ∧ s'.quoted = false ∧
      (if s'.tokenStarted then pushToken s'.argv s'.token else some s'.argv) =
        some (prior ++ argv) := by
  induction h generalizing prior with
  | nil => exact ⟨_, rfl, rfl, by simp⟩
  | space h ih =>
    obtain ⟨s', hscan, hend⟩ := ih prior hfits
    exact ⟨s', (scan_of_turn (.separator _ _ rfl rfl)).trans hscan, hend⟩
  | @word raw arg rest argv hraw hword hend h ih =>
    have hscan := scan_of_spells (s := ⟨prior, [], false, false⟩) hword rfl (Or.inl hraw) rest
    rw [List.nil_append] at hscan
    have hpush : pushToken prior arg = some (prior ++ [arg]) := by
      refine pushToken_eq_some_iff.mpr ⟨hfits.args arg (by simp), ?_, rfl⟩
      have := hfits.count
      rw [List.length_append, List.length_cons] at this
      omega
    rcases hend with rfl | ⟨after, rfl⟩
    · rw [argv_of_renders_nil h, hscan]
      exact ⟨_, rfl, rfl, hpush⟩
    · have hfits' : Fits ((prior ++ [arg]) ++ argv) := by simpa using hfits
      obtain ⟨s', hscan', hq, hpushed⟩ := ih (prior ++ [arg]) hfits'
      refine ⟨s', ?_, hq, by simpa using hpushed⟩
      rw [hscan, scan_of_turn (.endToken _ after (prior ++ [arg]) rfl rfl hpush), ← hscan']
      exact (scan_of_turn (.separator ⟨prior ++ [arg], [], false, false⟩ after rfl rfl)).symm

end Reading

section Lengths
variable {text raw arg : List Char} {argv : List (List Char)} {quoted after : Bool}

theorem utf8Length_append (a b : List Char) :
    utf8Length (a ++ b) = utf8Length a + utf8Length b := by
  simp [utf8Length]

theorem utf8Length_cons (c : Char) (text : List Char) :
    utf8Length (c :: text) = c.utf8Size + utf8Length text := by
  simp [utf8Length]

theorem Spells.length_le (h : Spells quoted raw arg after) : utf8Length arg ≤ utf8Length raw := by
  induction h with
  | nil => exact Nat.le_refl _
  | openQuote h ih => exact Nat.le_trans ih (by rw [utf8Length_cons]; omega)
  | closeQuote h ih => exact Nat.le_trans ih (by rw [utf8Length_cons]; omega)
  | escape hc h ih =>
    rw [utf8Length_cons, utf8Length_cons, utf8Length_cons]
    omega
  | percent h ih =>
    rw [utf8Length_cons, utf8Length_cons, utf8Length_cons]
    omega
  | quotedPlain hc h ih =>
    rw [utf8Length_cons, utf8Length_cons]
    omega
  | plain hc hspace h ih =>
    rw [utf8Length_cons, utf8Length_cons]
    omega

theorem Renders.sum_le (h : Renders text argv) : (argv.map utf8Length).sum ≤ utf8Length text := by
  induction h with
  | nil => exact Nat.le_refl _
  | space h ih => exact Nat.le_trans ih (by rw [utf8Length_cons]; omega)
  | word hraw hword hend h ih =>
    have := hword.length_le
    rw [List.map_cons, List.sum_cons, utf8Length_append]
    omega

theorem Spells.not_control (h : Spells quoted raw arg after) :
    ∀ c ∈ raw, isControl c = false := by
  have hescaped : ∀ c, isEscaped c = true → isControl c = false := by
    intro c hc
    simp only [isEscaped, Bool.or_eq_true, decide_eq_true_eq] at hc
    rcases hc with ((rfl | rfl) | rfl) | rfl <;> decide
  induction h with
  | nil => simp
  | openQuote h ih => exact List.forall_mem_cons.mpr ⟨by decide, ih⟩
  | closeQuote h ih => exact List.forall_mem_cons.mpr ⟨by decide, ih⟩
  | escape hc h ih =>
    exact List.forall_mem_cons.mpr ⟨by decide, List.forall_mem_cons.mpr ⟨hescaped _ hc, ih⟩⟩
  | percent h ih =>
    exact List.forall_mem_cons.mpr ⟨by decide, List.forall_mem_cons.mpr ⟨by decide, ih⟩⟩
  | quotedPlain hc h ih => exact List.forall_mem_cons.mpr ⟨(isPlain_iff.mp hc).1, ih⟩
  | plain hc hspace h ih => exact List.forall_mem_cons.mpr ⟨(isPlain_iff.mp hc).1, ih⟩

theorem Renders.not_control (h : Renders text argv) : ∀ c ∈ text, isControl c = false := by
  induction h with
  | nil => simp
  | space h ih => exact List.forall_mem_cons.mpr ⟨by decide, ih⟩
  | word hraw hword hend h ih =>
    exact List.forall_mem_append.mpr ⟨hword.not_control, ih⟩

theorem Spells.subset (h : Spells quoted raw arg after) : arg ⊆ raw := by
  induction h with
  | nil => exact List.Subset.refl _
  | openQuote h ih => exact List.subset_cons_of_subset _ ih
  | closeQuote h ih => exact List.subset_cons_of_subset _ ih
  | escape hc h ih => exact List.subset_cons_of_subset _ (List.cons_subset_cons _ ih)
  | percent h ih => exact List.subset_cons_of_subset _ (List.cons_subset_cons _ ih)
  | quotedPlain hc h ih => exact List.cons_subset_cons _ ih
  | plain hc hspace h ih => exact List.cons_subset_cons _ ih

theorem Renders.subset (h : Renders text argv) : ∀ arg ∈ argv, arg ⊆ text := by
  induction h with
  | nil => simp
  | space h ih => exact fun arg harg => List.subset_cons_of_subset _ (ih arg harg)
  | word hraw hword hend h ih =>
    refine List.forall_mem_cons.mpr ⟨List.subset_append_of_subset_left _ hword.subset, ?_⟩
    exact fun arg harg => List.subset_append_of_subset_right _ (ih arg harg)

/-- The total length is within its limit whenever the text and the count are within theirs. -/
theorem Renders.total_le (h : Renders text argv) (htext : utf8Length text ≤ maxExecBytes)
    (hcount : argv.length ≤ maxArgc) : (argv.map (utf8Length · + 1)).sum ≤ maxArgvBytes := by
  have hsum : ∀ l : List (List Char), (l.map (utf8Length · + 1)).sum =
      (l.map utf8Length).sum + l.length := by
    intro l
    induction l with
    | nil => rfl
    | cons a l ih =>
      simp only [List.map_cons, List.sum_cons, List.length_cons, ih]
      omega
  have hle := h.sum_le
  rw [hsum]
  unfold maxExecBytes at htext
  unfold maxArgc at hcount
  unfold maxArgvBytes
  omega

/-- The accepted texts are those that render a vector, within the limits. -/
theorem parseExec_eq_some_iff : parseExec text = some argv ↔
    Renders text argv ∧ argv ≠ [] ∧ utf8Length text ≤ maxExecBytes ∧ Fits argv := by
  have hstart : WellFormed {} := fun _ => ⟨rfl, rfl⟩
  constructor
  · intro h
    unfold parseExec at h
    split at h
    · cases h
    next hlimits =>
      obtain ⟨s', hscan, hfinish⟩ := Option.bind_eq_some_iff.mp h
      obtain ⟨hrenders, hfits⟩ := rendersFrom_of_scan hstart ⟨Nat.zero_le _, by simp⟩ hscan hfinish
      obtain ⟨others, hargv, htext⟩ : ∃ others, argv = [] ++ others ∧ Renders text others :=
        hrenders
      rw [List.nil_append] at hargv
      subst hargv
      refine ⟨htext, (finish_eq_some_iff.mp hfinish).2.2.1, ?_, hfits⟩
      omega
  · rintro ⟨hrenders, hne, hlength, hfits⟩
    have htext : text ≠ [] := fun hempty => hne (argv_of_renders_nil (hempty ▸ hrenders))
    have hnul : '\x00' ∉ text := fun hmem => by
      have := hrenders.not_control _ hmem
      revert this
      decide
    obtain ⟨s', hscan, hq, hpushed⟩ := scan_of_renders [] hrenders hfits
    unfold parseExec
    rw [if_neg (by simp only [htext, hnul, or_false, false_or]; omega)]
    refine Option.bind_eq_some_iff.mpr ⟨s', hscan, finish_eq_some_iff.mpr ?_⟩
    exact ⟨hq, hpushed, hne, hrenders.total_le hlength hfits.count⟩

end Lengths

section Separators
variable {s s' s₁ : TokenizerState} {text rest before after : List Char} {argv : List (List Char)}

theorem Turn.append (h : Turn s text s₁ rest) (more : List Char) :
    Turn s (text ++ more) s₁ (rest ++ more) := by
  cases h with
  | openQuote rest hq => exact .openQuote s _ hq
  | closeQuote rest hq => exact .closeQuote s _ hq
  | escape c rest hq hc => exact .escape s c _ hq hc
  | percent rest => exact .percent s _
  | quotedPlain c rest hq hc => exact .quotedPlain s c _ hq hc
  | plain c rest hq hc hspace => exact .plain s c _ hq hc hspace
  | separator rest hq hstarted => exact .separator s _ hq hstarted
  | endToken rest argv hq hstarted hpush => exact .endToken s _ argv hq hstarted hpush

theorem scan_append (h : scan s text = some s') (more : List Char) :
    scan s (text ++ more) = scan s' more := by
  induction hn : text.length using Nat.strongRecOn generalizing s text with
  | ind n ih =>
    cases text with
    | nil =>
      have hsame : s = s' := by simpa [scan] using h
      rw [hsame, List.nil_append]
    | cons c text =>
      obtain ⟨s₁, rest, hturn, hrest⟩ := turn_of_scan h
      rw [scan_of_turn (hturn.append more)]
      exact ih _ (hn ▸ hturn.shorter) hrest rfl

/-- Outside quotes a space ends the token, if there is one, and no more. -/
theorem turn_space (hq : s.quoted = false) (h : scan s (' ' :: rest) = some s') :
    ∃ s₁, s₁.quoted = false ∧ s₁.tokenStarted = false ∧
      ∀ more, scan s (' ' :: more) = scan s₁ more := by
  cases hstarted : s.tokenStarted with
  | false => exact ⟨s, hq, hstarted, fun more => scan_of_turn (.separator s more hq hstarted)⟩
  | true =>
    cases hpush : pushToken s.argv s.token with
    | none =>
      rw [scan.eq_def] at h
      simp [hq, hstarted, hpush] at h
    | some argv =>
      exact ⟨{ argv, token := [], quoted := s.quoted, tokenStarted := false }, hq, rfl,
        fun more => scan_of_turn (.endToken s more argv hq hstarted hpush)⟩

theorem scan_more_spaces (hq : s.quoted = false) (hstarted : s.tokenStarted = false) (n : Nat)
    (rest : List Char) : scan s (List.replicate n ' ' ++ rest) = scan s rest := by
  induction n with
  | zero => rfl
  | succ n ih => exact (scan_of_turn (.separator s _ hq hstarted)).trans ih

theorem scan_tab {separators : List Char} (hq : s.quoted = false)
    (hall : ∀ c ∈ separators, c = ' ' ∨ c = '\t') (htab : '\t' ∈ separators) (rest : List Char) :
    scan s (separators ++ rest) = none := by
  induction separators generalizing s with
  | nil => cases htab
  | cons c separators ih =>
    rcases hall c List.mem_cons_self with rfl | rfl
    · have htab' : '\t' ∈ separators := by simpa using htab
      by_contra hsome
      obtain ⟨s', hs'⟩ := Option.ne_none_iff_exists'.mp hsome
      obtain ⟨s₁, hq₁, -, hscan⟩ := turn_space hq hs'
      rw [List.cons_append, hscan,
        ih hq₁ (fun c hc => hall c (List.mem_cons_of_mem _ hc)) htab'] at hs'
      cases hs'
    · rw [List.cons_append, scan.eq_def]
      simp [isControl_tab]

def Unquoted (before : List Char) : Prop := ∃ s, scan {} before = some s ∧ s.quoted = false

/-- A run of spaces outside quotes may be replaced by another run of spaces and tabs, and the text
stays within its limit, exactly when there is no tab in it. -/
theorem separators_interchangeable_iff (before after separators : List Char) (n : Nat)
    (argv : List (List Char)) (hunquoted : Unquoted before)
    (haccepted : parseExec (before ++ List.replicate (n + 1) ' ' ++ after) = some argv)
    (hne : separators ≠ []) (hall : ∀ c ∈ separators, c = ' ' ∨ c = '\t')
    (hlength : utf8Length (before ++ separators ++ after) ≤ maxExecBytes) :
    parseExec (before ++ separators ++ after) = some argv ↔ '\t' ∉ separators := by
  obtain ⟨s, hbefore, hq⟩ := hunquoted
  have hscan : ∀ run, scan {} (before ++ run ++ after) = scan s (run ++ after) := by
    intro run
    rw [List.append_assoc, scan_append hbefore]
  constructor
  · intro h htab
    unfold parseExec at h
    rw [hscan, scan_tab hq hall htab after] at h
    split at h <;> cases h
  · intro htab
    -- without a tab the run is a run of spaces, and its length makes no difference
    obtain ⟨m, hm⟩ : ∃ m, separators = List.replicate (m + 1) ' ' := by
      have hspaces : separators = List.replicate separators.length ' ' :=
        List.eq_replicate_iff.mpr ⟨rfl, fun c hc => (hall c hc).resolve_right fun heq =>
          htab (heq ▸ hc)⟩
      obtain ⟨m, hm⟩ := Nat.exists_eq_succ_of_ne_zero
        (fun hzero => hne (List.eq_nil_of_length_eq_zero hzero))
      exact ⟨m, by rw [hspaces, hm]⟩
    subst hm
    unfold parseExec at haccepted ⊢
    split at haccepted
    · cases haccepted
    next hlimits =>
      rw [hscan] at haccepted
      obtain ⟨s', hs', hfinish⟩ := Option.bind_eq_some_iff.mp haccepted
      obtain ⟨s₁, hq₁, hstarted₁, hspace⟩ := turn_space hq hs'
      have hrun : ∀ k, scan s (List.replicate (k + 1) ' ' ++ after) = scan s₁ after := fun k =>
        (hspace _).trans (scan_more_spaces hq₁ hstarted₁ k after)
      have hnul : '\x00' ∉ before ++ List.replicate (m + 1) ' ' ++ after := by
        simp only [List.mem_append, List.mem_replicate, not_or] at hlimits ⊢
        refine ⟨⟨hlimits.2.2.1.1, ?_⟩, hlimits.2.2.2⟩
        rintro ⟨-, h⟩
        exact absurd h (by decide)
      have hlimits' : ¬(before ++ List.replicate (m + 1) ' ' ++ after = [] ∨
          maxExecBytes < utf8Length (before ++ List.replicate (m + 1) ' ' ++ after) ∨
            '\x00' ∈ before ++ List.replicate (m + 1) ' ' ++ after) := by
        rintro (hempty | hlarge | hmem)
        · simp [List.replicate_succ] at hempty
        · omega
        · exact hnul hmem
      rw [if_neg hlimits', hscan, hrun m]
      rw [hrun n] at hs'
      exact Option.bind_eq_some_iff.mpr ⟨s', hs', hfinish⟩

theorem more_spaces_same_arguments :
    parseExec ("a".toList ++ "   ".toList ++ "b".toList) = some ["a".toList, "b".toList] := by
  have hspaces : ∀ c ∈ "   ".toList, c = ' ' ∨ c = '\t' := by simp
  refine (separators_interchangeable_iff "a".toList "b".toList "   ".toList 0
    ["a".toList, "b".toList] ⟨_, rfl, rfl⟩ (by decide) (by decide) hspaces (by decide)).mpr ?_
  decide

/-- A tab between two arguments, which the separators' branch names, is refused. -/
theorem tab_refused : parseExec "a b".toList = some ["a".toList, "b".toList] ∧
    parseExec "a\tb".toList = none := by
  decide

end Separators

section EmptyArguments
variable {s s' s₁ : TokenizerState} {text rest raw after : List Char}
  {argv prior : List (List Char)}

/-- In front, or behind a text of arguments and a space, stands an argument that is written as
nothing but empty quotes. -/
def WritesEmptyArgument (text : List Char) : Prop :=
  ∃ before n after, text = before ++ (List.replicate (2 * (n + 1)) '"' ++ after) ∧
    (before = [] ∨ ∃ earlier prior, before = earlier ++ [' '] ∧ Renders earlier prior) ∧
      (after = [] ∨ ∃ rest, after = ' ' :: rest)

theorem spells_quotes (n : Nat) : Spells false (List.replicate (2 * n) '"') [] false := by
  induction n with
  | zero => exact .nil false
  | succ n ih => exact .openQuote (.closeQuote ih)

theorem quotes_of_spells {quoted : Bool} {arg : List Char} (h : Spells quoted raw arg false)
    (harg : arg = []) :
    ∃ n, raw = List.replicate (if quoted then 2 * n + 1 else 2 * n) '"' := by
  generalize hend : false = closed at h
  induction h with
  | nil quoted =>
    subst hend
    exact ⟨0, rfl⟩
  | openQuote h ih =>
    obtain ⟨n, rfl⟩ := ih harg hend
    exact ⟨n + 1, rfl⟩
  | closeQuote h ih =>
    obtain ⟨n, rfl⟩ := ih harg hend
    exact ⟨n, rfl⟩
  | escape hc h ih => cases harg
  | percent h ih => cases harg
  | quotedPlain hc h ih => cases harg
  | plain hc hspace h ih => cases harg

theorem Turn.argv_grows (h : Turn s text s₁ rest) : s.argv <+: s₁.argv := by
  cases h with
  | endToken rest argv hq hstarted hpush =>
    obtain ⟨-, -, rfl⟩ := pushToken_eq_some_iff.mp hpush
    exact List.prefix_append _ _
  | _ => exact List.prefix_rfl

theorem argv_of_scan (h : scan s text = some s') : s.argv <+: s'.argv := by
  induction hn : text.length using Nat.strongRecOn generalizing s text with
  | ind n ih =>
    cases text with
    | nil =>
      have hsame : s = s' := by simpa [scan] using h
      exact hsame ▸ List.prefix_rfl
    | cons c text =>
      obtain ⟨s₁, rest, hturn, hrest⟩ := turn_of_scan h
      exact hturn.argv_grows.trans (ih _ (hn ▸ hturn.shorter) hrest rfl)

theorem argv_of_finish (h : finish s = some argv) : s.argv <+: argv := by
  obtain ⟨-, hpushed, -, -⟩ := finish_eq_some_iff.mp h
  split at hpushed
  · obtain ⟨-, -, rfl⟩ := pushToken_eq_some_iff.mp hpushed
    exact List.prefix_append _ _
  · cases hpushed
    exact List.prefix_rfl

theorem writesEmpty_of_renders (h : Renders text argv) (hmem : [] ∈ argv) :
    WritesEmptyArgument text := by
  induction h with
  | nil => cases hmem
  | space h ih =>
    obtain ⟨before, n, after, rfl, hbefore, hafter⟩ := ih hmem
    refine ⟨' ' :: before, n, after, rfl, Or.inr ?_, hafter⟩
    rcases hbefore with rfl | ⟨earlier, prior, rfl, hearlier⟩
    · exact ⟨[], [], rfl, .nil⟩
    · exact ⟨' ' :: earlier, prior, rfl, .space hearlier⟩
  | @word raw arg rest argv hraw hword hend h ih =>
    by_cases harg : arg = []
    · obtain ⟨n, hquotes⟩ := quotes_of_spells hword harg
      cases n with
      | zero => exact absurd hquotes hraw
      | succ n => exact ⟨[], n, rest, by rw [hquotes]; rfl, Or.inl rfl, hend⟩
    · have hrest : [] ∈ argv := (List.mem_cons.mp hmem).resolve_left (Ne.symm harg)
      obtain ⟨before, n, after, hsplit, hbefore, hafter⟩ := ih hrest
      rcases hend with rfl | ⟨tail, rfl⟩
      · rw [argv_of_renders_nil h] at hrest
        cases hrest
      · -- the quotes do not stand where the word ends, so the space is before them
        rcases hbefore with rfl | ⟨earlier, prior, rfl, hearlier⟩
        · simp [List.replicate_succ, Nat.mul_succ] at hsplit
        · refine ⟨raw ++ earlier ++ [' '], n, after, ?_, Or.inr ⟨_, arg :: prior, rfl, ?_⟩, hafter⟩
          · rw [hsplit]
            simp
          · refine .word hraw hword ?_ hearlier
            cases earlier with
            | nil => exact Or.inl rfl
            | cons c earlier =>
              obtain ⟨rfl, -⟩ := List.cons.inj hsplit
              exact Or.inr ⟨earlier, rfl⟩

theorem scan_endToken {token : List Char}
    (h : scan ⟨prior, token, false, true⟩ (' ' :: rest) = some s') :
    scan { argv := prior ++ [token] } rest = some s' := by
  obtain ⟨s₁, rest₁, hturn, hrest⟩ := turn_of_scan h
  cases hturn with
  | plain _ _ hq hc hspace => exact absurd rfl hspace
  | quotedPlain _ _ hq hc => cases hq
  | separator _ hq hstarted => cases hstarted
  | endToken _ pushed hq hstarted hpush =>
    obtain ⟨-, -, rfl⟩ := pushToken_eq_some_iff.mp hpush
    exact hrest

/-- A text of arguments and a space are read before what comes next, if the whole is read. -/
theorem scan_past (read : List (List Char)) {earlier more : List Char} (h : Renders earlier prior)
    (hscan : scan { argv := read } (earlier ++ ' ' :: more) = some s') :
    scan { argv := read ++ prior } more = some s' := by
  induction h generalizing read with
  | nil =>
    rw [List.append_nil]
    rwa [List.nil_append, scan_of_turn (.separator _ more rfl rfl)] at hscan
  | @space rest argv h ih =>
    rw [List.cons_append, scan_of_turn (.separator _ _ rfl rfl)] at hscan
    exact ih read hscan
  | @word raw arg rest argv hraw hword hend h ih =>
    have hrest : ∃ tail, rest ++ ' ' :: more = ' ' :: tail := by
      rcases hend with rfl | ⟨after, rfl⟩
      · exact ⟨more, rfl⟩
      · exact ⟨after ++ ' ' :: more, rfl⟩
    obtain ⟨tail, htail⟩ := hrest
    have hword' := scan_of_spells (s := { argv := read }) hword rfl (Or.inl hraw) (' ' :: tail)
    rw [List.nil_append] at hword'
    rw [List.append_assoc, htail, hword'] at hscan
    have hsame := ih (read ++ [arg])
    rw [htail, scan_of_turn (.separator _ tail rfl rfl)] at hsame
    rw [← List.singleton_append, ← List.append_assoc]
    exact hsame (scan_endToken hscan)

/-- An accepted text has an empty argument exactly where it writes one. -/
theorem empty_mem_iff (h : parseExec text = some argv) :
    [] ∈ argv ↔ WritesEmptyArgument text := by
  obtain ⟨hrenders, -, -, hfits⟩ := parseExec_eq_some_iff.mp h
  constructor
  · exact fun hmem => writesEmpty_of_renders hrenders hmem
  · rintro ⟨before, n, after, rfl, hbefore, hafter⟩
    unfold parseExec at h
    split at h
    · cases h
    · obtain ⟨s', hscan, hfinish⟩ := Option.bind_eq_some_iff.mp h
      have hquotes : ∃ prior, scan { argv := prior }
          (List.replicate (2 * (n + 1)) '"' ++ after) = some s' := by
        rcases hbefore with rfl | ⟨earlier, prior, rfl, hearlier⟩
        · exact ⟨[], hscan⟩
        · rw [List.append_assoc, List.singleton_append] at hscan
          exact ⟨_, scan_past [] hearlier hscan⟩
      obtain ⟨prior, hquotes⟩ := hquotes
      rw [scan_of_spells (spells_quotes (n + 1)) rfl
        (Or.inl (by simp [List.replicate_succ, Nat.mul_succ]))] at hquotes
      have hmem : ∀ {l : List (List Char)}, prior ++ [[]] <+: l → [] ∈ l := fun hprefix =>
        hprefix.subset (by simp)
      rcases hafter with rfl | ⟨rest, rfl⟩
      · have hsame : s' = ⟨prior, [], false, true⟩ := by simpa [scan] using hquotes.symm
        obtain ⟨-, hpushed, -, -⟩ := finish_eq_some_iff.mp (hsame ▸ hfinish)
        obtain ⟨-, -, rfl⟩ := pushToken_eq_some_iff.mp hpushed
        exact hmem List.prefix_rfl
      · exact hmem ((argv_of_scan (scan_endToken hquotes)).trans (argv_of_finish hfinish))

end EmptyArguments

end Niralis.ExecTokens
