/-
# Strings of TOML documents read back

A string is written in one of six forms, and each of them is read as the text that was written,
whatever follows it as long as that is no further quote.  Quotes inside a string over several lines
stay apart from the three that end it: no more than two stand in a row, and two before the last
three are read as part of the text.
-/
import WallpaperRotation.Toml.Printer
import WallpaperRotation.Toml.Text

namespace WallpaperRotation.Toml

/-! ## What follows -/

/-- The text does not go on with a quote. -/
def Unquoted (rest : List Char) : Prop :=
  ∀ c ∈ rest.head?, c ≠ '"' ∧ c ≠ '\''

/-- What goes on with a character that is no quote goes on with no quote. -/
theorem unquoted_cons {c : Char} (h : c ≠ '"' ∧ c ≠ '\'') (rest : List Char) :
    Unquoted (c :: rest) := by
  intro x hx
  rwa [← Option.some.inj hx]

/-- The text starts with a character twice. -/
def StartsTwice (c : Char) (text : List Char) : Prop :=
  ∃ rest, text = c :: c :: rest

/-- A text does not start twice with a character when it starts with another one. -/
theorem not_startsTwice_cons {c x : Char} (h : x ≠ c) (rest : List Char) :
    ¬StartsTwice c (x :: rest) := by
  rintro ⟨others, heq⟩
  exact h (List.cons.inj heq).1

/-- What does not go on with a quote does not start with two of them behind one more. -/
theorem Unquoted.not_startsTwice {rest : List Char} (h : Unquoted rest) {quote : Char}
    (hquote : quote = '"' ∨ quote = '\'') : ¬StartsTwice quote (quote :: rest) := by
  rintro ⟨others, heq⟩
  obtain ⟨hdouble, hsingle⟩ := h quote (by rw [(List.cons.inj heq).2]; rfl)
  exact hquote.elim hdouble hsingle

/-! ## Characters -/

/-- A character that is no control character is plain. -/
theorem isPlain_of_not_isControl {c : Char} (h : isControl c = false) : isPlain c = true := by
  simp only [isControl, Bool.or_eq_false_iff, decide_eq_false_iff_not] at h
  simp only [isPlain, Bool.or_eq_true, Bool.and_eq_true, decide_eq_true_eq]
  exact Or.inr ⟨by omega, h.2⟩

/-- A plain character breaks no line. -/
theorem of_isPlain {c : Char} (h : isPlain c = true) : c ≠ '\n' ∧ c ≠ '\r' := by
  constructor <;> rintro rfl <;> exact absurd h (by decide)

/-- Four hexadecimal digits that start with two zeros make up a character of seven bits. -/
theorem scalar?_hexDigit : ∀ n, n < 128 →
    scalar? ['0', '0', hexDigit (n / 16), hexDigit (n % 16)] = some (Char.ofNat n) := by
  decide

/-- A control character has a number of seven bits. -/
theorem toNat_lt_of_isControl {c : Char} (h : isControl c = true) : c.toNat < 128 := by
  simp only [isControl, Bool.or_eq_true, decide_eq_true_eq] at h
  omega

/-! ## Between double quotes -/

/-- A character that stands for itself between double quotes is read as it is. -/
theorem basicBody_cons {lines : Bool} {c : Char} (hquote : c ≠ '"') (hslash : c ≠ '\\')
    (h : isPlain c = true ∨ lines = true ∧ c = '\n') (rest : List Char) :
    basicBody lines .off (c :: rest) = before c (basicBody lines .off rest) := by
  have hreturn : c ≠ '\r' := by
    rcases h with h | ⟨-, rfl⟩
    · exact (of_isPlain h).2
    · decide
  have hstands : isPlain c = true ∧ c ≠ '\\' ∨ lines = true ∧ c = '\n' :=
    h.imp_left fun hplain => ⟨hplain, hslash⟩
  rw [basicBody, if_pos hstands] <;> simp_all

/-- An escaped character is read back. -/
theorem basicBody_escapeChar (lines : Bool) (c : Char) (rest : List Char) :
    basicBody lines .off (escapeChar c ++ rest) = before c (basicBody lines .off rest) := by
  unfold escapeChar
  by_cases hquote : c = '"'
  · subst hquote; rfl
  by_cases hslash : c = '\\'
  · subst hslash; rfl
  by_cases hb : c = '\x08'
  · subst hb; rfl
  by_cases ht : c = '\t'
  · subst ht; rfl
  by_cases hn : c = '\n'
  · subst hn; rfl
  by_cases hf : c = '\x0c'
  · subst hf; rfl
  by_cases hr : c = '\r'
  · subst hr; rfl
  simp only [hquote, hslash, hb, ht, hn, hf, hr, if_false]
  by_cases hcontrol : isControl c = true
  · -- Control characters without a letter of their own are written by their number.
    have hscalar := scalar?_hexDigit c.toNat (toNat_lt_of_isControl hcontrol)
    rw [Char.ofNat_toNat] at hscalar
    rw [if_pos hcontrol]
    simp only [List.cons_append, List.nil_append]
    rw [basicBody, hscalar]
    · rfl
    · simp
  · rw [if_neg hcontrol, List.singleton_append]
    exact basicBody_cons hquote hslash
      (Or.inl (isPlain_of_not_isControl (Bool.eq_false_iff.2 hcontrol))) rest

/-- An escaped character starts neither with a quote nor with the end of a line. -/
theorem exists_escapeChar_eq_cons (c : Char) :
    ∃ x others, escapeChar c = x :: others ∧ x ≠ '"' ∧ x ≠ '\n' ∧ x ≠ '\r' := by
  have hslash (others : List Char) : ∃ x rest, '\\' :: others = x :: rest ∧
      x ≠ '"' ∧ x ≠ '\n' ∧ x ≠ '\r' :=
    ⟨'\\', others, rfl, by decide, by decide, by decide⟩
  unfold escapeChar
  -- Eight kinds of characters are escaped, all behind a backslash; the others stand for themselves.
  iterate 8
    split
    · exact hslash _
  rename_i hquote _ _ _ hn _ hr _
  exact ⟨c, [], rfl, hquote, hn, hr⟩

/-- A text escaped on one line is read back behind its opening quote. -/
theorem basicBody_flatMap_escapeChar (text rest : List Char) :
    basicBody false .off (text.flatMap escapeChar ++ '"' :: rest) = some (text, rest) := by
  induction text with
  | nil =>
    rw [List.flatMap_nil, List.nil_append, basicBody.eq_def]
    rfl
  | cons c text ih =>
    rw [List.flatMap_cons, List.append_assoc, basicBody_escapeChar, ih]
    rfl

/-! ## Quotes over several lines -/

/-- A double quote that is not the first of three is read as it is. -/
theorem basicBody_quote {rest : List Char} (h : ¬StartsTwice '"' rest) :
    basicBody true .off ('"' :: rest) = before '"' (basicBody true .off rest) := by
  rw [basicBody.eq_def]
  simp only [Bool.not_true, Bool.false_eq_true, if_false]
  split
  · exact absurd ⟨_, rfl⟩ h
  · exact absurd ⟨_, rfl⟩ h
  · exact absurd ⟨_, rfl⟩ h
  · rfl

/-- The same for a single quote. -/
theorem literalBody_quote {rest : List Char} (h : ¬StartsTwice '\'' rest) :
    literalBody true ('\'' :: rest) = before '\'' (literalBody true rest) := by
  rw [literalBody.eq_def]
  simp only [Bool.not_true, Bool.false_eq_true, if_false]
  split
  · exact absurd ⟨_, rfl⟩ h
  · exact absurd ⟨_, rfl⟩ h
  · exact absurd ⟨_, rfl⟩ h
  · rfl

/-- Up to two double quotes before the last three are read as part of the text. -/
theorem basicBody_end {count : Nat} (hcount : count ≤ 2) {rest : List Char} (h : Unquoted rest) :
    basicBody true .off (List.replicate count '"' ++ '"' :: '"' :: '"' :: rest) =
      some (List.replicate count '"', rest) := by
  have hrest (others : List Char) : rest ≠ '"' :: others := by
    rintro rfl
    exact (h '"' rfl).1 rfl
  obtain rfl | rfl | rfl : count = 0 ∨ count = 1 ∨ count = 2 := by omega
  all_goals simp [List.replicate, basicBody, hrest]

/-- The same for single quotes. -/
theorem literalBody_end {count : Nat} (hcount : count ≤ 2) {rest : List Char} (h : Unquoted rest) :
    literalBody true (List.replicate count '\'' ++ '\'' :: '\'' :: '\'' :: rest) =
      some (List.replicate count '\'', rest) := by
  have hrest (others : List Char) : rest ≠ '\'' :: others := by
    rintro rfl
    exact (h '\'' rfl).2 rfl
  obtain rfl | rfl | rfl : count = 0 ∨ count = 1 ∨ count = 2 := by omega
  all_goals simp [List.replicate, literalBody, hrest]

/-! ## Texts over several lines -/

/-- No more than two double quotes stand for themselves in a row. -/
theorem exists_escapeLines_eq_cons {quotes : Nat} {c : Char} (h : 2 ≤ quotes ∨ c ≠ '"')
    (text : List Char) : ∃ x others, escapeLines quotes (c :: text) = x :: others ∧ x ≠ '"' := by
  unfold escapeLines
  split
  · rename_i hquote
    rw [if_neg (Nat.not_lt.2 (h.resolve_right fun hne => hne hquote))]
    exact ⟨'\\', _, rfl, by decide⟩
  · split
    · exact ⟨'\n', _, rfl, by decide⟩
    · obtain ⟨x, others, hescape, hx, -⟩ := exists_escapeChar_eq_cons c
      rw [hescape]
      exact ⟨x, _, rfl, hx⟩

/-- Behind a double quote that stands for itself there are two more only at the end. -/
theorem not_startsTwice_escapeLines {quotes : Nat} (hquotes : 1 ≤ quotes) {text : List Char}
    (hne : text ≠ []) (hlast : quotes = 1 → text ≠ ['"']) (rest : List Char) :
    ¬StartsTwice '"' (escapeLines quotes text ++ rest) := by
  cases text with
  | nil => exact absurd rfl hne
  | cons c text =>
    have hcases : (2 ≤ quotes ∨ c ≠ '"') ∨ quotes = 1 ∧ c = '"' := by
      by_cases hquote : c = '"'
      · rcases Nat.lt_or_ge quotes 2 with hfew | hmany
        · exact Or.inr ⟨by omega, hquote⟩
        · exact Or.inl (Or.inl hmany)
      · exact Or.inl (Or.inr hquote)
    rcases hcases with hother | ⟨rfl, rfl⟩
    · obtain ⟨x, others, hlines, hx⟩ := exists_escapeLines_eq_cons hother text
      rw [hlines]
      exact not_startsTwice_cons hx _
    · -- One more quote stands for itself, and behind it none does.
      cases text with
      | nil => exact absurd rfl (hlast rfl)
      | cons d text =>
        obtain ⟨x, others, hlines, hx⟩ :=
          exists_escapeLines_eq_cons (Or.inl (Nat.le_refl 2) : 2 ≤ 2 ∨ d ≠ '"') text
        have hquote : escapeLines 1 ('"' :: d :: text) = '"' :: x :: others := by
          rw [escapeLines, if_pos rfl, if_pos (by decide), hlines]
        rw [hquote]
        rintro ⟨behind, heq⟩
        exact hx (List.cons.inj (List.cons.inj heq).2).1

/-- A text escaped over several lines is read back, up to the three quotes that end it. -/
theorem basicBody_escapeLines {quotes : Nat} (hquotes : quotes ≤ 2) (text : List Char)
    {rest : List Char} (h : Unquoted rest) :
    basicBody true .off (escapeLines quotes text ++ '"' :: '"' :: '"' :: rest) =
      some (text, rest) := by
  induction text generalizing quotes with
  | nil => exact basicBody_end (Nat.zero_le 2) h
  | cons c text ih =>
    unfold escapeLines
    by_cases hquote : c = '"'
    · subst hquote
      rw [if_pos rfl]
      by_cases hfew : quotes < 2
      · rw [if_pos hfew]
        -- Quotes at the very end are read together with the three behind them.
        by_cases hnil : text = []
        · subst hnil
          exact basicBody_end (Nat.le_of_lt (by decide : 1 < 2)) h
        by_cases hlast : quotes = 0 ∧ text = ['"']
        · obtain ⟨rfl, rfl⟩ := hlast
          exact basicBody_end (Nat.le_refl 2) h
        rw [List.cons_append, basicBody_quote, ih (by omega)]
        · rfl
        · exact not_startsTwice_escapeLines (Nat.le_add_left 1 quotes) hnil
            (fun hone htext => hlast ⟨by omega, htext⟩) _
      · rw [if_neg hfew]
        have hescape := basicBody_escapeChar true '"'
          (escapeLines 0 text ++ '"' :: '"' :: '"' :: rest)
        rw [ih (Nat.zero_le 2)] at hescape
        exact hescape
    · rw [if_neg hquote]
      by_cases hbreak : c = '\n'
      · subst hbreak
        rw [if_pos rfl, List.cons_append,
          basicBody_cons (by decide) (by decide) (Or.inr ⟨rfl, rfl⟩), ih (Nat.zero_le 2)]
        rfl
      · rw [if_neg hbreak, List.append_assoc, basicBody_escapeChar, ih (Nat.zero_le 2)]
        rfl

/-! ## Between single quotes -/

/-- A character that stands for itself between single quotes is read as it is. -/
theorem literalBody_cons {lines : Bool} {c : Char} (hquote : c ≠ '\'')
    (h : isPlain c = true ∨ lines = true ∧ c = '\n') (rest : List Char) :
    literalBody lines (c :: rest) = before c (literalBody lines rest) := by
  have hreturn : c ≠ '\r' := by
    rcases h with h | ⟨-, rfl⟩
    · exact (of_isPlain h).2
    · decide
  rw [literalBody, if_pos h] <;> simp_all

/-- A text without breaks and single quotes is read back behind its opening quote. -/
theorem literalBody_line {text : List Char} (h : ∀ c ∈ text, isPlain c = true ∧ c ≠ '\'')
    (rest : List Char) : literalBody false (text ++ '\'' :: rest) = some (text, rest) := by
  induction text with
  | nil =>
    rw [List.nil_append, literalBody.eq_def]
    rfl
  | cons c text ih =>
    obtain ⟨hplain, hquote⟩ := h c List.mem_cons_self
    rw [List.cons_append, literalBody_cons hquote (Or.inl hplain),
      ih fun x hx => h x (List.mem_cons_of_mem c hx)]
    rfl

/-- A text without three single quotes in a row has no two of them behind another one, unless it
is at its end. -/
theorem not_startsTwice_of_hasRun {text : List Char} (h : hasRun '\'' 3 ('\'' :: text) = false)
    (hne : text ≠ []) (hlast : text ≠ ['\'']) (rest : List Char) :
    ¬StartsTwice '\'' (text ++ rest) := by
  obtain ⟨c, text, rfl⟩ := List.exists_cons_of_ne_nil hne
  rintro ⟨behind, heq⟩
  obtain ⟨rfl, hbehind⟩ := List.cons.inj heq
  cases text with
  | nil => exact hlast rfl
  | cons d text =>
    obtain ⟨rfl, -⟩ := List.cons.inj hbehind
    simp [hasRun, List.replicate] at h

/-- A text without three single quotes in a row is read back, up to the three that end it. -/
theorem literalBody_lines {text : List Char}
    (hplain : ∀ c ∈ text, isPlain c = true ∨ c = '\n') (hrun : hasRun '\'' 3 text = false)
    {rest : List Char} (h : Unquoted rest) :
    literalBody true (text ++ '\'' :: '\'' :: '\'' :: rest) = some (text, rest) := by
  induction text with
  | nil => exact literalBody_end (Nat.zero_le 2) h
  | cons c text ih =>
    have hothers := ih (fun x hx => hplain x (List.mem_cons_of_mem c hx))
      (Bool.or_eq_false_iff.1 hrun).2
    by_cases hquote : c = '\''
    · subst hquote
      -- As between double quotes, the last one or two are read with those that end the text.
      by_cases hnil : text = []
      · subst hnil
        exact literalBody_end (Nat.le_of_lt (by decide : 1 < 2)) h
      by_cases hlast : text = ['\'']
      · subst hlast
        exact literalBody_end (Nat.le_refl 2) h
      rw [List.cons_append, literalBody_quote (not_startsTwice_of_hasRun hrun hnil hlast _),
        hothers]
      rfl
    · have hstands : isPlain c = true ∨ true = true ∧ c = '\n' :=
        (hplain c List.mem_cons_self).imp_right fun hbreak => ⟨rfl, hbreak⟩
      rw [List.cons_append, literalBody_cons hquote hstands, hothers]
      rfl

/-! ## Line breaks at the start -/

/-- A text that starts with no break is left as it is. -/
theorem dropBreak_cons {c : Char} (hbreak : c ≠ '\n') (hreturn : c ≠ '\r') (rest : List Char) :
    dropBreak (c :: rest) = c :: rest := by
  have hnone : behindBreak? (c :: rest) = none := by
    unfold behindBreak?
    split <;> simp_all
  rw [dropBreak, hnone]
  rfl

/-- The break that is put in front of a text is dropped, and none where there is none. -/
theorem dropBreak_leadingBreak {text body : List Char}
    (h : '\n' ∉ text → ∃ c rest, body = c :: rest ∧ c ≠ '\n' ∧ c ≠ '\r') :
    dropBreak (leadingBreak text ++ body) = body := by
  unfold leadingBreak
  split
  · rfl
  · rename_i hnone
    obtain ⟨c, rest, rfl, hbreak, hreturn⟩ := h (by simpa using hnone)
    exact dropBreak_cons hbreak hreturn rest

/-! ## Forms -/

/-- The characters of a text that keeps its form between single quotes are plain or line breaks. -/
theorem isPlain_of_any_eq_false {text : List Char}
    (h : (text.any fun c => isControl c && c ≠ '\t' && c ≠ '\n') = false) {c : Char}
    (hc : c ∈ text) : isPlain c = true ∨ c = '\n' := by
  have hcontrol := List.any_eq_false.1 h c hc
  by_cases hbreak : c = '\n'
  · exact Or.inr hbreak
  by_cases htab : c = '\t'
  · rw [htab]
    exact Or.inl (by decide)
  · exact Or.inl (isPlain_of_not_isControl (by simpa [hbreak, htab] using hcontrol))

/-- A text between single quotes on one line is plain and holds no single quote. -/
theorem of_formOf_eq_literal {text : List Char} (h : formOf text = .literal) {c : Char}
    (hc : c ∈ text) : isPlain c = true ∧ c ≠ '\'' := by
  unfold formOf at h
  dsimp only at h
  split at h
  · cases h
  split at h
  · rename_i hform
    simp only [Bool.and_eq_true, Bool.not_eq_true', List.contains_eq_mem,
      decide_eq_false_iff_not] at hform
    obtain ⟨⟨hquote, hbreak⟩, hcontrol⟩ := hform
    refine ⟨(isPlain_of_any_eq_false hcontrol hc).resolve_right ?_, ?_⟩
    · exact fun heq => hbreak (heq ▸ hc)
    · exact fun heq => hquote (heq ▸ hc)
  split at h
  · cases h
  split at h
  · cases h
  split at h <;> cases h

/-- A text between single quotes over several lines holds no three of them in a row, and else what
is plain or a line break. -/
theorem of_formOf_eq_literalLines {text : List Char} (h : formOf text = .literalLines) :
    (∀ c ∈ text, isPlain c = true ∨ c = '\n') ∧ hasRun '\'' 3 text = false := by
  unfold formOf at h
  dsimp only at h
  split at h
  · cases h
  split at h
  · cases h
  split at h
  · cases h
  split at h
  · rename_i hform
    rw [Bool.and_eq_true, Bool.not_eq_true', Bool.not_eq_true'] at hform
    exact ⟨fun c hc => isPlain_of_any_eq_false hform.1 hc, hform.2⟩
  split at h <;> cases h

/-! ## Strings -/

/-- A string between double quotes on one line. -/
theorem string?_basic {body : List Char} (h : ¬StartsTwice '"' body) :
    string? ('"' :: body) =
      (basicBody false .off body).map fun read => (String.ofList read.1, read.2) := by
  unfold string?
  split
  · rename_i heq
    exact absurd ⟨_, (List.cons.inj heq).2⟩ h
  · rename_i heq
    rw [(List.cons.inj heq).2]
  all_goals simp_all

/-- A string between single quotes on one line. -/
theorem string?_literal {body : List Char} (h : ¬StartsTwice '\'' body) :
    string? ('\'' :: body) =
      (literalBody false body).map fun read => (String.ofList read.1, read.2) := by
  unfold string?
  split
  case h_3 heq => exact absurd ⟨_, (List.cons.inj heq).2⟩ h
  case h_4 heq => rw [(List.cons.inj heq).2]
  all_goals simp_all

/-- A string between double quotes over several lines. -/
theorem string?_basicLines (body : List Char) :
    string? ('"' :: '"' :: '"' :: body) =
      (basicBody true .off (dropBreak body)).map fun read => (String.ofList read.1, read.2) :=
  rfl

/-- A string between single quotes over several lines. -/
theorem string?_literalLines (body : List Char) :
    string? ('\'' :: '\'' :: '\'' :: body) =
      (literalBody true (dropBreak body)).map fun read => (String.ofList read.1, read.2) :=
  rfl

variable {text rest : List Char}

/-- A text escaped on one line is read back as a string. -/
theorem string?_escaped (text : List Char) (h : Unquoted rest) :
    string? ('"' :: (text.flatMap escapeChar ++ '"' :: rest)) =
      some (String.ofList text, rest) := by
  have honce : ¬StartsTwice '"' (text.flatMap escapeChar ++ '"' :: rest) := by
    cases text with
    | nil => exact h.not_startsTwice (Or.inl rfl)
    | cons c text =>
      obtain ⟨x, others, hescape, hx, -⟩ := exists_escapeChar_eq_cons c
      rw [List.flatMap_cons, hescape]
      exact not_startsTwice_cons hx _
  rw [string?_basic honce, basicBody_flatMap_escapeChar]
  rfl

/-- A text between single quotes on one line is read back as a string. -/
theorem string?_line (hform : formOf text = .literal) (h : Unquoted rest) :
    string? ('\'' :: (text ++ '\'' :: rest)) = some (String.ofList text, rest) := by
  have honce : ¬StartsTwice '\'' (text ++ '\'' :: rest) := by
    cases text with
    | nil => exact h.not_startsTwice (Or.inr rfl)
    | cons c text =>
      exact not_startsTwice_cons (of_formOf_eq_literal hform List.mem_cons_self).2 _
  rw [string?_literal honce, literalBody_line fun c hc => of_formOf_eq_literal hform hc]
  rfl

/-- A text escaped over several lines is read back as a string. -/
theorem string?_escapedLines (text : List Char) (h : Unquoted rest) :
    string? ('"' :: '"' :: '"' ::
        (leadingBreak text ++ (escapeLines 0 text ++ '"' :: '"' :: '"' :: rest))) =
      some (String.ofList text, rest) := by
  have hbreak : dropBreak
      (leadingBreak text ++ (escapeLines 0 text ++ '"' :: '"' :: '"' :: rest)) =
        escapeLines 0 text ++ '"' :: '"' :: '"' :: rest := by
    refine dropBreak_leadingBreak fun hnone => ?_
    -- No line break was put in front, and the text does not start with one itself.
    cases text with
    | nil => exact ⟨'"', _, rfl, by decide, by decide⟩
    | cons c text =>
      unfold escapeLines
      by_cases hquote : c = '"'
      · rw [if_pos hquote, if_pos (by decide)]
        exact ⟨'"', _, rfl, by decide, by decide⟩
      · have hc : c ≠ '\n' := fun heq => hnone (heq ▸ List.mem_cons_self)
        obtain ⟨x, others, hescape, -, hx⟩ := exists_escapeChar_eq_cons c
        rw [if_neg hquote, if_neg hc, hescape]
        exact ⟨x, _, rfl, hx⟩
  rw [string?_basicLines, hbreak, basicBody_escapeLines (Nat.zero_le 2) text h]
  rfl

/-- A text between single quotes over several lines is read back as a string. -/
theorem string?_lines (hform : formOf text = .literalLines) (h : Unquoted rest) :
    string? ('\'' :: '\'' :: '\'' ::
        (leadingBreak text ++ (text ++ '\'' :: '\'' :: '\'' :: rest))) =
      some (String.ofList text, rest) := by
  obtain ⟨hplain, hrun⟩ := of_formOf_eq_literalLines hform
  have hbreak : dropBreak (leadingBreak text ++ (text ++ '\'' :: '\'' :: '\'' :: rest)) =
      text ++ '\'' :: '\'' :: '\'' :: rest := by
    refine dropBreak_leadingBreak fun hnone => ?_
    cases text with
    | nil => exact ⟨'\'', _, rfl, by decide, by decide⟩
    | cons c text =>
      have hc : c ≠ '\n' := fun heq => hnone (heq ▸ List.mem_cons_self)
      exact ⟨c, _, rfl, of_isPlain ((hplain c List.mem_cons_self).resolve_right hc)⟩
  rw [string?_literalLines, hbreak, literalBody_lines hplain hrun h]
  rfl

/-- A string is read back, whichever form it takes. -/
theorem string?_renderString (text : List Char) (h : Unquoted rest) :
    string? (renderString text ++ rest) = some (String.ofList text, rest) := by
  unfold renderString
  cases hform : formOf text with
  | basic => simpa using string?_escaped text h
  | escaped => simpa using string?_escaped text h
  | literal => simpa using string?_line hform h
  | basicLines => simpa using string?_escapedLines text h
  | escapedLines => simpa using string?_escapedLines text h
  | literalLines => simpa using string?_lines hform h

example :
    ["walls", "C:\\", "it's \"", "'\\", "\x01", "\n\x01"].map (fun s => formOf s.toList) =
      [.basic, .literal, .basicLines, .literalLines, .escaped, .escapedLines] := by
  decide

/-- A string starts with a quote. -/
theorem exists_renderString_eq_cons (text : List Char) :
    ∃ c others, renderString text = c :: others ∧ (c = '"' ∨ c = '\'') := by
  unfold renderString
  cases formOf text with
  | basic => exact ⟨'"', _, rfl, Or.inl rfl⟩
  | escaped => exact ⟨'"', _, rfl, Or.inl rfl⟩
  | literal => exact ⟨'\'', _, rfl, Or.inr rfl⟩
  | basicLines => exact ⟨'"', _, rfl, Or.inl rfl⟩
  | escapedLines => exact ⟨'"', _, rfl, Or.inl rfl⟩
  | literalLines => exact ⟨'\'', _, rfl, Or.inr rfl⟩

end WallpaperRotation.Toml
