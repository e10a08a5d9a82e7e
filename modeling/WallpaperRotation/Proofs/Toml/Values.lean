/-
# Values of TOML documents read back

A value is read as the item that it was written for: a string, a truth value, or an array of
strings, be it on one line or with a line for each of them.
-/
import WallpaperRotation.Proofs.Toml.Strings
import WallpaperRotation.Toml.Reader

namespace WallpaperRotation.Toml

/-- The item that a value is written for. -/
def Value.item : Value → Item
  | .string text => .string text
  | .boolean b => .boolean b
  | .strings texts => .array (texts.map .string)

@[simp] theorem Value.item_string (text : String) : (Value.string text).item = .string text := rfl

@[simp] theorem Value.item_boolean (b : Bool) : (Value.boolean b).item = .boolean b := rfl

@[simp] theorem Value.item_strings (texts : List String) :
    (Value.strings texts).item = .array (texts.map .string) := rfl

/-! ## Blanks and breaks -/

/-- The character is no blank, starts no comment and ends no line. -/
def IsSolid (c : Char) : Prop :=
  isSpace c = false ∧ c ≠ '#' ∧ c ≠ '\n' ∧ c ≠ '\r'

/-- A quote is solid. -/
theorem isSolid_of_quote {c : Char} (h : c = '"' ∨ c = '\'') : IsSolid c := by
  rcases h with rfl | rfl <;> exact ⟨by decide, by decide, by decide, by decide⟩

/-- A solid character ends no line. -/
theorem IsSolid.behindBreak?_cons {c : Char} (h : IsSolid c) (rest : List Char) :
    behindBreak? (c :: rest) = none := by
  obtain ⟨-, -, hbreak, hreturn⟩ := h
  unfold behindBreak?
  split <;> simp_all

/-- Nothing is skipped before a solid character but blanks. -/
theorem IsSolid.skipLines_blanks {c : Char} (h : IsSolid c) (fuel : Nat) {blanks : List Char}
    (hblanks : ∀ x ∈ blanks, isSpace x = true) (rest : List Char) :
    skipLines (fuel + 1) (blanks ++ c :: rest) = c :: rest := by
  have hskip : skipSpace (blanks ++ c :: rest) = c :: rest := by
    unfold skipSpace
    rw [List.dropWhile_append_of_pos hblanks, List.dropWhile_cons_of_neg (by simp [h.1])]
  rw [skipLines, hskip]
  split
  · rename_i heq
    exact absurd (List.cons.inj heq).1 h.2.1
  · rw [h.behindBreak?_cons]

/-- Nothing is skipped before a solid character. -/
theorem IsSolid.skipAll_cons {c : Char} (h : IsSolid c) (rest : List Char) :
    skipAll (c :: rest) = c :: rest :=
  h.skipLines_blanks _ (List.forall_mem_nil _) rest

/-- A line break is skipped, and blanks behind it, before a solid character. -/
theorem IsSolid.skipAll_break {c : Char} (h : IsSolid c) {blanks : List Char}
    (hblanks : ∀ x ∈ blanks, isSpace x = true) (rest : List Char) :
    skipAll ('\n' :: (blanks ++ c :: rest)) = c :: rest := by
  rw [skipAll, List.length_cons, skipLines]
  exact h.skipLines_blanks _ hblanks rest

/-! ## Arrays -/

section Arrays

variable {value : Reader Item} {fuel : Nat} {text : String} {start rest others : List Char}

/-- A string is no closing bracket. -/
theorem renderString_ne_bracket (text rest others : List Char) :
    renderString text ++ rest ≠ ']' :: others := by
  obtain ⟨c, behind, hrender, hquote⟩ := exists_renderString_eq_cons text
  rw [hrender]
  intro heq
  rcases hquote with rfl | rfl <;> cases heq

/-- A string before the closing bracket is the last element. -/
theorem elements?_last (hstart : skipAll start = renderString text.toList ++ rest)
    (hvalue : value (renderString text.toList ++ rest) = some (.string text, rest))
    (hrest : skipAll rest = ']' :: others) :
    elements? value (fuel + 1) start = some ([.string text], others) := by
  rw [elements?, hstart]
  split
  · rename_i heq
    exact absurd heq (renderString_ne_bracket _ _ _)
  · rw [hvalue]
    simp only [Option.bind_eq_bind, Option.bind_some, hrest]

/-- Behind a string with a comma the other elements follow. -/
theorem elements?_comma (hstart : skipAll start = renderString text.toList ++ ',' :: rest)
    (hvalue : value (renderString text.toList ++ ',' :: rest) =
      some (.string text, ',' :: rest))
    {items : List Item} (hrest : elements? value fuel rest = some (items, others)) :
    elements? value (fuel + 1) start = some (.string text :: items, others) := by
  have hcomma : skipAll (',' :: rest) = ',' :: rest :=
    IsSolid.skipAll_cons ⟨by decide, by decide, by decide, by decide⟩ rest
  rw [elements?, hstart]
  split
  · rename_i heq
    exact absurd heq (renderString_ne_bracket _ _ _)
  · rw [hvalue]
    simp only [Option.bind_eq_bind, Option.bind_some, hcomma, hrest]

/-- The bracket that closes an array is solid. -/
theorem isSolid_bracket : IsSolid ']' :=
  ⟨by decide, by decide, by decide, by decide⟩

/-- The line of a string in an array of more than one. -/
def elementLine (text : String) : List Char :=
  "    ".toList ++ renderString text.toList ++ [',', '\n']

/-- Strings on lines of their own are the elements of an array. -/
theorem elements?_lines {texts : List String} (hfuel : texts.length < fuel)
    (hvalue : ∀ text rest, Unquoted rest →
      value (renderString text.toList ++ rest) = some (.string text, rest)) (rest : List Char) :
    elements? value fuel ('\n' :: (texts.flatMap elementLine ++ ']' :: rest)) =
      some (texts.map .string, rest) := by
  induction texts generalizing fuel with
  | nil =>
    obtain ⟨fuel, rfl⟩ := Nat.exists_eq_succ_of_ne_zero (Nat.ne_of_gt hfuel)
    have hskip : skipAll ('\n' :: ([] ++ ']' :: rest)) = ']' :: rest :=
      isSolid_bracket.skipAll_break (List.forall_mem_nil _) rest
    rw [List.flatMap_nil, elements?, hskip]
    rfl
  | cons text texts ih =>
    obtain ⟨fuel, rfl⟩ := Nat.exists_eq_succ_of_ne_zero (Nat.ne_of_gt (Nat.zero_lt_of_lt hfuel))
    have hothers := ih (Nat.lt_of_succ_lt_succ hfuel)
    have hstart : skipAll ('\n' :: ((text :: texts).flatMap elementLine ++ ']' :: rest)) =
        renderString text.toList ++
          ',' :: '\n' :: (texts.flatMap elementLine ++ ']' :: rest) := by
      obtain ⟨c, others, hrender, hquote⟩ := exists_renderString_eq_cons text.toList
      have hskip := (isSolid_of_quote hquote).skipAll_break
        (List.all_eq_true.1 (by decide : "    ".toList.all isSpace = true))
        (others ++ ',' :: '\n' :: (texts.flatMap elementLine ++ ']' :: rest))
      simpa [elementLine, hrender] using hskip
    exact elements?_comma hstart (hvalue text _ (unquoted_cons ⟨by decide, by decide⟩ _)) hothers

/-- There are no more elements than characters. -/
theorem length_le_flatMap_elementLine (texts : List String) :
    texts.length ≤ (texts.flatMap elementLine).length := by
  induction texts with
  | nil => exact Nat.zero_le _
  | cons text texts ih =>
    have hline : 1 ≤ (elementLine text).length := by
      rw [elementLine, List.length_append]
      exact Nat.le_add_left_of_le (by decide)
    rw [List.flatMap_cons, List.length_append, List.length_cons, Nat.add_comm]
    exact Nat.add_le_add hline ih

end Arrays

/-! ## Values -/

/-- A string is read back as a value. -/
theorem value?_string (levels : Nat) (text : String) {rest : List Char} (h : Unquoted rest) :
    value? levels (renderString text.toList ++ rest) = some (.string text, rest) := by
  obtain ⟨c, others, hrender, hquote⟩ := exists_renderString_eq_cons text.toList
  have hstring := string?_renderString text.toList h
  rw [hrender, String.ofList_toList, List.cons_append] at hstring
  rw [hrender, List.cons_append, value?, if_pos hquote, hstring]
  · rfl
  · rcases hquote with rfl | rfl <;> decide
  · rcases hquote with rfl | rfl <;> decide

/-- An array of strings is read back. -/
theorem value?_strings (levels : Nat) (texts : List String) (rest : List Char) :
    value? (levels + 1) ((Value.strings texts).render ++ rest) =
      some (.array (texts.map .string), rest) := by
  rcases texts with _ | ⟨text, _ | ⟨second, texts⟩⟩
  · show value? (levels + 1) ('[' :: ']' :: rest) = _
    rw [value?, elements?, isSolid_bracket.skipAll_cons rest]
    rfl
  · obtain ⟨c, others, hrender, hquote⟩ := exists_renderString_eq_cons text.toList
    have hstart : skipAll (renderString text.toList ++ ']' :: rest) =
        renderString text.toList ++ ']' :: rest := by
      rw [hrender]
      exact (isSolid_of_quote hquote).skipAll_cons _
    have hvalue := value?_string levels text
      (unquoted_cons ⟨by decide, by decide⟩ rest : Unquoted (']' :: rest))
    have hrender : (Value.strings [text]).render ++ rest =
        '[' :: (renderString text.toList ++ ']' :: rest) := by
      simp [Value.render]
    rw [hrender, value?, elements?_last hstart hvalue (isSolid_bracket.skipAll_cons rest)]
    rfl
  · have hrender : (Value.strings (text :: second :: texts)).render ++ rest =
        '[' :: '\n' :: ((text :: second :: texts).flatMap elementLine ++ ']' :: rest) := by
      have hlines : (Value.strings (text :: second :: texts)).render =
          '[' :: '\n' :: ((text :: second :: texts).flatMap elementLine ++ [']']) := rfl
      rw [hlines, List.cons_append, List.cons_append, List.append_assoc, List.singleton_append]
    -- The reader of an array takes no more elements than there are characters left.
    have hfuel : (text :: second :: texts).length <
        ('\n' :: ((text :: second :: texts).flatMap elementLine ++ ']' :: rest)).length + 1 := by
      have := length_le_flatMap_elementLine (text :: second :: texts)
      simp only [List.length_cons, List.length_append] at this ⊢
      omega
    rw [hrender, value?, elements?_lines hfuel fun text rest h => value?_string levels text h]
    rfl

/-- A value is read back, with any levels that may be below it. -/
theorem value?_render (levels : Nat) (value : Value) {rest : List Char} (h : Unquoted rest) :
    value? (levels + 1) (value.render ++ rest) = some (value.item, rest) := by
  cases value with
  | string text => exact value?_string (levels + 1) text h
  | boolean b => cases b <;> rfl
  | strings texts => exact value?_strings levels texts rest

/-- No value starts with a blank. -/
theorem exists_render_eq_cons (value : Value) :
    ∃ c others, value.render = c :: others ∧ isSpace c = false := by
  cases value with
  | string text =>
    obtain ⟨c, others, hrender, hquote⟩ := exists_renderString_eq_cons text.toList
    exact ⟨c, others, hrender, (isSolid_of_quote hquote).1⟩
  | boolean b => cases b <;> exact ⟨_, _, rfl, by decide⟩
  | strings texts =>
    rcases texts with _ | ⟨text, _ | ⟨second, texts⟩⟩ <;> exact ⟨'[', _, rfl, by decide⟩

end WallpaperRotation.Toml
