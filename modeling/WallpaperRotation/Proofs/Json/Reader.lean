/-
# Values read back

A reader reads a value when, wherever the value is written, it returns what the value stands for
and the text behind it.  Scalars, lists and records of readable values are readable, so a value
that is written as a text is read back from it.
-/
import Mathlib.Data.List.Forall2
import WallpaperRotation.Json.Reader
import WallpaperRotation.Proofs.Json.Scan

namespace WallpaperRotation.Json

/-! ## Blanks and what is behind a value -/

/-- The text is blank. -/
def IsBlank (text : List Char) : Prop :=
  ∀ c ∈ text, isSpace c = true

/-- The text is one that stands behind a value: nothing, a comma or a line break. -/
def EndsValue (rest : List Char) : Prop :=
  ∀ c ∈ rest.head?, c = ',' ∨ c = '\n'

/-- What stands behind a value does not go on with a number. -/
theorem EndsValue.endsNumber {rest : List Char} (h : EndsValue rest) : EndsNumber rest := by
  intro c hc
  rcases h c hc with rfl | rfl <;> decide

/-- A line break is blank. -/
theorem isBlank_lineBreak (depth : Nat) : IsBlank (lineBreak depth) := by
  intro c hc
  rcases List.mem_cons.1 hc with rfl | hc
  · rfl
  · rw [List.eq_of_mem_replicate hc]
    rfl

/-- One blank is blank. -/
theorem isBlank_singleton : IsBlank [' '] := by
  intro c hc
  rw [List.mem_singleton.1 hc]
  rfl

/-- Blanks in front are skipped. -/
theorem skipSpace_append {blanks : List Char} (h : IsBlank blanks) (text : List Char) :
    skipSpace (blanks ++ text) = skipSpace text :=
  List.dropWhile_append_of_pos h

/-- A text is not skipped from a character on that is not blank. -/
theorem skipSpace_cons {c : Char} (h : isSpace c = false) (text : List Char) :
    skipSpace (c :: text) = c :: text := by
  simp [skipSpace, h]

/-- A written value starts with a character that is not blank and closes nothing. -/
theorem exists_render_eq_cons (value : Value) (depth : Nat) :
    ∃ c text, value.render depth = c :: text ∧ isSpace c = false ∧ c ≠ ']' ∧ c ≠ '}' := by
  cases value with
  | null => exact ⟨'n', _, by rw [Value.render], by decide⟩
  | natural n =>
    cases hdigits : (toString n).toList with
    | nil => exact absurd hdigits (Text.toList_toString_ne_nil n)
    | cons c text =>
      have hc : c.isDigit = true := Text.isDigit_of_mem_toString (hdigits ▸ List.mem_cons_self)
      refine ⟨c, text, by rw [Value.render, hdigits], ?_, ?_, ?_⟩
      · by_contra hspace
        simp only [isSpace, Bool.not_eq_false, Bool.or_eq_true, decide_eq_true_eq] at hspace
        rcases hspace with ((rfl | rfl) | rfl) | rfl <;> cases hc
      · rintro rfl
        cases hc
      · rintro rfl
        cases hc
  | string text => exact ⟨'"', _, by rw [Value.render_string, quote, List.cons_append], by decide⟩
  | list elements =>
    cases elements with
    | nil => exact ⟨'[', _, by rw [Value.render], by decide⟩
    | cons element elements =>
      exact ⟨'[', _, by rw [Value.render]; rfl, by decide⟩
  | object members =>
    cases members with
    | nil => exact ⟨'{', _, by rw [Value.render], by decide⟩
    | cons member members =>
      obtain ⟨name, value⟩ := member
      exact ⟨'{', _, by rw [Value.render]; rfl, by decide⟩

/-- A written value is not skipped. -/
theorem skipSpace_render (value : Value) (depth : Nat) (rest : List Char) :
    skipSpace (value.render depth ++ rest) = value.render depth ++ rest := by
  obtain ⟨c, text, hrender, hspace, -, -⟩ := exists_render_eq_cons value depth
  rw [hrender, List.cons_append, skipSpace_cons hspace]

/-! ## Reading -/

/-- The reader finds `found` wherever the value is written. -/
def Reads {α : Type} (reader : Reader α) (value : Value) (found : α) : Prop :=
  ∀ blanks depth rest, IsBlank blanks → EndsValue rest →
    reader (blanks ++ (value.render depth ++ rest)) = .ok (found, rest)

/-- A string is read back. -/
theorem reads_string (text : String) : Reads string (.string text) text := by
  intro blanks depth rest hblanks _
  unfold string
  rw [skipSpace_append hblanks, skipSpace_render, Value.render_string]
  simp only [quote, List.cons_append, List.append_assoc, List.nil_append, stringBody_quote]
  simp [Except.map]

/-- A natural number up to the greatest one is read back. -/
theorem reads_natural {n greatest : Nat} (h : n ≤ greatest) (hgreatest : greatest < numberLimit) :
    Reads (natural greatest) (.natural n) n := by
  intro blanks depth rest hblanks hrest
  have hread := natural?_toString (Nat.lt_of_le_of_lt h hgreatest) hrest.endsNumber
  unfold natural
  rw [skipSpace_append hblanks, skipSpace_render, Value.render]
  cases hdigits : (toString n).toList with
  | nil => exact absurd hdigits (Text.toList_toString_ne_nil n)
  | cons c digits =>
    have hc : c.isDigit = true := Text.isDigit_of_mem_toString (hdigits ▸ List.mem_cons_self)
    rw [hdigits] at hread
    have hstarts : startsNumber c = true := by
      rw [startsNumber, hc, Bool.or_true]
    simp only [List.cons_append, hstarts, if_true] at hread ⊢
    simp only [hread, bind, Except.bind, if_pos h]

/-- A value is read back through a conversion. -/
theorem Reads.restrict {α β : Type} {reader : Reader α} {value : Value} {found : α}
    (h : Reads reader value found) {convert : α → Option β} {converted : β}
    (hconvert : convert found = some converted) :
    Reads (Json.restrict reader convert) value converted := by
  intro blanks depth rest hblanks hrest
  simp only [Json.restrict, h blanks depth rest hblanks hrest, bind, Except.bind, hconvert]

/-- The word for none is read back. -/
theorem reads_none {α : Type} (reader : Reader α) : Reads (optional reader) .null none := by
  intro blanks depth rest hblanks _
  unfold optional
  rw [skipSpace_append hblanks, skipSpace_render]
  simp [Value.render, behindWord, Except.map]

/-- A text that may be missing is read back. -/
theorem Reads.optional {α : Type} {reader : Reader α} {text : String} {found : α}
    (h : Reads reader (.string text) found) :
    Reads (optional reader) (.string text) (some found) := by
  intro blanks depth rest hblanks hrest
  have hread := h [] depth rest (fun _ hc => absurd hc List.not_mem_nil) hrest
  unfold Json.optional
  rw [skipSpace_append hblanks, skipSpace_render]
  rw [List.nil_append] at hread
  simp only [Value.render_string, quote, List.cons_append] at hread ⊢
  split
  · rename_i heq
    exact absurd (List.cons.inj heq).1 (by decide)
  · rw [hread]
    rfl

/-! ## Lists -/

/-- Behind a value comes a comma or a line break. -/
theorem endsValue_renderElements (depth outer : Nat) (values : List Value) (rest : List Char) :
    EndsValue (renderElements depth values ++ (lineBreak outer ++ rest)) := by
  intro c hc
  cases values with
  | nil => exact Or.inr (by simpa [renderElements_nil, lineBreak, eq_comm] using hc)
  | cons value values => exact Or.inl (by simpa [renderElements, eq_comm] using hc)

/-- Each element behind the first one takes a character at least. -/
theorem length_le_renderElements (depth : Nat) (values : List Value) :
    values.length ≤ (renderElements depth values).length := by
  induction values with
  | nil => exact Nat.zero_le _
  | cons value values ih =>
    simp only [renderElements, List.length_cons, List.length_append]
    omega

/-- The elements behind the first one are read back. -/
theorem moreElements_renderElements {α : Type} {element : Reader α} {values : List Value}
    {elements : List α} (h : List.Forall₂ (Reads element) values elements) (depth outer : Nat)
    {fuel : Nat} (hfuel : values.length < fuel) (rest : List Char) :
    moreElements element fuel (renderElements depth values ++ (lineBreak outer ++ ']' :: rest)) =
      .ok (elements, rest) := by
  induction h generalizing fuel with
  | nil =>
    obtain ⟨fuel, rfl⟩ : ∃ more, fuel = more + 1 := ⟨fuel - 1, by omega⟩
    simp only [renderElements_nil, List.nil_append, moreElements,
      skipSpace_append (isBlank_lineBreak outer), skipSpace_cons (c := ']') rfl]
  | @cons value found values elements hvalue hvalues ih =>
    obtain ⟨fuel, rfl⟩ : ∃ more, fuel = more + 1 := ⟨fuel - 1, by omega⟩
    rw [List.length_cons] at hfuel
    -- The value's reader stops at the comma or the line break that is written behind the value.
    have hread := hvalue [] depth _ (fun _ hc => absurd hc List.not_mem_nil)
      (endsValue_renderElements depth outer values (']' :: rest))
    obtain ⟨c, text, hrender, -, hclose, -⟩ := exists_render_eq_cons value depth
    simp only [renderElements, List.cons_append, List.append_assoc, moreElements,
      skipSpace_cons (c := ',') rfl, skipSpace_append (isBlank_lineBreak depth), skipSpace_render]
    rw [List.nil_append, hrender] at hread
    rw [hrender]
    simp only [List.cons_append] at hread ⊢
    split
    · rename_i heq
      cases heq
    · rename_i heq
      exact absurd (List.cons.inj heq).1 hclose
    · rw [hread]
      simp only [bind, Except.bind, ih (show values.length < fuel by omega)]

/-- A list of values that are read back is read back. -/
theorem reads_list {α : Type} {element : Reader α} {values : List Value} {elements : List α}
    (h : List.Forall₂ (Reads element) values elements) :
    Reads (list element) (.list values) elements := by
  intro blanks depth rest hblanks _
  unfold list
  rw [skipSpace_append hblanks, skipSpace_render]
  cases h with
  | nil =>
    simp only [Value.render, List.cons_append, List.nil_append, skipSpace_cons (c := ']') rfl]
  | @cons value found values elements hvalue hvalues =>
    have hread := hvalue [] (depth + 1) _ (fun _ hc => absurd hc List.not_mem_nil)
      (endsValue_renderElements (depth + 1) depth values (']' :: rest))
    have hfuel : values.length <
        (renderElements (depth + 1) values ++ (lineBreak depth ++ ']' :: rest)).length + 1 := by
      have := length_le_renderElements (depth + 1) values
      simp only [List.length_append]
      omega
    have hmore := moreElements_renderElements hvalues (depth + 1) depth hfuel rest
    obtain ⟨c, text, hrender, -, hclose, -⟩ := exists_render_eq_cons value (depth + 1)
    simp only [Value.render, List.cons_append, List.append_assoc, List.nil_append,
      skipSpace_append (isBlank_lineBreak (depth + 1)), skipSpace_render]
    rw [List.nil_append, hrender] at hread
    rw [hrender]
    simp only [List.cons_append] at hread ⊢
    split
    · rename_i heq
      exact absurd (List.cons.inj heq).1 hclose
    · rename_i heq
      cases heq
    · rw [hread]
      simp only [bind, Except.bind, hmore]

/-! ## Records -/

/-- Behind a member comes a comma or a line break. -/
theorem endsValue_renderMembers (depth outer : Nat) (members : List (String × Value))
    (rest : List Char) :
    EndsValue (renderMembers depth members ++ (lineBreak outer ++ rest)) := by
  intro c hc
  cases members with
  | nil => exact Or.inr (by simpa [renderMembers_nil, lineBreak, eq_comm] using hc)
  | cons member members => exact Or.inl (by simpa [renderMembers, eq_comm] using hc)

/-- Each member behind the first one takes a character at least. -/
theorem length_le_renderMembers (depth : Nat) (members : List (String × Value)) :
    members.length ≤ (renderMembers depth members).length := by
  induction members with
  | nil => exact Nat.zero_le _
  | cons member members ih =>
    obtain ⟨name, value⟩ := member
    simp only [renderMembers, List.length_cons, List.length_append]
    omega

/-- Reading the members one after the other fills a draft in. -/
inductive Fills {δ : Type} (fields : List (Field δ)) : δ → List (String × Value) → δ → Prop where
  | nil (draft : δ) : Fills fields draft [] draft
  | cons {field : Field δ} {draft next final : δ} {name : String} {value : Value}
      {members : List (String × Value)}
      (hfield : fields.find? (fun field => field.name = name) = some field)
      (hset : field.isSet draft = false) (hread : Reads (field.read draft) value next)
      (hrest : Fills fields next members final) :
      Fills fields draft ((name, value) :: members) final

/-- A field that is kept as an option is read back. -/
theorem reads_fieldOf {δ β : Type} {name : String} {get : δ → Option β} {set : δ → β → δ}
    {reader : Reader β} {value : Value} {found : β} (h : Reads reader value found) (draft : δ) :
    Reads ((Field.of name get set reader).read draft) value (set draft found) := by
  intro blanks depth rest hblanks hrest
  simp only [Field.of, h blanks depth rest hblanks hrest, Except.map]

/-- The members of a written object fill the draft in. -/
theorem members_renderMembers {δ α : Type} {shape : Shape δ α} {draft final : δ} {name : String}
    {value : Value} {others : List (String × Value)}
    (h : Fills shape.fields draft ((name, value) :: others) final) (depth outer : Nat) {fuel : Nat}
    (hfuel : others.length < fuel) (rest : List Char) :
    members shape fuel draft (quote name ++ ':' :: ' ' :: (value.render depth ++
      (renderMembers depth others ++ (lineBreak outer ++ '}' :: rest)))) = .ok (final, rest) := by
  induction others generalizing fuel draft name value with
  | nil =>
    obtain ⟨fuel, rfl⟩ : ∃ more, fuel = more + 1 := ⟨fuel - 1, by omega⟩
    cases h with
    | cons hfield hset hread hrest =>
      cases hrest
      have hvalue := hread [' '] depth _ isBlank_singleton
        (endsValue_renderMembers depth outer [] ('}' :: rest))
      simp only [members, quote, List.cons_append, List.append_assoc, List.nil_append,
        stringBody_quote, bind, Except.bind, String.ofList_toList, hfield, Option.any_some, hset,
        Bool.false_eq_true, if_false, skipSpace_cons (c := ':') rfl]
      rw [List.singleton_append] at hvalue
      simp only [hvalue]
      simp only [renderMembers_nil, List.nil_append, skipSpace_append (isBlank_lineBreak outer),
        skipSpace_cons (c := '}') rfl]
  | cons other others ih =>
    obtain ⟨fuel, rfl⟩ : ∃ more, fuel = more + 1 := ⟨fuel - 1, by omega⟩
    rw [List.length_cons] at hfuel
    obtain ⟨otherName, otherValue⟩ := other
    cases h with
    | cons hfield hset hread hrest =>
      have hvalue := hread [' '] depth _ isBlank_singleton
        (endsValue_renderMembers depth outer ((otherName, otherValue) :: others) ('}' :: rest))
      have hothers := ih hrest (show others.length < fuel by omega)
      simp only [members, quote, List.cons_append, List.append_assoc, List.nil_append,
        stringBody_quote, bind, Except.bind, String.ofList_toList, hfield, Option.any_some, hset,
        Bool.false_eq_true, if_false, skipSpace_cons (c := ':') rfl]
      rw [List.singleton_append] at hvalue
      simp only [quote, List.cons_append, List.append_assoc, List.nil_append] at hothers
      simp only [hvalue]
      simp only [renderMembers, quote, List.cons_append, List.append_assoc, List.nil_append,
        skipSpace_cons (c := ',') rfl, skipSpace_append (isBlank_lineBreak depth),
        skipSpace_cons (c := '"') rfl, hothers]

/-- A record whose members fill a draft in that is complete is read back. -/
theorem reads_record {δ α : Type} {shape : Shape δ α} {final : δ} {found : α} {name : String}
    {value : Value} {others : List (String × Value)}
    (h : Fills shape.fields shape.blank ((name, value) :: others) final)
    (hfinish : shape.finish final = some found) :
    Reads (record shape) (.object ((name, value) :: others)) found := by
  intro blanks depth rest hblanks _
  have hmembers (fuel : Nat) (hfuel : others.length < fuel) :=
    members_renderMembers h (depth + 1) depth hfuel rest
  unfold record
  rw [skipSpace_append hblanks, skipSpace_render]
  simp only [quote, List.cons_append, List.append_assoc, List.nil_append] at hmembers
  simp only [Value.render, quote, List.cons_append, List.append_assoc, List.nil_append,
    skipSpace_append (isBlank_lineBreak (depth + 1)), skipSpace_cons (c := '"') rfl]
  split
  · rename_i heq
    exact absurd (List.cons.inj heq).1 (by decide)
  · rw [hmembers _ (by have := length_le_renderMembers (depth + 1) others; simp; omega)]
    simp only [bind, Except.bind, Shape.done, hfinish]

/-! ## Whole texts -/

/-- A value that is read back is the one that its text holds. -/
theorem parse_text {α : Type} {reader : Reader α} {value : Value} {found : α}
    (h : Reads reader value found) : parse reader value.text = .ok found := by
  have hread := h [] 0 [] (fun _ hc => absurd hc List.not_mem_nil)
    (by rintro _ ⟨⟩)
  rw [List.nil_append, List.append_nil] at hread
  simp only [parse, Value.text, String.toList_ofList, hread, bind, Except.bind, skipSpace,
    List.dropWhile_nil, if_true]

end WallpaperRotation.Json
