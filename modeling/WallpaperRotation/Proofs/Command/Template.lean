/-
# Filling the slots of a template

Slots are to be filled at once: a value takes the stead of every mark that stands in the template,
and values are not looked at again.  They are filled one after the other, so a value that was put in
first is searched for the marks of the later slots.  Both come to the same exactly when putting in
the first value adds no place of the second mark; and an argument that is only a place for the path
becomes the path exactly when the path does not hold the mark of the target.
-/
import Mathlib.Tactic.MkIffOfInductiveProp
import WallpaperRotation.Command.Template
import WallpaperRotation.Proofs.Text.Replace

namespace WallpaperRotation

open Text

/-! ## All slots at once -/

/-- The result is the text with all slots filled at once: where the mark of a slot stands the value
takes its stead, and where none stands the character is kept. -/
@[mk_iff]
inductive Fills (slots : List Slot) : List Char → List Char → Prop
  | nil : Fills slots [] []
  | slot (slot : Slot) (rest result : List Char) (hslot : slot ∈ slots)
      (hrest : Fills slots rest result) :
      Fills slots (slot.mark.toList ++ rest) (slot.value.toList ++ result)
  | letter (c : Char) (rest result : List Char)
      (hnone : ∀ slot ∈ slots, ¬slot.mark.toList <+: c :: rest)
      (hrest : Fills slots rest result) : Fills slots (c :: rest) (c :: result)

/-- All marks open with one character, which none of them has again, and none of them is the start
of another one; so places of marks do not overlap. -/
structure Marked (opening : Char) (slots : List Slot) : Prop where
  opens : ∀ slot ∈ slots, ∃ body, slot.mark.toList = opening :: body ∧ opening ∉ body
  apart : ∀ slot ∈ slots, ∀ other ∈ slots, slot.mark.toList <+: other.mark.toList → slot = other

/-- The text with one slot filled. -/
def Slot.fill (slot : Slot) (text : List Char) : List Char :=
  replaceAll slot.mark.toList slot.value.toList text

section Marks

variable {opening : Char} {slots : List Slot} {slot other : Slot} {rest text result : List Char}

/-- A mark is not empty. -/
theorem Marked.mark_ne_nil (h : Marked opening slots) (hslot : slot ∈ slots) :
    slot.mark.toList ≠ [] := by
  obtain ⟨body, hbody, -⟩ := h.opens slot hslot
  rw [hbody]
  exact List.cons_ne_nil _ _

/-- At the start of a text stands one mark at most. -/
theorem Marked.eq_of_prefix (h : Marked opening slots) (hslot : slot ∈ slots)
    (hother : other ∈ slots) (hstands : slot.mark.toList <+: text)
    (hstands' : other.mark.toList <+: text) : slot = other := by
  rcases List.prefix_or_prefix_of_prefix hstands hstands' with hprefix | hprefix
  · exact h.apart slot hslot other hother hprefix
  · exact (h.apart other hother slot hslot hprefix).symm

/-- The places of a mark in a text that starts with another one are those behind that. -/
theorem Marked.occurrences_of_ne (h : Marked opening slots) (hslot : slot ∈ slots)
    (hother : other ∈ slots) (hne : other ≠ slot) (rest : List Char) :
    occurrences slot.mark.toList (other.mark.toList ++ rest) =
      occurrences slot.mark.toList rest := by
  have hstands : ¬slot.mark.toList <+: other.mark.toList ++ rest := by
    intro hstands
    exact hne (h.eq_of_prefix hother hslot (List.prefix_append _ rest) hstands)
  obtain ⟨body, hbody, -⟩ := h.opens slot hslot
  obtain ⟨others, hothers, hmem⟩ := h.opens other hother
  rw [hothers, List.cons_append] at hstands ⊢
  rw [occurrences_cons_of_not hstands, hbody, occurrences_append_of_not_mem hmem]

/-- In a text that starts with a mark, this is one place of it more. -/
theorem Marked.occurrences_self (h : Marked opening slots) (hslot : slot ∈ slots)
    (rest : List Char) :
    occurrences slot.mark.toList (slot.mark.toList ++ rest) =
      occurrences slot.mark.toList rest + 1 := by
  have hstands := List.prefix_append slot.mark.toList rest
  obtain ⟨body, hbody, hmem⟩ := h.opens slot hslot
  rw [hbody, List.cons_append] at hstands ⊢
  rw [occurrences_cons, if_pos hstands, occurrences_append_of_not_mem hmem]

/-- Every text can be filled. -/
theorem Marked.exists_fills (h : Marked opening slots) (text : List Char) :
    ∃ result, Fills slots text result := by
  -- Induction on the length: what is behind a mark is shorter, as marks are not empty.
  induction hlength : text.length using Nat.strong_induction_on generalizing text with
  | _ length ih =>
    by_cases hmark : ∃ slot ∈ slots, slot.mark.toList <+: text
    · obtain ⟨slot, hslot, rest, rfl⟩ := hmark
      have hpos : 0 < slot.mark.toList.length := List.length_pos_iff.2 (h.mark_ne_nil hslot)
      rw [List.length_append] at hlength
      obtain ⟨result, hresult⟩ := ih rest.length (by omega) rest rfl
      exact ⟨_, .slot slot rest result hslot hresult⟩
    · cases text with
      | nil => exact ⟨[], .nil⟩
      | cons c rest =>
        rw [List.length_cons] at hlength
        obtain ⟨result, hresult⟩ := ih rest.length (by omega) rest rfl
        refine ⟨_, .letter c rest result ?_ hresult⟩
        intro slot hslot hstands
        exact hmark ⟨slot, hslot, hstands⟩

/-- A text is filled in one way only. -/
theorem Marked.eq_of_fills (h : Marked opening slots) (hfills : Fills slots text result)
    {other : List Char} (hother : Fills slots text other) : result = other := by
  induction hfills generalizing other with
  | nil =>
    rcases (fills_iff _ _ _).1 hother with ⟨-, rfl⟩ | ⟨slot, rest, result, hslot, -, htext, -⟩ |
      ⟨c, rest, result, -, -, htext, -⟩
    · rfl
    · exact absurd (List.append_eq_nil_iff.1 htext.symm).1 (h.mark_ne_nil hslot)
    · cases htext
  | slot slot rest result hslot hrest ih =>
    have hstands := List.prefix_append slot.mark.toList rest
    rcases (fills_iff _ _ _).1 hother with ⟨htext, -⟩ |
      ⟨slot', rest', result', hslot', hrest', htext, rfl⟩ |
      ⟨c, rest', result', hnone, -, htext, -⟩
    · exact absurd (List.append_eq_nil_iff.1 htext).1 (h.mark_ne_nil hslot)
    · have hstands' : slot'.mark.toList <+: slot.mark.toList ++ rest := by
        rw [htext]
        exact List.prefix_append _ rest'
      obtain rfl := h.eq_of_prefix hslot hslot' hstands hstands'
      obtain rfl := List.append_cancel_left htext
      rw [ih hrest']
    · rw [htext] at hstands
      exact absurd hstands (hnone slot hslot)
  | letter c rest result hnone hrest ih =>
    rcases (fills_iff _ _ _).1 hother with ⟨htext, -⟩ |
      ⟨slot', rest', result', hslot', -, htext, -⟩ | ⟨c', rest', result', -, hrest', htext, rfl⟩
    · cases htext
    · refine absurd ?_ (hnone slot' hslot')
      rw [htext]
      exact List.prefix_append _ rest'
    · cases htext
      rw [ih hrest']

/-- What a text is filled to is told by filling it. -/
theorem Marked.fills_iff_eq (h : Marked opening slots) (hfills : Fills slots text result)
    (other : List Char) : Fills slots text other ↔ other = result := by
  refine ⟨fun hother => h.eq_of_fills hother hfills, ?_⟩
  rintro rfl
  exact hfills

/-- Some of the marks do not overlap either. -/
theorem Marked.of_subset (h : Marked opening slots) {some : List Slot} (hsub : some ⊆ slots) :
    Marked opening some where
  opens slot hslot := h.opens slot (hsub hslot)
  apart slot hslot other hother := h.apart slot (hsub hslot) other (hsub hother)

/-- The value is put in where the mark stands. -/
theorem Slot.fill_mark (hne : slot.mark.toList ≠ []) (rest : List Char) :
    slot.fill (slot.mark.toList ++ rest) = slot.value.toList ++ slot.fill rest :=
  replaceAll_pattern hne _ _

/-- A character is kept where the mark does not stand. -/
theorem Slot.fill_cons {c : Char} (h : ¬slot.mark.toList <+: c :: rest) :
    slot.fill (c :: rest) = c :: slot.fill rest :=
  replaceAll_cons h _

/-- One slot is filled by replacing its mark. -/
theorem Marked.fills_fill (h : Marked opening [slot]) (text : List Char) :
    Fills [slot] text (slot.fill text) := by
  obtain ⟨result, hfills⟩ := h.exists_fills text
  suffices hresult : slot.fill text = result by
    rw [hresult]
    exact hfills
  induction hfills with
  | nil => rfl
  | slot slot' rest result hslot' hrest ih =>
    obtain rfl := List.mem_singleton.1 hslot'
    rw [Slot.fill_mark (h.mark_ne_nil hslot'), ih]
  | letter c rest result hnone hrest ih =>
    rw [Slot.fill_cons (hnone slot List.mem_cons_self), ih]

/-- Filling one slot makes the text longer or shorter by as much for each place of the mark. -/
theorem Marked.length_fill (h : Marked opening [slot]) (text : List Char) :
    (slot.fill text).length + occurrences slot.mark.toList text * slot.mark.toList.length =
      text.length + occurrences slot.mark.toList text * slot.value.toList.length := by
  have hfills := h.fills_fill text
  generalize slot.fill text = result at hfills ⊢
  induction hfills with
  | nil => rw [occurrences_nil (h.mark_ne_nil List.mem_cons_self), Nat.zero_mul, Nat.zero_mul]
  | slot slot' rest result hslot' hrest ih =>
    obtain rfl := List.mem_singleton.1 hslot'
    rw [h.occurrences_self hslot', List.length_append, List.length_append, Nat.add_one_mul,
      Nat.add_one_mul]
    omega
  | letter c rest result hnone hrest ih =>
    rw [occurrences_cons_of_not (hnone slot List.mem_cons_self), List.length_cons,
      List.length_cons]
    omega

end Marks

/-! ## One slot after the other -/

/-- A text, the text with the first of two slots filled, and the text with both filled at once. -/
inductive FillsPair (first second : Slot) : List Char → List Char → List Char → Prop
  | nil : FillsPair first second [] [] []
  | first (text filled result : List Char) (hrest : FillsPair first second text filled result) :
      FillsPair first second (first.mark.toList ++ text) (first.value.toList ++ filled)
        (first.value.toList ++ result)
  | second (text filled result : List Char) (hrest : FillsPair first second text filled result) :
      FillsPair first second (second.mark.toList ++ text) (second.mark.toList ++ filled)
        (second.value.toList ++ result)
  | letter (c : Char) (text filled result : List Char) (hnone : ¬second.mark.toList <+: c :: text)
      (hrest : FillsPair first second text filled result) :
      FillsPair first second (c :: text) (c :: filled) (c :: result)

/-- No place of the second mark begins in the value of the first slot, ends in it or goes over it:
the value has neither the first character of the mark nor the last one, and some character that is
not in the mark. -/
structure StaysClear (opening closing : Char) (first second : Slot) : Prop where
  begins : opening ∉ first.value.toList
  ends : second.mark.toList.getLast? = some closing ∧ closing ∉ first.value.toList
  goesOver : ∃ c ∈ first.value.toList, c ∉ second.mark.toList

section Pairs

variable {opening closing : Char} {first second : Slot} {text filled result ending : List Char}

/-- The places of the second mark are those behind the first one. -/
theorem Marked.occurrences_first (h : Marked opening [first, second]) (hne : first ≠ second)
    (rest : List Char) :
    occurrences second.mark.toList (first.mark.toList ++ rest) =
      occurrences second.mark.toList rest :=
  h.occurrences_of_ne (List.mem_cons_of_mem _ List.mem_cons_self) List.mem_cons_self hne rest

/-- The second mark is one place of it more. -/
theorem Marked.occurrences_second (h : Marked opening [first, second]) (rest : List Char) :
    occurrences second.mark.toList (second.mark.toList ++ rest) =
      occurrences second.mark.toList rest + 1 :=
  h.occurrences_self (List.mem_cons_of_mem _ List.mem_cons_self) rest

/-- The second mark is not empty. -/
theorem Marked.second_ne_nil (h : Marked opening [first, second]) : second.mark.toList ≠ [] :=
  h.mark_ne_nil (List.mem_cons_of_mem _ List.mem_cons_self)

/-- Filling two slots at once goes with filling the first one. -/
theorem Marked.fillsPair (h : Marked opening [first, second]) (hne : first ≠ second)
    (hfills : Fills [first, second] text result) :
    FillsPair first second text (first.fill text) result := by
  have hfirst : first ∈ [first, second] := List.mem_cons_self
  have hsecond : second ∈ [first, second] := List.mem_cons_of_mem _ List.mem_cons_self
  induction hfills with
  | nil => exact .nil
  | slot slot rest result hslot hrest ih =>
    rcases List.mem_pair.1 hslot with rfl | rfl
    · rw [Slot.fill_mark (h.mark_ne_nil hfirst)]
      exact .first rest _ result ih
    · have hkept : first.fill (slot.mark.toList ++ rest) = slot.mark.toList ++ first.fill rest :=
        replaceAll_append (h.occurrences_of_ne hfirst hsecond hne.symm rest) _
      rw [hkept]
      exact .second rest _ result ih
  | letter c rest result hnone hrest ih =>
    rw [Slot.fill_cons (hnone first hfirst)]
    exact .letter c rest _ result (hnone second hsecond) ih

/-- Filling the first of two slots takes no place of the second mark away. -/
theorem FillsPair.occurrences_le (hpair : FillsPair first second text filled result)
    (h : Marked opening [first, second]) (hne : first ≠ second) :
    occurrences second.mark.toList text ≤ occurrences second.mark.toList filled := by
  induction hpair with
  | nil => exact Nat.le_refl _
  | first text filled result hrest ih =>
    rw [h.occurrences_first hne]
    exact ih.trans (occurrences_le_append _ _ _)
  | second text filled result hrest ih =>
    rw [h.occurrences_second, h.occurrences_second]
    exact Nat.add_le_add_right ih 1
  | letter c text filled result hnone hrest ih =>
    rw [occurrences_cons_of_not hnone, occurrences_cons]
    exact Nat.le_add_right_of_le ih

/-- Two slots are filled at once when filling the first one adds no place of the second mark. -/
theorem FillsPair.fill_eq (hpair : FillsPair first second text filled result)
    (h : Marked opening [first, second]) (hne : first ≠ second)
    (hsame : occurrences second.mark.toList filled = occurrences second.mark.toList text) :
    second.fill filled = result := by
  induction hpair with
  | nil => rfl
  | first text filled result hrest ih =>
    -- The value of the first slot holds no second mark, and none begins in it.
    rw [h.occurrences_first hne] at hsame
    have hle := hrest.occurrences_le h hne
    have hmore := occurrences_le_append second.mark.toList first.value.toList filled
    have hkept : occurrences second.mark.toList (first.value.toList ++ filled) =
        occurrences second.mark.toList filled := by omega
    rw [Slot.fill, replaceAll_append hkept, ← Slot.fill, ih (by omega)]
  | second text filled result hrest ih =>
    rw [h.occurrences_second, h.occurrences_second] at hsame
    rw [Slot.fill_mark h.second_ne_nil, ih (Nat.add_right_cancel hsame)]
  | letter c text filled result hnone hrest ih =>
    have hle := hrest.occurrences_le h hne
    rw [occurrences_cons_of_not hnone, occurrences_cons] at hsame
    have hstands : ¬second.mark.toList <+: c :: filled := by
      intro hstands
      rw [if_pos hstands] at hsame
      omega
    rw [if_neg hstands, Nat.add_zero] at hsame
    rw [Slot.fill_cons hstands, ih hsame]

/-- Filling two slots at once makes the text, with the first one filled, longer or shorter by as
much for each place that the second mark had at first. -/
theorem FillsPair.length_add (hpair : FillsPair first second text filled result)
    (h : Marked opening [first, second]) (hne : first ≠ second) :
    result.length + occurrences second.mark.toList text * second.mark.toList.length =
      filled.length + occurrences second.mark.toList text * second.value.toList.length := by
  induction hpair with
  | nil =>
    rw [occurrences_nil h.second_ne_nil, Nat.zero_mul, Nat.zero_mul]
  | first text filled result hrest ih =>
    rw [h.occurrences_first hne, List.length_append, List.length_append]
    omega
  | second text filled result hrest ih =>
    rw [h.occurrences_second, List.length_append, List.length_append, Nat.add_one_mul,
      Nat.add_one_mul]
    omega
  | letter c text filled result hnone hrest ih =>
    rw [occurrences_cons_of_not hnone, List.length_cons, List.length_cons]
    omega

/-- Where the second mark and its value differ in length, filling two slots one after the other is
filling them at once exactly when filling the first one adds no place of the second mark. -/
theorem FillsPair.fill_eq_iff (hpair : FillsPair first second text filled result)
    (h : Marked opening [first, second]) (hne : first ≠ second)
    (hlength : second.mark.toList.length ≠ second.value.toList.length) :
    second.fill filled = result ↔
      occurrences second.mark.toList filled = occurrences second.mark.toList text := by
  refine ⟨fun heq => ?_, hpair.fill_eq h hne⟩
  have hsecond : Marked opening [second] := h.of_subset (List.subset_cons_self first [second])
  have hpasses := hsecond.length_fill filled
  rw [heq] at hpasses
  have hatOnce := hpair.length_add h hne
  -- Each place that is added changes the length by what tells the mark from its value.
  obtain ⟨added, hadded⟩ := Nat.exists_eq_add_of_le (hpair.occurrences_le h hne)
  rw [hadded, Nat.add_mul, Nat.add_mul] at hpasses
  have hnone : added = 0 := by
    by_contra hpos
    exact hlength (Nat.eq_of_mul_eq_mul_left (Nat.pos_of_ne_zero hpos) (by omega))
  rw [hadded, hnone, Nat.add_zero]

/-- An ending of the second mark that stands at the start after the first slot was filled stood
there before. -/
theorem FillsPair.prefix_of_prefix (hpair : FillsPair first second text filled result)
    (h : Marked opening [first, second]) (hclear : StaysClear opening closing first second)
    (hopening : opening ∉ ending) (hending : ending <:+ second.mark.toList)
    (hstands : ending <+: filled) : ending <+: text := by
  induction hpair generalizing ending with
  | nil => exact hstands
  | first text filled result hrest ih =>
    by_cases hnil : ending = []
    · rw [hnil]
      exact List.nil_prefix
    · exfalso
      rcases List.prefix_or_prefix_of_prefix hstands (List.prefix_append _ _) with hin | hover
      · obtain ⟨before, hmark⟩ := hending
        have hlast := hclear.ends.1
        rw [← hmark, List.getLast?_append_of_ne_nil _ hnil] at hlast
        exact hclear.ends.2 (hin.subset (List.mem_of_getLast? hlast))
      · obtain ⟨c, hc, hforeign⟩ := hclear.goesOver
        exact hforeign (hending.subset (hover.subset hc))
  | second text filled result hrest ih =>
    cases ending with
    | nil => exact List.nil_prefix
    | cons e ending =>
      obtain ⟨body, hbody, -⟩ := h.opens second (List.mem_cons_of_mem _ List.mem_cons_self)
      rw [hbody, List.cons_append] at hstands
      obtain ⟨rfl, -⟩ := List.cons_prefix_cons.1 hstands
      exact absurd List.mem_cons_self hopening
  | letter c text filled result hnone hrest ih =>
    cases ending with
    | nil => exact List.nil_prefix
    | cons e ending =>
      obtain ⟨rfl, hbehind⟩ := List.cons_prefix_cons.1 hstands
      refine List.cons_prefix_cons.2 ⟨rfl, ih ?_ ?_ hbehind⟩
      · exact fun hmem => hopening (List.mem_cons_of_mem _ hmem)
      · exact (List.suffix_cons e ending).trans hending

/-- A value that stays clear of the second mark adds no place of it. -/
theorem FillsPair.occurrences_eq (hpair : FillsPair first second text filled result)
    (h : Marked opening [first, second]) (hne : first ≠ second)
    (hclear : StaysClear opening closing first second) :
    occurrences second.mark.toList filled = occurrences second.mark.toList text := by
  obtain ⟨body, hbody, hmem⟩ := h.opens second (List.mem_cons_of_mem _ List.mem_cons_self)
  induction hpair with
  | nil => rfl
  | first text filled result hrest ih =>
    rw [h.occurrences_first hne, ← ih, hbody, occurrences_append_of_not_mem hclear.begins]
  | second text filled result hrest ih =>
    rw [h.occurrences_second, h.occurrences_second, ih]
  | letter c text filled result hnone hrest ih =>
    have hstands : ¬second.mark.toList <+: c :: filled := by
      intro hstands
      rw [hbody] at hstands
      obtain ⟨rfl, hbehind⟩ := List.cons_prefix_cons.1 hstands
      have hending : body <:+ second.mark.toList := by
        rw [hbody]
        exact List.suffix_cons opening body
      refine hnone ?_
      rw [hbody]
      exact List.cons_prefix_cons.2
        ⟨rfl, hrest.prefix_of_prefix h hclear hmem hending hbehind⟩
    rw [occurrences_cons_of_not hstands, occurrences_cons_of_not hnone, ih]

end Pairs

/-! ## Templates for a target -/

/-- The mark of the place for a path. -/
def pathMark : String := "\x7bpath\x7d"

/-- The mark of the place for the name of a target. -/
def targetMark : String := "\x7btarget\x7d"

/-- The place for the path of a wallpaper; without one nothing is put there. -/
def pathSlot (path : Option FilePath) : Slot :=
  ⟨pathMark, (path.map FilePath.text).getD ""⟩

/-- The place for the name of a target. -/
def targetSlot (target : Target) : Slot :=
  ⟨targetMark, target.name⟩

/-- The marks of the two places do not overlap. -/
theorem marked_slots (path : Option FilePath) (target : Target) :
    Marked '\x7b' [pathSlot path, targetSlot target] where
  opens slot hslot := by
    rcases List.mem_pair.1 hslot with rfl | rfl
    · exact ⟨"path\x7d".toList, by simp [pathSlot, pathMark], by decide⟩
    · exact ⟨"target\x7d".toList, by simp [targetSlot, targetMark], by decide⟩
  apart slot hslot other hother hprefix := by
    rcases List.mem_pair.1 hslot with rfl | rfl <;> rcases List.mem_pair.1 hother with rfl | rfl
    · rfl
    · simp [pathSlot, targetSlot, pathMark, targetMark] at hprefix
    · simp [pathSlot, targetSlot, pathMark, targetMark] at hprefix
    · rfl

/-- The two places are different ones. -/
theorem pathSlot_ne_targetSlot (path : Option FilePath) (target : Target) :
    pathSlot path ≠ targetSlot target := by
  intro heq
  have hmark : pathMark = targetMark := congrArg Slot.mark heq
  exact absurd hmark (by decide)

/-- An argument is filled with the path first and with the name of the target behind that. -/
theorem getElem?_forTarget {template : Template} {i : Nat} {argument : String}
    (h : template[i]? = some argument) (target : Target) (path : Option FilePath) :
    (template.forTarget target path)[i]? = some (String.ofList
      ((targetSlot target).fill ((pathSlot path).fill argument.toList))) := by
  have hfill : fillSlots [pathSlot path, targetSlot target] argument = String.ofList
      ((targetSlot target).fill ((pathSlot path).fill argument.toList)) := by
    simp [fillSlots, Slot.fill]
  rw [← hfill]
  simp only [Template.forTarget, Template.fill, List.getElem?_map, h, Option.map_some]
  rfl

/-- A path with a separator and without braces stays clear of the mark of the target. -/
theorem staysClear_pathSlot {path : FilePath} (hopening : '\x7b' ∉ path.text.toList)
    (hclosing : '\x7d' ∉ path.text.toList) (hseparator : '/' ∈ path.text.toList)
    (target : Target) :
    StaysClear '\x7b' '\x7d' (pathSlot (some path)) (targetSlot target) where
  begins := hopening
  ends := ⟨by simp [targetSlot, targetMark], hclosing⟩
  goesOver := ⟨'/', hseparator, by simp [targetSlot, targetMark]⟩

/-- A place for the path alone is filled with the path. -/
theorem fills_pathMark (path : Option FilePath) (others : List Slot) :
    Fills (pathSlot path :: others) pathMark.toList (pathSlot path).value.toList := by
  have hnil : Fills (pathSlot path :: others) [] [] := .nil
  have hfills := Fills.slot (pathSlot path) [] [] List.mem_cons_self hnil
  rwa [List.append_nil, List.append_nil] at hfills

/-- The arguments for a target are those of the template, each of them filled in two passes: the
path is put in everywhere, and then the name of the target is put in everywhere in what came of
that.  This is filling both at once exactly when putting the path in adds no mark of the target; so
it always is when the path has a separator and no braces.  An argument that is only a place for the
path becomes the path exactly when the path does not hold the mark of the target. -/
theorem Template.forTarget_fills (template : Template) (target : Target)
    (path : Option FilePath) :
    (template.forTarget target path).length = template.length ∧
    ∀ (i : Nat) (argument : String), template[i]? = some argument →
      ∃ withPath result atOnce : List Char,
        (template.forTarget target path)[i]? = some (String.ofList result) ∧
        (∀ text, Fills [pathSlot path] argument.toList text ↔ text = withPath) ∧
        (∀ text, Fills [targetSlot target] withPath text ↔ text = result) ∧
        (∀ text, Fills [pathSlot path, targetSlot target] argument.toList text ↔
          text = atOnce) ∧
        (result = atOnce ↔
          occurrences targetMark.toList withPath =
            occurrences targetMark.toList argument.toList) ∧
        (∀ p, path = some p → '\x7b' ∉ p.text.toList → '\x7d' ∉ p.text.toList →
          '/' ∈ p.text.toList → result = atOnce) ∧
        (∀ p, path = some p → argument = pathMark →
          (String.ofList result = p.text ↔ ¬targetMark.toList <:+: p.text.toList)) := by
  refine ⟨template.length_forTarget target path, fun i argument hargument => ?_⟩
  have hmarked := marked_slots path target
  have hne := pathSlot_ne_targetSlot path target
  have hpath : Marked '\x7b' [pathSlot path] := hmarked.of_subset (by simp)
  have htarget : Marked '\x7b' [targetSlot target] := hmarked.of_subset (by simp)
  obtain ⟨atOnce, hatOnce⟩ := hmarked.exists_fills argument.toList
  have hlength : (targetSlot target).mark.toList.length ≠
      (targetSlot target).value.toList.length := by
    cases target <;> decide
  have hpair := hmarked.fillsPair hne hatOnce
  have hiff := hpair.fill_eq_iff hmarked hne hlength
  refine ⟨(pathSlot path).fill argument.toList, _, atOnce,
    getElem?_forTarget hargument target path, hpath.fills_iff_eq (hpath.fills_fill _),
    htarget.fills_iff_eq (htarget.fills_fill _), hmarked.fills_iff_eq hatOnce, hiff, ?_, ?_⟩
  · rintro p rfl hopening hclosing hseparator
    have hclear := staysClear_pathSlot hopening hclosing hseparator target
    exact hpair.fill_eq hmarked hne (hpair.occurrences_eq hmarked hne hclear)
  · rintro p rfl rfl
    -- Filled at once, the place for the path is the path.
    obtain rfl : atOnce = p.text.toList :=
      hmarked.eq_of_fills hatOnce (fills_pathMark (some p) [targetSlot target])
    have hwithPath : (pathSlot (some p)).fill pathMark.toList = p.text.toList :=
      hpath.eq_of_fills (hpath.fills_fill _) (fills_pathMark (some p) [])
    have hnone : occurrences targetMark.toList pathMark.toList = 0 := by decide
    rw [hwithPath] at hiff ⊢
    rw [← occurrences_eq_zero_iff, ← hnone, ← String.toList_inj, String.toList_ofList]
    exact hiff

/-- An ordinary path is put in as it is, beside the name of the target. -/
theorem Template.forTarget_fills_plain :
    ["setter", "--" ++ targetMark, pathMark][2]? = some pathMark ∧
    ∃ result, (Template.forTarget ["setter", "--" ++ targetMark, pathMark] .lock
        (some ⟨"/w/a.png"⟩))[2]? = some (String.ofList result) ∧
      Fills [pathSlot (some ⟨"/w/a.png"⟩), targetSlot .lock] pathMark.toList result ∧
      String.ofList result = "/w/a.png" := by
  have hargument : ["setter", "--" ++ targetMark, pathMark][2]? = some pathMark := rfl
  obtain ⟨withPath, result, atOnce, hresult, -, -, hatOnce, -, hclear, hpath⟩ :=
    (forTarget_fills ["setter", "--" ++ targetMark, pathMark] .lock (some ⟨"/w/a.png"⟩)).2
      2 pathMark hargument
  have heq : result = atOnce := hclear _ rfl (by decide) (by decide) (by decide)
  exact ⟨hargument, result, hresult, (hatOnce result).2 heq,
    (hpath _ rfl rfl).2 (by decide +kernel)⟩

/-- Arguments are not always filled at once: in a path that holds the mark of a target the mark is
replaced as well, and then the argument names another file. -/
theorem not_forTarget_fills_at_once :
    ¬∀ (template : Template) (target : Target) (path : FilePath),
      (template.forTarget target (some path)).length = template.length ∧
      ∀ (i : Nat) (argument : String), template[i]? = some argument →
        ∃ result, (template.forTarget target (some path))[i]? = some result ∧
          Fills [pathSlot (some path), targetSlot target] argument.toList result.toList := by
  intro hall
  obtain ⟨result, hresult, hfills⟩ :=
    (hall [pathMark] .home ⟨"walls/\x7btarget\x7d.png"⟩).2 0 pathMark rfl
  have hatOnce : result.toList = "walls/\x7btarget\x7d.png".toList :=
    (marked_slots _ .home).eq_of_fills hfills (fills_pathMark _ _)
  have hhome : (Template.forTarget [pathMark] .home (some ⟨"walls/\x7btarget\x7d.png"⟩))[0]? =
      some "walls/home.png" := by decide +kernel
  rw [hhome, String.toList_inj.1 hatOnce] at hresult
  exact absurd hresult (by decide)

end WallpaperRotation
