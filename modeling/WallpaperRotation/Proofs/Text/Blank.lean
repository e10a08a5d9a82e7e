/-
# Trimming a text

What is left of a text after trimming is told by the text: it is what stands between blanks in it
and neither starts nor ends with a blank.
-/
import Mathlib.Data.List.TakeWhile
import WallpaperRotation.Text.Blank

namespace WallpaperRotation.Text

/-- The text consists of blanks. -/
def IsAllBlank (text : List Char) : Prop :=
  ∀ c ∈ text, isBlank c = true

variable {text rest core : List Char}

/-- Blanks behind one another are blanks. -/
theorem IsAllBlank.append (h : IsAllBlank text) (hrest : IsAllBlank rest) :
    IsAllBlank (text ++ rest) := by
  intro c hc
  rcases List.mem_append.1 hc with hc | hc
  · exact h c hc
  · exact hrest c hc

/-- Trimming the start leaves what stands behind blanks and does not start with one. -/
theorem trimStart_eq_iff :
    trimStart text = rest ↔
      ∃ lead, text = lead ++ rest ∧ IsAllBlank lead ∧ ∀ c ∈ rest.head?, isBlank c = false := by
  constructor
  · rintro rfl
    refine ⟨text.takeWhile isBlank, List.takeWhile_append_dropWhile.symm, ?_, ?_⟩
    · exact fun c hc => List.mem_takeWhile_imp hc
    · intro c hc
      obtain ⟨others, hothers⟩ := List.head?_eq_some_iff.1 hc
      exact isBlank_of_trimStart_eq_cons hothers
  · rintro ⟨lead, rfl, hlead, hrest⟩
    unfold trimStart
    rw [List.dropWhile_append_of_pos hlead]
    cases rest with
    | nil => rfl
    | cons c rest => exact trimStart_cons_of_not_blank rest (hrest c rfl)

/-- Trimming the end leaves what stands before blanks and does not end with one. -/
theorem trimEnd_eq_iff :
    trimEnd text = rest ↔
      ∃ trail, text = rest ++ trail ∧ IsAllBlank trail ∧
        ∀ c ∈ rest.getLast?, isBlank c = false := by
  unfold trimEnd
  rw [List.reverse_eq_iff, trimStart_eq_iff, List.head?_reverse]
  constructor
  · rintro ⟨lead, htext, hlead, hrest⟩
    refine ⟨lead.reverse, ?_, fun c hc => hlead c (List.mem_reverse.1 hc), hrest⟩
    rw [← List.reverse_eq_iff.2 htext.symm]
    simp
  · rintro ⟨trail, rfl, htrail, hrest⟩
    exact ⟨trail.reverse, List.reverse_append, fun c hc => htrail c (List.mem_reverse.1 hc), hrest⟩

/-- Trimming leaves what stands between blanks and has none at either end. -/
theorem trim_eq_iff :
    trim text = core ↔
      ∃ lead trail, text = lead ++ core ++ trail ∧ IsAllBlank lead ∧ IsAllBlank trail ∧
        (∀ c ∈ core.head?, isBlank c = false) ∧ ∀ c ∈ core.getLast?, isBlank c = false := by
  unfold trim
  constructor
  · intro h
    obtain ⟨trail, hmiddle, htrail, hlast⟩ := trimEnd_eq_iff.1 h
    obtain ⟨lead, rfl, hlead, hhead⟩ := trimStart_eq_iff.1 hmiddle
    refine ⟨lead, trail, (List.append_assoc _ _ _).symm, hlead, htrail, fun c hc => ?_, hlast⟩
    refine hhead c ?_
    rw [List.head?_append, Option.mem_def.1 hc]
    rfl
  · rintro ⟨lead, trail, rfl, hlead, htrail, hhead, hlast⟩
    -- Where nothing is between them, both blanks are trimmed from the start.
    by_cases hcore : core = []
    · subst hcore
      have hstart : trimStart (lead ++ [] ++ trail) = [] :=
        trimStart_eq_iff.2 ⟨lead ++ trail, by simp, hlead.append htrail, by simp⟩
      rw [hstart]
      rfl
    · have hstart : trimStart (lead ++ core ++ trail) = core ++ trail := by
        refine trimStart_eq_iff.2 ⟨lead, List.append_assoc _ _ _, hlead, ?_⟩
        obtain ⟨c, others, rfl⟩ := List.exists_cons_of_ne_nil hcore
        exact hhead
      rw [hstart]
      exact trimEnd_eq_iff.2 ⟨trail, rfl, htrail, hlast⟩

/-- A word behind blanks stays when the text is trimmed, with what is behind it trimmed at the
end. -/
theorem trim_word {lead word : List Char} (hlead : IsAllBlank lead) (hne : word ≠ [])
    (hword : ∀ c ∈ word, isBlank c = false) (rest : List Char) :
    trim (lead ++ word ++ rest) = word ++ trimEnd rest := by
  obtain ⟨trail, hrest, htrail, hlast⟩ := trimEnd_eq_iff.1 (rfl : trimEnd rest = trimEnd rest)
  refine trim_eq_iff.2 ⟨lead, trail, ?_, hlead, htrail, fun c hc => ?_, fun c hc => ?_⟩
  · rw [← List.append_assoc, List.append_assoc _ (trimEnd rest), ← hrest]
  · obtain ⟨d, others, rfl⟩ := List.exists_cons_of_ne_nil hne
    cases hc
    exact hword c List.mem_cons_self
  · rw [List.getLast?_append] at hc
    rcases Option.or_eq_some_iff.1 hc with hc | ⟨-, hc⟩
    · exact hlast c hc
    · exact hword c (List.mem_of_getLast? hc)

/-- A text whose end is trimmed is trimmed to the same as the whole text. -/
theorem trim_trimEnd (text : List Char) : trim (trimEnd text) = trim text := by
  obtain ⟨trail, htext, htrail, -⟩ := trimEnd_eq_iff.1 (rfl : trimEnd text = trimEnd text)
  obtain ⟨lead, trail', hend, hlead, htrail', hhead, hlast⟩ :=
    trim_eq_iff.1 (rfl : trim (trimEnd text) = trim (trimEnd text))
  refine (trim_eq_iff.2 ⟨lead, trail' ++ trail, ?_, hlead, htrail'.append htrail, hhead,
    hlast⟩).symm
  rw [← List.append_assoc, ← hend]
  exact htext

end WallpaperRotation.Text
