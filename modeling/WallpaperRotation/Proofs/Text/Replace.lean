/-
# Replacing a pattern, place by place

Replacing goes through a text from its start: where the pattern stands the value takes its stead,
and every other character is kept.  So what stands before a text is kept as it is when the pattern
has no place in it, nor one that begins in it and ends behind it; and that is told by the number of
places where the pattern stands.
-/
import Mathlib.Data.List.Infix
import WallpaperRotation.Text.Replace

namespace WallpaperRotation.Text

variable {pattern value before rest text : List Char}

/-! ## One step -/

/-- The pattern stands at the start of a text exactly when something is behind it there. -/
theorem isSome_after?_iff : (after? pattern text).isSome = true ↔ pattern <+: text := by
  rw [Option.isSome_iff_exists]
  constructor
  · rintro ⟨rest, hrest⟩
    exact ⟨rest, (after?_eq_some_iff.1 hrest).symm⟩
  · rintro ⟨rest, hrest⟩
    exact ⟨rest, after?_eq_some_iff.2 hrest.symm⟩

/-- Characters that are still to pass over are left out. -/
theorem replaceFrom_eq (pattern value : List Char) (skip : Nat) (text : List Char) :
    replaceFrom pattern value skip text = replaceAll pattern value (text.drop skip) := by
  induction skip generalizing text with
  | zero => rfl
  | succ skip ih =>
    cases text with
    | nil => rfl
    | cons c text => exact ih text

/-- Where the pattern stands the value takes its stead. -/
theorem replaceAll_pattern (hne : pattern ≠ []) (value rest : List Char) :
    replaceAll pattern value (pattern ++ rest) = value ++ replaceAll pattern value rest := by
  obtain ⟨p, others, rfl⟩ := List.exists_cons_of_ne_nil hne
  have hstands : (after? (p :: others) (p :: (others ++ rest))).isSome = true :=
    isSome_after?_iff.2 (List.prefix_append (p :: others) rest)
  rw [replaceAll, List.cons_append, replaceFrom, if_pos ⟨hne, hstands⟩, replaceFrom_eq]
  simp

/-- Where the pattern does not stand the character is kept. -/
theorem replaceAll_cons {c : Char} (h : ¬pattern <+: c :: text) (value : List Char) :
    replaceAll pattern value (c :: text) = c :: replaceAll pattern value text := by
  have hstands : ¬(after? pattern (c :: text)).isSome = true := mt isSome_after?_iff.1 h
  rw [replaceAll, replaceFrom, if_neg fun hboth => hstands hboth.2]
  rfl

/-! ## Places -/

/-- The number of places in a text where the pattern stands. -/
def occurrences (pattern text : List Char) : Nat :=
  text.tails.countP fun rest => pattern.isPrefixOf rest

/-- In a text that goes on with a character, the pattern may stand at the start. -/
theorem occurrences_cons (pattern : List Char) (c : Char) (text : List Char) :
    occurrences pattern (c :: text) =
      occurrences pattern text + if pattern <+: c :: text then 1 else 0 := by
  unfold occurrences
  rw [List.tails_cons, List.countP_cons]
  simp only [List.isPrefixOf_iff_prefix]

/-- A pattern has no place in the empty text. -/
theorem occurrences_nil (hne : pattern ≠ []) : occurrences pattern [] = 0 := by
  obtain ⟨p, others, rfl⟩ := List.exists_cons_of_ne_nil hne
  rfl

/-- Where the pattern does not stand at the start, its places are those behind the character. -/
theorem occurrences_cons_of_not {c : Char} (h : ¬pattern <+: c :: text) :
    occurrences pattern (c :: text) = occurrences pattern text := by
  rw [occurrences_cons, if_neg h, Nat.add_zero]

/-- The places in a text are places in every text that ends with it. -/
theorem occurrences_le_append (pattern before rest : List Char) :
    occurrences pattern rest ≤ occurrences pattern (before ++ rest) := by
  induction before with
  | nil => exact Nat.le_refl _
  | cons c before ih =>
    rw [List.cons_append, occurrences_cons]
    exact Nat.le_add_right_of_le ih

/-- A pattern has no place in a text exactly when the text does not hold it. -/
theorem occurrences_eq_zero_iff : occurrences pattern text = 0 ↔ ¬pattern <:+: text := by
  unfold occurrences
  rw [List.countP_eq_zero]
  simp only [List.mem_tails, List.isPrefixOf_iff_prefix]
  constructor
  · rintro hnone ⟨before, behind, rfl⟩
    refine hnone (pattern ++ behind) ⟨before, ?_⟩ (List.prefix_append pattern behind)
    rw [List.append_assoc]
  · rintro hnone rest ⟨before, rfl⟩ ⟨behind, rfl⟩
    exact hnone ⟨before, behind, List.append_assoc _ _ _⟩

/-- What stands before a text is kept when it adds no place of the pattern. -/
theorem replaceAll_append (h : occurrences pattern (before ++ rest) = occurrences pattern rest)
    (value : List Char) :
    replaceAll pattern value (before ++ rest) = before ++ replaceAll pattern value rest := by
  induction before with
  | nil => rfl
  | cons c before ih =>
    rw [List.cons_append, occurrences_cons] at h
    have hle := occurrences_le_append pattern before rest
    have hstands : ¬pattern <+: c :: (before ++ rest) := by
      intro hstands
      rw [if_pos hstands] at h
      omega
    rw [if_neg hstands, Nat.add_zero] at h
    rw [List.cons_append, replaceAll_cons hstands, ih h, List.cons_append]

/-- No place of a pattern begins in a text without its first character. -/
theorem occurrences_append_of_not_mem {opening : Char} (h : opening ∉ before)
    (body rest : List Char) :
    occurrences (opening :: body) (before ++ rest) = occurrences (opening :: body) rest := by
  induction before with
  | nil => rfl
  | cons c before ih =>
    obtain ⟨hc, hbefore⟩ := not_or.1 (mt List.mem_cons.2 h)
    rw [List.cons_append, occurrences_cons_of_not, ih hbefore]
    intro hstands
    exact hc (List.cons_prefix_cons.1 hstands).1

end WallpaperRotation.Text
