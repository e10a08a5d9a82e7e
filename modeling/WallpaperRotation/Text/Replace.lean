/-
# Replacing a pattern in a text

Occurrences are taken from the left and do not overlap; text that was put in is not searched again.
-/

namespace WallpaperRotation.Text

/-- What follows the pattern, when the text starts with it. -/
def after? : List Char → List Char → Option (List Char)
  | [], text => some text
  | _ :: _, [] => none
  | p :: pattern, c :: text => if p = c then after? pattern text else none

/-- Every occurrence of the pattern replaced, with `skip` characters of the last one still to pass
over.  An empty pattern occurs nowhere. -/
def replaceFrom (pattern value : List Char) : Nat → List Char → List Char
  | _, [] => []
  | skip + 1, _ :: text => replaceFrom pattern value skip text
  | 0, c :: text =>
    if pattern ≠ [] ∧ (after? pattern (c :: text)).isSome then
      value ++ replaceFrom pattern value (pattern.length - 1) text
    else c :: replaceFrom pattern value 0 text

/-- The text with every occurrence of the pattern replaced by the value. -/
def replaceAll (pattern value text : List Char) : List Char :=
  replaceFrom pattern value 0 text

/-- What `after?` returns is what stands behind the pattern. -/
theorem after?_eq_some_iff {pattern text rest : List Char} :
    after? pattern text = some rest ↔ text = pattern ++ rest := by
  induction pattern generalizing text with
  | nil => simp [after?]
  | cons p pattern ih =>
    cases text with
    | nil => simp [after?]
    | cons c text =>
      by_cases h : p = c
      · simp [after?, h, ih]
      · simp only [after?, h, if_false, List.cons_append, List.cons.injEq]
        constructor
        · intro h'; cases h'
        · intro h'; exact absurd h'.1.symm h

end WallpaperRotation.Text
