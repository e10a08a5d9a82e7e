/-
# Choosing the next wallpaper

In order, the next wallpaper is the candidate behind the last one.  At random, it is any candidate
that the ledger does not leave out, each with the same share of the random words.
-/
import WallpaperRotation.Ledger
import WallpaperRotation.Rotation.Target
import WallpaperRotation.Rotation.Words

namespace WallpaperRotation

/-! ## In order -/

/-- The position behind a cursor; a cursor at the greatest number stays there. -/
def cursorAfter (cursor : UInt64) : UInt64 :=
  if cursor.toNat + 1 < UInt64.size then cursor + 1 else cursor

/-- The candidate behind the cursor, or the first one when there is none there, and the cursor that
points at it. -/
def selectSequential (candidates : List Wallpaper) (cursor : UInt64) :
    Option Wallpaper × UInt64 :=
  match candidates[(cursorAfter cursor).toNat]? with
  | some w => (some w, cursorAfter cursor)
  | none => (candidates.head?, 0)

/-! ## At random -/

/-- What a random choice is made from and what it changes. -/
structure Chance where
  ledger : Ledger
  words : Words

/-- The candidates that may come next, and the ledger that leaves the others out. -/
def selectionPool (candidates : List Wallpaper) (ledger : Ledger) : List Wallpaper × Ledger :=
  let (excluded, ledger) := ledger.exclusions candidates
  let pool := candidates.filter fun w => !excluded.contains w.id
  (if pool = [] then candidates else pool, ledger)

/-- A candidate of the pool, which is put down in the ledger.  A choice takes a random word even
when there is only one candidate. -/
def selectRandom (candidates : List Wallpaper) (chance : Chance) (now : Timestamp) :
    Option Wallpaper × Chance :=
  if candidates = [] then (none, chance)
  else
    let (pool, ledger) := selectionPool candidates chance.ledger
    let (index, words) := chance.words.draw pool.length
    match pool[index]? with
    | some w => (some w, ⟨ledger.record w now, words⟩)
    | none => (none, ⟨ledger, words⟩)

/-- The pool of a choice among some candidates is not empty. -/
theorem selectionPool_ne_nil {candidates : List Wallpaper} (h : candidates ≠ [])
    (ledger : Ledger) : (selectionPool candidates ledger).1 ≠ [] := by
  simp only [selectionPool]
  split
  · exact h
  · assumption

/-- A random choice among some candidates chooses one. -/
theorem selectRandom_isSome {candidates : List Wallpaper} (h : candidates ≠ []) (chance : Chance)
    (now : Timestamp) : (selectRandom candidates chance now).1.isSome := by
  simp only [selectRandom, h, if_false]
  have hpool := selectionPool_ne_nil h chance.ledger
  generalize selectionPool candidates chance.ledger = p at *
  have hlen : 0 < p.1.length := List.length_pos_iff.2 hpool
  have hlt := chance.words.draw_lt hlen
  have hget : p.1[(chance.words.draw p.1.length).1]? =
      some p.1[(chance.words.draw p.1.length).1] := List.getElem?_eq_getElem hlt
  simp [hget]

end WallpaperRotation
