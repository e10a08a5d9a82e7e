/-
# Turns in order

While the candidates stay the same, choices in order go round them.  The first choice is the
candidate behind the cursor, or the first one when there is none there, whatever number the cursor
is; from then on the cursor is the index of the last choice, and every choice is at the next index,
with the first one behind the last.  So any choices in a row, as many as there are candidates, are
the candidates turned round to where they begin.
-/
import Mathlib.Data.List.Rotate
import WallpaperRotation.Proofs.Rotation.SameScope

namespace WallpaperRotation

/-! ## Choices one after the other -/

/-- The cursor after so many choices in order. -/
def cursorAt (candidates : List Wallpaper) (start : UInt64) : Nat → UInt64
  | 0 => start
  | n + 1 => (selectSequential candidates (cursorAt candidates start n)).2

/-- The choice in order after so many others. -/
def turnAt (candidates : List Wallpaper) (start : UInt64) (n : Nat) : Option Wallpaper :=
  (selectSequential candidates (cursorAt candidates start n)).1

/-- The index of the choice in order after so many others, which is where it leaves the cursor. -/
def turnIndex (candidates : List Wallpaper) (start : UInt64) (n : Nat) : Nat :=
  (cursorAt candidates start (n + 1)).toNat

/-! ## One choice -/

section Turns

variable {candidates : List Wallpaper}

/-- The index behind one of a list is the next one or, behind the end, the first one. -/
theorem wrapped_succ {length index : Nat} (h : index < length) :
    wrapped length (index + 1) = (index + 1) % length := by
  unfold wrapped
  by_cases hnext : index + 1 < length
  · rw [if_pos hnext, Nat.mod_eq_of_lt hnext]
  · have hlast : index + 1 = length := by omega
    rw [if_neg hnext, hlast, Nat.mod_self]

/-- A choice in order leaves the cursor at the index behind it or, when no candidate is there, at
the first one.  The greatest cursor has no index behind it, nor a candidate there. -/
theorem toNat_selectSequential_snd (hlength : candidates.length < UInt64.size) (cursor : UInt64) :
    (selectSequential candidates cursor).2.toNat =
      wrapped candidates.length (cursor.toNat + 1) := by
  have hbehind := toNat_cursorAfter cursor
  unfold placeBehind at hbehind
  unfold selectSequential wrapped
  cases hnext : candidates[(cursorAfter cursor).toNat]? with
  | none =>
    have hend := List.getElem?_eq_none_iff.1 hnext
    rw [if_neg (by omega)]
    rfl
  | some w =>
    obtain ⟨hindex, -⟩ := List.getElem?_eq_some_iff.1 hnext
    rw [if_pos (by omega)]
    show (cursorAfter cursor).toNat = cursor.toNat + 1
    omega

/-- Every choice is the candidate at its index. -/
theorem exists_turnAt (hne : candidates ≠ []) (start : UInt64) (n : Nat) :
    ∃ w, turnAt candidates start n = some w ∧
      candidates[turnIndex candidates start n]? = some w := by
  obtain ⟨w, hw⟩ := exists_selectSequential hne (cursorAt candidates start n)
  exact ⟨w, hw, getElem?_selectSequential hw⟩

/-- The index of a choice is that of a candidate. -/
theorem turnIndex_lt (hne : candidates ≠ []) (start : UInt64) (n : Nat) :
    turnIndex candidates start n < candidates.length := by
  obtain ⟨w, -, hw⟩ := exists_turnAt hne start n
  exact (List.getElem?_eq_some_iff.1 hw).1

/-- A choice is at the index behind the one before it, with the first one behind the last. -/
theorem turnIndex_succ (hne : candidates ≠ []) (hlength : candidates.length < UInt64.size)
    (start : UInt64) (n : Nat) :
    turnIndex candidates start (n + 1) =
      (turnIndex candidates start n + 1) % candidates.length := by
  rw [← wrapped_succ (turnIndex_lt hne start n)]
  exact toNat_selectSequential_snd hlength (cursorAt candidates start (n + 1))

/-! ## Choices in a row -/

/-- Choices go on from the index of one of them, round the candidates. -/
theorem turnIndex_add (hne : candidates ≠ []) (hlength : candidates.length < UInt64.size)
    (start : UInt64) (first n : Nat) :
    turnIndex candidates start (first + n) =
      (turnIndex candidates start first + n) % candidates.length := by
  induction n with
  | zero => exact (Nat.mod_eq_of_lt (turnIndex_lt hne start first)).symm
  | succ n ih =>
    rw [← Nat.add_assoc, turnIndex_succ hne hlength, ih, Nat.mod_add_mod, Nat.add_assoc]

/-- The indices of as many choices in a row as there are candidates are all indices, turned round
to the first one of these. -/
theorem map_turnIndex (hne : candidates ≠ []) (hlength : candidates.length < UInt64.size)
    (start : UInt64) (first : Nat) :
    ((List.range candidates.length).map fun i => turnIndex candidates start (first + i)) =
      (List.range candidates.length).rotate (turnIndex candidates start first) := by
  refine List.ext_getElem (by simp) fun i hi hi' => ?_
  rw [List.getElem_map, List.getElem_range, List.getElem_rotate, List.getElem_range,
    turnIndex_add hne hlength, List.length_range, Nat.add_comm i]

/-- As many choices in a row as there are candidates are the candidates, turned round to the first
one of these. -/
theorem map_turnAt (hne : candidates ≠ []) (hlength : candidates.length < UInt64.size)
    (start : UInt64) (first : Nat) :
    ((List.range candidates.length).map fun i => turnAt candidates start (first + i)) =
      (candidates.rotate (turnIndex candidates start first)).map some := by
  refine List.ext_getElem (by simp) fun i hi hi' => ?_
  obtain ⟨w, hturn, hindex⟩ := exists_turnAt hne start (first + i)
  rw [turnIndex_add hne hlength, Nat.add_comm] at hindex
  obtain ⟨hplace, hget⟩ := List.getElem?_eq_some_iff.1 hindex
  rw [List.getElem_map, List.getElem_range, hturn, ← hget, List.getElem_map, List.getElem_rotate]

/-- Choices in order among some candidates, no more of them than words can count, go round the
candidates from any cursor.  Each of them is the candidate at the index where it leaves the cursor.
The first one is at the index behind the cursor, or at the first one when no candidate is there, and
each later one is at the index behind the one before it, with the first one behind the last.  So as
many choices in a row as there are candidates are at every index once, and are every candidate
once.  The index that is looked at never comes round: behind the greatest number it is that number
again. -/
theorem turnAt_cycles (hne : candidates ≠ []) (hlength : candidates.length < UInt64.size)
    (start : UInt64) :
    (∀ n, turnIndex candidates start n < candidates.length ∧
      ∃ w, turnAt candidates start n = some w ∧
        candidates[turnIndex candidates start n]? = some w) ∧
    turnIndex candidates start 0 =
      (if start.toNat + 1 < candidates.length then start.toNat + 1 else 0) ∧
    (∀ n, turnIndex candidates start (n + 1) =
      (turnIndex candidates start n + 1) % candidates.length) ∧
    (∀ first, ((List.range candidates.length).map fun i =>
      turnIndex candidates start (first + i)).Perm (List.range candidates.length)) ∧
    (∀ first, ((List.range candidates.length).map fun i =>
      turnAt candidates start (first + i)).Perm (candidates.map some)) ∧
    ∀ n, (cursorAfter (cursorAt candidates start n)).toNat =
      min ((cursorAt candidates start n).toNat + 1) (UInt64.size - 1) := by
  refine ⟨fun n => ⟨turnIndex_lt hne start n, exists_turnAt hne start n⟩,
    toNat_selectSequential_snd hlength start, turnIndex_succ hne hlength start,
    fun first => ?_, fun first => ?_, fun n => toNat_cursorAfter _⟩
  · rw [map_turnIndex hne hlength]
    exact List.rotate_perm _ _
  · rw [map_turnAt hne hlength]
    exact (List.rotate_perm _ _).map some

/-- The greatest cursor is followed by the first of two candidates, and any two choices in a row
are both of them. -/
theorem turnAt_cycles_greatest :
    [sampleWallpaper "a", sampleWallpaper "b"] ≠ [] ∧
    [sampleWallpaper "a", sampleWallpaper "b"].length < UInt64.size ∧
    turnIndex [sampleWallpaper "a", sampleWallpaper "b"] 18446744073709551615 0 = 0 ∧
    ∀ first, ((List.range 2).map fun i =>
      turnAt [sampleWallpaper "a", sampleWallpaper "b"] 18446744073709551615 (first + i)).Perm
        [some (sampleWallpaper "a"), some (sampleWallpaper "b")] := by
  have hne : [sampleWallpaper "a", sampleWallpaper "b"] ≠ [] := List.cons_ne_nil _ _
  have hlength : [sampleWallpaper "a", sampleWallpaper "b"].length < UInt64.size := by decide
  obtain ⟨-, hfirst, -, -, hpicks, -⟩ := turnAt_cycles hne hlength 18446744073709551615
  exact ⟨hne, hlength, hfirst, hpicks⟩

end Turns

end WallpaperRotation
