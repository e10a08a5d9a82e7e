/-
# Sets of identifiers

A set of identifiers is the ascending list of its members, so two sets with the same members are
the same value.  The main facts say which identifiers a set holds after one was put in or taken
out.
-/

namespace WallpaperRotation

/-- A set of identifiers. -/
structure IdSet where
  ids : List String
  ascending : ids.Pairwise (· < ·)
  deriving DecidableEq

namespace IdSet

/-! ## Ascending lists -/

/-- The ascending list with an identifier put in. -/
def insertInto (id : String) : List String → List String
  | [] => [id]
  | other :: rest =>
    if id < other then id :: other :: rest
    else if id = other then other :: rest
    else other :: insertInto id rest

/-- What is in the list after an identifier was put in. -/
theorem mem_insertInto {id other : String} {ids : List String} :
    other ∈ insertInto id ids ↔ other = id ∨ other ∈ ids := by
  induction ids with
  | nil => simp [insertInto]
  | cons x rest ih =>
    unfold insertInto
    split
    · simp
    · split
      · rename_i h; subst h; simp
      · simp only [List.mem_cons, ih]
        constructor
        · rintro (h | h | h) <;> simp [h]
        · rintro (h | h | h) <;> simp [h]

/-- Putting an identifier in keeps the list ascending. -/
theorem pairwise_insertInto {id : String} {ids : List String} (h : ids.Pairwise (· < ·)) :
    (insertInto id ids).Pairwise (· < ·) := by
  induction ids with
  | nil => simp [insertInto]
  | cons x rest ih =>
    rw [List.pairwise_cons] at h
    unfold insertInto
    split
    · rename_i hlt
      refine List.pairwise_cons.2 ⟨?_, List.pairwise_cons.2 h⟩
      intro y hy
      rcases List.mem_cons.1 hy with hy | hy
      · rw [hy]; exact hlt
      · exact String.lt_trans hlt (h.1 y hy)
    · rename_i hnlt
      split
      · exact List.pairwise_cons.2 h
      · rename_i hne
        refine List.pairwise_cons.2 ⟨?_, ih h.2⟩
        intro y hy
        rcases mem_insertInto.1 hy with hy | hy
        · rw [hy]
          exact Std.lt_of_le_of_ne (Std.not_lt.1 hnlt) (Ne.symm hne)
        · exact h.1 y hy

/-! ## Sets -/

/-- The set without members. -/
def empty : IdSet := ⟨[], List.Pairwise.nil⟩

/-- The set with an identifier put in. -/
def insert (set : IdSet) (id : String) : IdSet :=
  ⟨insertInto id set.ids, pairwise_insertInto set.ascending⟩

/-- The set with an identifier taken out. -/
def erase (set : IdSet) (id : String) : IdSet :=
  ⟨set.ids.filter (· ≠ id), set.ascending.filter _⟩

/-- The set of the identifiers in a list. -/
def ofList (ids : List String) : IdSet :=
  ids.foldl insert empty

/-- The identifier is in the set. -/
def contains (set : IdSet) (id : String) : Bool :=
  set.ids.contains id

/-- The set has no members. -/
def isEmpty (set : IdSet) : Bool :=
  set.ids.isEmpty

/-- The members of a set with an identifier put in. -/
@[simp] theorem contains_insert (set : IdSet) (id other : String) :
    (set.insert id).contains other = true ↔ other = id ∨ set.contains other = true := by
  simp [contains, insert, mem_insertInto]

/-- The members of a set with an identifier taken out. -/
@[simp] theorem contains_erase (set : IdSet) (id other : String) :
    (set.erase id).contains other = true ↔ set.contains other = true ∧ other ≠ id := by
  simp [contains, erase]

end IdSet

end WallpaperRotation
