/-
# Consistent libraries

What holds of every library that the program gets to see: each record has an identifier and a path
of its own, the records are in order, and the tags are non-empty sets of identifiers of records
under normalized names in ascending order.  The records of a consistent library determine their
list.
-/
import WallpaperRotation.Library.Tags
import WallpaperRotation.Proofs.Library.Record

namespace WallpaperRotation.Library

/-! ## The invariant -/

/-- The library is as its operations leave it. -/
structure Consistent (library : Library) : Prop where
  /-- No two records have one identifier. -/
  idsDistinct : library.ids.Nodup
  /-- No two records have the same path. -/
  pathsDistinct : PathsDistinct library.wallpapers
  /-- The newest records come first and, among records of one age, those whose paths do. -/
  ordered : library.wallpapers.Pairwise fun a b => precedes a b = true
  /-- Only identifiers of records are tagged. -/
  tagsLive : ∀ tag ∈ library.tags, ∀ id ∈ tag.ids.ids, id ∈ library.ids
  /-- No tag is empty. -/
  tagsFilled : ∀ tag ∈ library.tags, tag.ids.ids ≠ []
  /-- The names of tags are kept in their normal form. -/
  namesNormal : ∀ tag ∈ library.tags, tag.name ≠ "" ∧ ∃ text, tag.name = normalizeTag text
  /-- No two tags have one name, and their names ascend. -/
  namesAscending : library.tags.Pairwise fun a b => a.name < b.name

/-- The library without records is consistent. -/
theorem consistent_empty : empty.Consistent where
  idsDistinct := List.nodup_nil
  pathsDistinct := List.Pairwise.nil
  ordered := List.Pairwise.nil
  tagsLive := by intro tag htag; cases htag
  tagsFilled := by intro tag htag; cases htag
  namesNormal := by intro tag htag; cases htag
  namesAscending := List.Pairwise.nil

/-! ## Order -/

/-- Records that come neither before nor after each other have the same path. -/
theorem path_same_of_precedes {a b : Wallpaper} (hab : precedes a b = true)
    (hba : precedes b a = true) : a.path.same b.path = true := by
  simp only [precedes, Bool.or_eq_true, Bool.and_eq_true, decide_eq_true_eq,
    UInt64.lt_iff_toNat_lt, ← UInt64.toNat_inj] at hab hba
  rcases hab with hab | ⟨hage, hab⟩
  · rcases hba with hba | ⟨hba, -⟩ <;> omega
  · rcases hba with hba | ⟨-, hba⟩
    · omega
    · exact FilePath.same_of_le_of_le hab hba

/-- Lists in order that hold the same records of distinct paths are the same list. -/
theorem eq_of_perm_of_ordered {records others : List Wallpaper} (hperm : records.Perm others)
    (hpaths : PathsDistinct records) (hrecords : records.Pairwise fun a b => precedes a b = true)
    (hothers : others.Pairwise fun a b => precedes a b = true) : records = others := by
  refine hperm.eq_of_pairwise (fun a b ha hb hab hba => ?_) hrecords hothers
  exact eq_of_path_same hpaths ha (hperm.mem_iff.2 hb) (path_same_of_precedes hab hba)

/-- A list of records of distinct paths is put in the same order wherever its records stand. -/
theorem mergeSort_eq_of_perm {records others : List Wallpaper} (hperm : records.Perm others)
    (hpaths : PathsDistinct records) :
    records.mergeSort precedes = others.mergeSort precedes := by
  have hsorted (list : List Wallpaper) :
      (list.mergeSort precedes).Pairwise fun a b => precedes a b = true :=
    List.pairwise_mergeSort precedes_trans precedes_total list
  refine eq_of_perm_of_ordered ?_ ?_ (hsorted records) (hsorted others)
  · exact (List.mergeSort_perm records precedes).trans
      (hperm.trans (List.mergeSort_perm others precedes).symm)
  · exact hpaths.of_perm (List.mergeSort_perm records precedes).symm

/-- A library in order stays as it is when it is put in order. -/
theorem sorted_eq_self {library : Library}
    (h : library.wallpapers.Pairwise fun a b => precedes a b = true) :
    library.sorted = library := by
  unfold sorted
  rw [List.mergeSort_of_pairwise h]

/-- Two records are put in order by one comparison. -/
theorem sorted_pair (v w : Wallpaper) (tags : List Tag) :
    sorted ⟨[v, w], tags⟩ = ⟨if precedes v w then [v, w] else [w, v], tags⟩ := by
  simp [sorted, List.mergeSort, List.MergeSort.Internal.splitInTwo, List.merge]

/-- Consistent libraries with the same records and the same tags are the same. -/
theorem eq_of_mem_iff {library other : Library} (h : library.Consistent)
    (hother : other.Consistent) (hmem : ∀ w, w ∈ library.wallpapers ↔ w ∈ other.wallpapers)
    (htags : library.tags = other.tags) : library = other := by
  have hperm : library.wallpapers.Perm other.wallpapers :=
    (List.perm_ext_iff_of_nodup h.idsDistinct.of_map hother.idsDistinct.of_map).2 hmem
  have hrecords := eq_of_perm_of_ordered hperm h.pathsDistinct h.ordered hother.ordered
  cases library
  cases other
  simp only at hrecords htags
  rw [hrecords, htags]

end WallpaperRotation.Library
