/-
# Libraries with only some of their records

Removing all records but those that meet a condition leaves these in their order, and leaves of the
tags what they hold of these; a tag that holds none of them is gone.  Restricting a library to one
condition and then to another one is restricting it to both, so a restriction that was made before
changes nothing.
-/
import WallpaperRotation.Library.Tags
import WallpaperRotation.Proofs.Library.Removal

namespace WallpaperRotation

/-! ## Tags among some identifiers -/

/-- The members of a set that are in a list. -/
def IdSet.among (set : IdSet) (kept : List String) : IdSet :=
  ⟨set.ids.filter fun id => kept.contains id, set.ascending.filter _⟩

/-- What is in a set among the identifiers in a list. -/
theorem IdSet.mem_among {set : IdSet} {kept : List String} {id : String} :
    id ∈ (set.among kept).ids ↔ id ∈ set.ids ∧ id ∈ kept := by
  simp [IdSet.among]

/-- A set among fewer identifiers may be taken in two goes. -/
theorem IdSet.among_among (set : IdSet) {kept fewer : List String} (h : fewer ⊆ kept) :
    (set.among kept).among fewer = set.among fewer := by
  simp only [IdSet.among, List.filter_filter, IdSet.mk.injEq]
  refine List.filter_congr fun id _ => ?_
  by_cases hid : id ∈ fewer
  · simp [hid, h hid]
  · simp [hid]

namespace Library

/-- What some tags hold among the identifiers in a list; those that hold none of them are gone. -/
def tagsAmong (kept : List String) (tags : List Tag) : List Tag :=
  (tags.map fun tag => { tag with ids := tag.ids.among kept }).filter fun tag => !tag.ids.isEmpty

/-- Taking identifiers out of the tags leaves what the tags hold among the others. -/
theorem untagAll_eq_tagsAmong {gone kept : List String} {tags : List Tag}
    (h : ∀ tag ∈ tags, ∀ id ∈ tag.ids.ids, id ∈ kept ↔ id ∉ gone) :
    untagAll gone tags = tagsAmong kept tags := by
  unfold untagAll tagsAmong
  congr 1
  refine List.map_congr_left fun tag htag => ?_
  have hids : tag.ids.without gone = tag.ids.among kept := by
    simp only [IdSet.without, IdSet.among, IdSet.mk.injEq]
    refine List.filter_congr fun id hid => ?_
    by_cases hgone : id ∈ gone
    · simp [hgone, mt (h tag htag id hid).1 (not_not_intro hgone)]
    · simp [hgone, (h tag htag id hid).2 hgone]
  rw [hids]

/-- Tags among fewer identifiers may be taken in two goes. -/
theorem tagsAmong_tagsAmong {kept fewer : List String} (h : fewer ⊆ kept) (tags : List Tag) :
    tagsAmong fewer (tagsAmong kept tags) = tagsAmong fewer tags := by
  induction tags with
  | nil => rfl
  | cons tag tags ih =>
    simp only [tagsAmong, List.map_cons] at ih ⊢
    by_cases hempty : (tag.ids.among kept).isEmpty = true
    · -- A tag that goes away in the first go would go away in the second one.
      have hgone : (tag.ids.among fewer).isEmpty = true := by
        refine List.isEmpty_iff.2 (List.eq_nil_iff_forall_not_mem.2 fun id hid => ?_)
        obtain ⟨hheld, hfewer⟩ := IdSet.mem_among.1 hid
        have hkept := IdSet.mem_among.2 ⟨hheld, h hfewer⟩
        rw [List.isEmpty_iff.1 hempty] at hkept
        exact List.not_mem_nil hkept
      rw [List.filter_cons_of_neg (by simp [hempty]), List.filter_cons_of_neg (by simp [hgone]), ih]
    · rw [List.filter_cons_of_pos (by simp [hempty]), List.map_cons, List.filter_cons,
        List.filter_cons, ih, IdSet.among_among tag.ids h]

/-- An identifier stays in its tags among identifiers that it is one of. -/
theorem filter_contains_tagsAmong {kept : List String} {id : String} (hid : id ∈ kept)
    (tags : List Tag) :
    ((tagsAmong kept tags).filter fun tag => tag.ids.contains id).map Tag.name =
      (tags.filter fun tag => tag.ids.contains id).map Tag.name := by
  induction tags with
  | nil => rfl
  | cons tag tags ih =>
    have hcontains : (tag.ids.among kept).contains id = tag.ids.contains id := by
      rw [Bool.eq_iff_iff, IdSet.contains, IdSet.contains, List.contains_iff_mem,
        List.contains_iff_mem, IdSet.mem_among, and_iff_left hid]
    simp only [tagsAmong, List.map_cons] at ih ⊢
    by_cases hempty : (tag.ids.among kept).isEmpty = true
    · have hnot : tag.ids.contains id = false := by
        rw [← hcontains, IdSet.contains, List.isEmpty_iff.1 hempty]
        rfl
      rw [List.filter_cons_of_neg (by simp [hempty]), ih, List.filter_cons_of_neg (by simp [hnot])]
    · rw [List.filter_cons_of_pos (by simp [hempty]), List.filter_cons, List.filter_cons, hcontains]
      split
      · rw [List.map_cons, List.map_cons, ih]
      · exact ih

/-- An identifier that no tag holds has no tags. -/
theorem tagsOf_eq_nil {library : Library} {id : String}
    (h : ∀ tag ∈ library.tags, id ∉ tag.ids.ids) : library.tagsOf id = [] := by
  rw [tagsOf, List.map_eq_nil_iff, List.filter_eq_nil_iff]
  intro tag htag
  simpa [IdSet.contains] using h tag htag

/-! ## Restricting a library -/

/-- The library with only the records that meet a condition, and their places in the tags. -/
def only (library : Library) (meets : Wallpaper → Bool) : Library :=
  ⟨library.wallpapers.filter meets,
    tagsAmong ((library.wallpapers.filter meets).map Wallpaper.id) library.tags⟩

/-- A record that meets the condition keeps its tags. -/
theorem tagsOf_only {library : Library} {meets : Wallpaper → Bool} {w : Wallpaper}
    (hw : w ∈ (library.only meets).wallpapers) :
    (library.only meets).tagsOf w.id = library.tagsOf w.id :=
  filter_contains_tagsAmong (List.mem_map_of_mem hw) library.tags

/-- Restricting a library to two conditions, one after the other, is restricting it to both. -/
theorem only_only (library : Library) (meets also : Wallpaper → Bool) :
    (library.only meets).only also = library.only fun w => meets w && also w := by
  have hfilter : (library.wallpapers.filter meets).filter also =
      library.wallpapers.filter fun w => meets w && also w := by
    rw [List.filter_filter]
    exact List.filter_congr fun w _ => Bool.and_comm _ _
  unfold only
  rw [tagsAmong_tagsAmong (List.filter_sublist.map Wallpaper.id).subset, hfilter]

/-- A restriction that was made before changes nothing. -/
theorem only_self (library : Library) (meets : Wallpaper → Bool) :
    (library.only meets).only meets = library.only meets := by
  rw [only_only]
  congr 1
  funext w
  exact Bool.and_self _

/-- Without the records that meet a condition, a consistent library is restricted to the others. -/
theorem Consistent.withoutWhere_eq_only {library : Library} (h : library.Consistent)
    (meets : Wallpaper → Bool) :
    library.withoutWhere meets = library.only fun w => !meets w := by
  have hrecords := h.wallpapers_withoutWhere meets
  have htags : (library.withoutWhere meets).tags =
      tagsAmong ((library.withoutWhere meets).ids) library.tags := by
    refine untagAll_eq_tagsAmong fun tag htag id hid => ?_
    unfold withoutWhere
    rw [mem_ids_without, and_iff_right (h.tagsLive tag htag id hid)]
  rw [ids, hrecords] at htags
  exact congrArg₂ Library.mk hrecords htags

/-- Restricting a consistent library leaves a consistent one. -/
theorem Consistent.only {library : Library} (h : library.Consistent) (meets : Wallpaper → Bool) :
    (library.only meets).Consistent := by
  have hwithout := h.withoutWhere_eq_only fun w => !meets w
  simp only [Bool.not_not] at hwithout
  rw [← hwithout]
  exact h.without _

end Library

end WallpaperRotation
