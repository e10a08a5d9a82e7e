/-
# What is left after records were removed

Removing identifiers one after the other leaves the records with other identifiers, in their order,
and the tags without those identifiers; a tag that held no others is gone.  Purging and sanitizing
remove the records that meet a condition.  A consistent library stays consistent.
-/
import WallpaperRotation.Proofs.Library.Consistency

namespace WallpaperRotation

/-! ## Sets and tags without some identifiers -/

/-- The set without the identifiers in a list. -/
def IdSet.without (set : IdSet) (gone : List String) : IdSet :=
  ⟨set.ids.filter fun id => !gone.contains id, set.ascending.filter _⟩

/-- What is in a set without the identifiers in a list. -/
theorem IdSet.mem_without {set : IdSet} {gone : List String} {id : String} :
    id ∈ (set.without gone).ids ↔ id ∈ set.ids ∧ id ∉ gone := by
  simp [IdSet.without]

/-- A set that holds none of the identifiers stays as it is without them. -/
theorem IdSet.without_eq_self {set : IdSet} {gone : List String}
    (h : ∀ id ∈ set.ids, id ∉ gone) : set.without gone = set := by
  cases set with
  | mk ids ascending =>
    simp only [IdSet.without, IdSet.mk.injEq]
    exact List.filter_eq_self.2 fun id hid => by simpa using h id hid

/-- Identifiers may be taken out of a set in two goes. -/
theorem IdSet.without_erase (set : IdSet) (id : String) (gone : List String) :
    (set.erase id).without gone = set.without (id :: gone) := by
  simp only [IdSet.without, IdSet.erase, List.filter_filter, IdSet.mk.injEq]
  congr 1
  funext other
  by_cases h : other = id <;> simp [h]

namespace Library

/-- The tags without some identifiers; those that held no others are gone. -/
def untagAll (gone : List String) (tags : List Tag) : List Tag :=
  (tags.map fun tag => { tag with ids := tag.ids.without gone }).filter fun tag =>
    !tag.ids.isEmpty

/-- A tag among those without some identifiers was among the tags, and held more than these. -/
theorem mem_untagAll {gone : List String} {tags : List Tag} {tag : Tag} :
    tag ∈ untagAll gone tags ↔
      ∃ old ∈ tags, tag = { old with ids := old.ids.without gone } ∧ tag.ids.ids ≠ [] := by
  simp only [untagAll, List.mem_filter, List.mem_map, IdSet.isEmpty, Bool.not_eq_true',
    List.isEmpty_eq_false_iff]
  constructor
  · rintro ⟨⟨old, hold, rfl⟩, hfilled⟩
    exact ⟨old, hold, rfl, hfilled⟩
  · rintro ⟨old, hold, rfl, hfilled⟩
    exact ⟨⟨old, hold, rfl⟩, hfilled⟩

/-- Non-empty tags that hold none of the identifiers stay as they are without them. -/
theorem untagAll_eq_self {gone : List String} {tags : List Tag}
    (hfilled : ∀ tag ∈ tags, tag.ids.ids ≠ [])
    (hfree : ∀ tag ∈ tags, ∀ id ∈ tag.ids.ids, id ∉ gone) : untagAll gone tags = tags := by
  have hmap : (tags.map fun tag => { tag with ids := tag.ids.without gone }) = tags := by
    refine (List.map_congr_left fun tag htag => ?_).trans (List.map_id tags)
    rw [IdSet.without_eq_self (hfree tag htag)]
    rfl
  unfold untagAll
  rw [hmap, List.filter_eq_self]
  intro tag htag
  simpa [IdSet.isEmpty] using hfilled tag htag

/-- Identifiers may be taken out of the tags in two goes. -/
theorem untagAll_untag (id : String) (gone : List String) (tags : List Tag) :
    untagAll gone (untag id tags) = untagAll (id :: gone) tags := by
  induction tags with
  | nil => rfl
  | cons tag tags ih =>
    simp only [untagAll, untag, List.map_cons] at ih ⊢
    by_cases hempty : (tag.ids.erase id).isEmpty = true
    · -- A tag that goes away in the first go would go away in the second one.
      have hgone : (tag.ids.without (id :: gone)).isEmpty = true := by
        rw [← IdSet.without_erase]
        simp only [IdSet.isEmpty, List.isEmpty_iff] at hempty ⊢
        simp [IdSet.without, hempty]
      rw [List.filter_cons_of_neg (by simp [hempty]), List.filter_cons_of_neg (by simp [hgone]), ih]
    · rw [List.filter_cons_of_pos (by simp [hempty]), List.map_cons, List.filter_cons,
        List.filter_cons, ih, IdSet.without_erase]

/-- Taking one identifier out of the tags is taking out a list of one. -/
theorem untag_eq_untagAll (id : String) (tags : List Tag) :
    untag id tags = untagAll [id] tags := by
  unfold untag untagAll
  congr 2
  funext tag
  rw [← IdSet.without_erase, IdSet.without_eq_self]
  intro other _
  exact List.not_mem_nil

/-! ## Libraries without some identifiers -/

/-- The library without the records with some identifiers and without their place in the tags. -/
def without (library : Library) (gone : List String) : Library :=
  ⟨library.wallpapers.filter fun w => !gone.contains w.id, untagAll gone library.tags⟩

/-- The records that are left. -/
theorem mem_wallpapers_without {library : Library} {gone : List String} {w : Wallpaper} :
    w ∈ (library.without gone).wallpapers ↔ w ∈ library.wallpapers ∧ w.id ∉ gone := by
  simp [without]

/-- The identifiers that are left. -/
theorem mem_ids_without {library : Library} {gone : List String} {id : String} :
    id ∈ (library.without gone).ids ↔ id ∈ library.ids ∧ id ∉ gone := by
  simp only [mem_ids, mem_wallpapers_without]
  constructor
  · rintro ⟨w, ⟨hw, hgone⟩, rfl⟩
    exact ⟨⟨w, hw, rfl⟩, hgone⟩
  · rintro ⟨⟨w, hw, rfl⟩, hgone⟩
    exact ⟨w, ⟨hw, hgone⟩, rfl⟩

/-- Of a consistent library a consistent one is left. -/
theorem Consistent.without {library : Library} (h : library.Consistent) (gone : List String) :
    (library.without gone).Consistent where
  idsDistinct := (List.filter_sublist.map Wallpaper.id).nodup h.idsDistinct
  pathsDistinct := h.pathsDistinct.filter _
  ordered := h.ordered.filter _
  tagsLive := by
    intro tag htag id hid
    obtain ⟨old, hold, rfl, -⟩ := mem_untagAll.1 htag
    obtain ⟨hid, hgone⟩ := IdSet.mem_without.1 hid
    exact mem_ids_without.2 ⟨h.tagsLive old hold id hid, hgone⟩
  tagsFilled := by
    intro tag htag
    obtain ⟨old, -, -, hfilled⟩ := mem_untagAll.1 htag
    exact hfilled
  namesNormal := by
    intro tag htag
    obtain ⟨old, hold, rfl, -⟩ := mem_untagAll.1 htag
    exact h.namesNormal old hold
  namesAscending := by
    refine List.Pairwise.filter _ (List.pairwise_map.2 ?_)
    exact h.namesAscending

/-- A consistent library stays as it is without identifiers that it does not have. -/
theorem Consistent.without_eq_self {library : Library} (h : library.Consistent)
    {gone : List String} (hfree : ∀ id ∈ gone, id ∉ library.ids) :
    library.without gone = library := by
  have hrecords : (library.wallpapers.filter fun w => !gone.contains w.id) =
      library.wallpapers := by
    rw [List.filter_eq_self]
    intro w hw
    simpa using fun hgone => hfree w.id hgone (id_mem_ids hw)
  have htags : untagAll gone library.tags = library.tags :=
    untagAll_eq_self h.tagsFilled fun tag htag id hid hgone =>
      hfree id hgone (h.tagsLive tag htag id hid)
  unfold Library.without
  rw [hrecords, htags]

/-- Nothing is removed under an identifier that the library does not have. -/
theorem remove?_eq_none {library : Library} {id : String} (h : id ∉ library.ids) :
    library.remove? id = none := by
  unfold remove?
  rw [get?_eq_none_iff.2 h, Option.map_none]

/-- A record is removed under its identifier. -/
theorem Consistent.remove?_eq_some {library : Library} (h : library.Consistent) {w : Wallpaper}
    (hw : w ∈ library.wallpapers) : library.remove? w.id = some (w, library.without [w.id]) := by
  have hrecords : (library.wallpapers.eraseP fun v => v.id = w.id) =
      library.wallpapers.filter fun v => !List.contains [w.id] v.id := by
    rw [eraseP_id_eq_filter h.idsDistinct]
    congr 1
    funext v
    simp
  unfold remove? Library.without
  rw [(get?_eq_some_iff h.idsDistinct).2 ⟨hw, rfl⟩, Option.map_some, hrecords, untag_eq_untagAll]

/-- Identifiers may be taken out of a library in two goes. -/
theorem without_without (library : Library) (id : String) (gone : List String) :
    (library.without [id]).without gone = library.without (id :: gone) := by
  unfold Library.without
  rw [← untag_eq_untagAll, untagAll_untag, List.filter_filter]
  congr 2
  funext w
  by_cases h : w.id = id <;> simp [h]

/-- Without identifiers that it does not have, a consistent library is what it is without the
others. -/
theorem Consistent.without_cons_of_not_mem {library : Library} (h : library.Consistent)
    {id : String} (hid : id ∉ library.ids) (gone : List String) :
    library.without (id :: gone) = library.without gone := by
  rw [← without_without, h.without_eq_self]
  intro other hother
  rw [List.mem_singleton.1 hother]
  exact hid

/-- Removing identifiers one after the other leaves the library without them. -/
theorem Consistent.removeAll_snd {library : Library} (h : library.Consistent)
    (gone : List String) : (library.removeAll gone).2 = library.without gone := by
  induction gone generalizing library with
  | nil => exact (h.without_eq_self fun id hid => absurd hid List.not_mem_nil).symm
  | cons id gone ih =>
    unfold removeAll
    by_cases hid : id ∈ library.ids
    · obtain ⟨w, hw, rfl⟩ := mem_ids.1 hid
      rw [h.remove?_eq_some hw]
      exact (ih (h.without [w.id])).trans (without_without library w.id gone)
    · rw [remove?_eq_none hid, h.without_cons_of_not_mem hid]
      exact ih h

/-- Removing the records of a part of the library one after the other removes these records. -/
theorem Consistent.removeAll_fst {library : Library} (h : library.Consistent)
    {records : List Wallpaper} (hnodup : (records.map Wallpaper.id).Nodup)
    (hsub : ∀ w ∈ records, w ∈ library.wallpapers) :
    (library.removeAll (records.map Wallpaper.id)).1 = records := by
  induction records generalizing library with
  | nil => rfl
  | cons w records ih =>
    rw [List.map_cons, List.nodup_cons] at hnodup
    have hleft : ∀ v ∈ records, v ∈ (library.without [w.id]).wallpapers := by
      intro v hv
      refine mem_wallpapers_without.2 ⟨hsub v (List.mem_cons_of_mem w hv), fun hgone => ?_⟩
      exact hnodup.1 (List.mem_singleton.1 hgone ▸ List.mem_map_of_mem hv)
    rw [List.map_cons, removeAll, h.remove?_eq_some (hsub w List.mem_cons_self)]
    simp only
    rw [ih (h.without [w.id]) hnodup.2 hleft]

/-! ## Libraries without the records that meet a condition -/

/-- The library without the records that meet a condition. -/
def withoutWhere (library : Library) (meets : Wallpaper → Bool) : Library :=
  library.without ((library.wallpapers.filter meets).map Wallpaper.id)

/-- The records that are left are those that do not meet the condition, in their order. -/
theorem Consistent.wallpapers_withoutWhere {library : Library} (h : library.Consistent)
    (meets : Wallpaper → Bool) :
    (library.withoutWhere meets).wallpapers = library.wallpapers.filter fun w => !meets w := by
  unfold Library.withoutWhere Library.without
  refine List.filter_congr fun w hw => congrArg (! ·) (Bool.eq_iff_iff.2 ?_)
  rw [List.contains_iff_mem]
  constructor
  · intro hgone
    obtain ⟨v, hv, hid⟩ := List.mem_map.1 hgone
    obtain ⟨hv, hmeets⟩ := List.mem_filter.1 hv
    rw [← eq_of_id_eq h.idsDistinct hv hw hid]
    exact hmeets
  · intro hmeets
    exact List.mem_map_of_mem (List.mem_filter.2 ⟨hw, hmeets⟩)

/-- A record is left when it does not meet the condition. -/
theorem Consistent.mem_wallpapers_withoutWhere {library : Library} (h : library.Consistent)
    {meets : Wallpaper → Bool} {w : Wallpaper} :
    w ∈ (library.withoutWhere meets).wallpapers ↔ w ∈ library.wallpapers ∧ meets w = false := by
  rw [h.wallpapers_withoutWhere, List.mem_filter, Bool.not_eq_true']

/-- Where no record meets the condition, the library stays as it is. -/
theorem Consistent.withoutWhere_eq_self {library : Library} (h : library.Consistent)
    {meets : Wallpaper → Bool} (hnone : ∀ w ∈ library.wallpapers, meets w = false) :
    library.withoutWhere meets = library := by
  have hfilter : library.wallpapers.filter meets = [] :=
    List.filter_eq_nil_iff.2 fun w hw => by rw [hnone w hw]; exact Bool.false_ne_true
  unfold withoutWhere
  rw [hfilter]
  exact h.without_eq_self fun id hid => absurd hid List.not_mem_nil

/-- Removing the records that meet a condition removes exactly these. -/
theorem Consistent.removeAll_filter {library : Library} (h : library.Consistent)
    (meets : Wallpaper → Bool) :
    library.removeAll ((library.wallpapers.filter meets).map Wallpaper.id) =
      (library.wallpapers.filter meets, library.withoutWhere meets) := by
  refine Prod.ext ?_ (h.removeAll_snd _)
  exact h.removeAll_fst ((List.filter_sublist.map Wallpaper.id).nodup h.idsDistinct) fun w hw =>
    (List.mem_filter.1 hw).1

/-- The record is not backed by a file in one of the folders. -/
def isLost (disk : Disk) (folders : List FilePath) (w : Wallpaper) : Bool :=
  !(folders.filter disk.isFolder).any w.folder.same || !w.isBacked disk

/-- A purge removes the records that are not backed by a file in one of the folders. -/
theorem Consistent.purge_eq {library : Library} (h : library.Consistent) (disk : Disk)
    (folders : List FilePath) :
    library.purge disk folders =
      (library.wallpapers.filter (isLost disk folders),
        library.withoutWhere (isLost disk folders)) :=
  h.removeAll_filter (isLost disk folders)

/-- The record's name is not that of an image. -/
def isMisnamed (w : Wallpaper) : Bool :=
  !(FilePath.mk w.name).isImage

/-- Sanitizing removes the records whose names are not those of images. -/
theorem Consistent.sanitize_eq {library : Library} (h : library.Consistent) :
    library.sanitize = (library.wallpapers.filter isMisnamed, library.withoutWhere isMisnamed) :=
  h.removeAll_filter isMisnamed

end Library

end WallpaperRotation
