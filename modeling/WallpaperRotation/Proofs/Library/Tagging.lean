/-
# Tags after tagging

Names of tags are distinct, so at most one tag has a name, and tagging or untagging a wallpaper
changes that one.  Both leave a consistent library.
-/
import WallpaperRotation.Proofs.Library.Removal

namespace WallpaperRotation.Library

open IdSet (mem_insertInto)

/-! ## The tag with a name -/

/-- Changing the first tag with a name is changing all of them, as the names ascend. -/
theorem updateFirst_eq_map {tags : List Tag} (h : tags.Pairwise fun a b => a.name < b.name)
    (name : String) (change : Tag → Tag) :
    updateFirst (fun tag => tag.name = name) change tags =
      tags.map fun tag => if tag.name = name then change tag else tag := by
  induction tags with
  | nil => rfl
  | cons tag rest ih =>
    rw [List.pairwise_cons] at h
    unfold updateFirst
    by_cases hname : tag.name = name
    · have hrest : (rest.map fun tag => if tag.name = name then change tag else tag) = rest := by
        refine (List.map_congr_left fun other hother => ?_).trans (List.map_id rest)
        have hlt := h.1 other hother
        rw [if_neg fun hother => String.lt_irrefl name (by rwa [hname, hother] at hlt)]
        rfl
      rw [List.map_cons, hrest, if_pos hname, if_pos (by simpa using hname)]
    · rw [List.map_cons, if_neg hname, if_neg (by simpa using hname), ih h.2]

/-- Changing the sets of tags keeps the order of the tags. -/
theorem pairwise_name_map {tags : List Tag} (h : tags.Pairwise fun a b => a.name < b.name)
    {change : Tag → Tag} (hname : ∀ tag, (change tag).name = tag.name) :
    (tags.map change).Pairwise fun a b => a.name < b.name := by
  rw [List.pairwise_map]
  exact h.imp fun hlt => by rw [hname, hname]; exact hlt

/-- Tags with distinct names have ascending names when they are sorted. -/
theorem pairwise_name_sortTags {tags : List Tag} (h : (tags.map Tag.name).Nodup) :
    (sortTags tags).Pairwise fun a b => a.name < b.name := by
  have hle : (sortTags tags).Pairwise fun a b => decide (a.name ≤ b.name) = true :=
    List.pairwise_mergeSort
      (fun a b c hab hbc => by
        rw [decide_eq_true_eq] at hab hbc ⊢
        exact String.le_trans hab hbc)
      (fun a b => by simpa using String.le_total a.name b.name) tags
  have hne : (sortTags tags).Pairwise fun a b => a.name ≠ b.name := by
    rw [← List.pairwise_map (f := Tag.name) (R := (· ≠ ·))]
    exact ((List.mergeSort_perm tags _).map Tag.name).nodup_iff.2 h
  exact (hle.and hne).imp fun ⟨hle, hne⟩ => Std.lt_of_le_of_ne (of_decide_eq_true hle) hne

/-! ## Tagging -/

/-- The tags of a library where one identifier of the library was put under a name. -/
def tagWith (id name : String) (tags : List Tag) : List Tag :=
  match tags.find? fun tag => tag.name = name with
  | some _ =>
    tags.map fun tag => if tag.name = name then { tag with ids := tag.ids.insert id } else tag
  | none => sortTags (tags ++ [⟨name, IdSet.empty.insert id⟩])

/-- Tagging succeeds for a name that is not blank and an identifier of the library. -/
theorem Consistent.addTag_eq {library : Library} (h : library.Consistent) (id name : String) :
    library.addTag id name =
      if normalizeTag name = "" then .error .emptyTag
      else if id ∈ library.ids then
        .ok { library with tags := tagWith id (normalizeTag name) library.tags }
      else .error (.notFound id) := by
  unfold addTag tagWith
  by_cases hname : normalizeTag name = ""
  · simp only [hname, if_true]
  · by_cases hid : id ∈ library.ids
    · have hheld : (library.get? id).isNone = false := by
        rw [Option.isNone_eq_false_iff, isSome_get?_iff]
        exact hid
      simp only [if_neg hname, hheld, if_pos hid, updateFirst_eq_map h.namesAscending,
        Bool.false_eq_true, if_false]
      cases library.tags.find? fun tag => tag.name = normalizeTag name <;> rfl
    · simp only [if_neg hname, if_neg hid, get?_eq_none_iff.2 hid, Option.isNone_none, if_true]

/-- A tag after an identifier was put under a name is an old one or the tag with this name, which
holds the identifier and what it held before. -/
theorem of_mem_tagWith {id name : String} {tags : List Tag} {tag : Tag}
    (h : tag ∈ tagWith id name tags) :
    tag ∈ tags ∨ tag.name = name ∧ id ∈ tag.ids.ids ∧
      ∀ other ∈ tag.ids.ids, other = id ∨ ∃ old ∈ tags, old.name = name ∧ other ∈ old.ids.ids := by
  unfold tagWith at h
  cases hfind : tags.find? fun tag => tag.name = name with
  | some first =>
    simp only [hfind] at h
    obtain ⟨old, hold, rfl⟩ := List.mem_map.1 h
    by_cases hname : old.name = name
    · rw [if_pos hname]
      refine Or.inr ⟨hname, mem_insertInto.2 (Or.inl rfl), fun other hother => ?_⟩
      exact (mem_insertInto.1 hother).imp_right fun hheld => ⟨old, hold, hname, hheld⟩
    · rw [if_neg hname]
      exact Or.inl hold
  | none =>
    simp only [hfind, sortTags, List.mem_mergeSort, List.mem_append, List.mem_singleton] at h
    rcases h with h | rfl
    · exact Or.inl h
    · refine Or.inr ⟨rfl, mem_insertInto.2 (Or.inl rfl), fun other hother => ?_⟩
      exact (mem_insertInto.1 hother).imp_right fun hheld => absurd hheld List.not_mem_nil

/-- The names of the tags ascend after an identifier was put under a name. -/
theorem pairwise_name_tagWith {tags : List Tag} (h : tags.Pairwise fun a b => a.name < b.name)
    (id name : String) : (tagWith id name tags).Pairwise fun a b => a.name < b.name := by
  unfold tagWith
  cases hfind : tags.find? fun tag => tag.name = name with
  | some first =>
    refine pairwise_name_map h fun tag => ?_
    by_cases hname : tag.name = name
    · rw [if_pos hname]
    · rw [if_neg hname]
  | none =>
    refine pairwise_name_sortTags ?_
    have hnodup : (tags.map Tag.name).Nodup := by
      rw [List.Nodup, List.pairwise_map]
      refine h.imp fun hlt => ?_
      intro heq
      rw [heq] at hlt
      exact String.lt_irrefl _ hlt
    rw [List.map_append, List.nodup_append]
    refine ⟨hnodup, List.nodup_singleton name, fun label hlabel other hother heq => ?_⟩
    obtain ⟨tag, htag, rfl⟩ := List.mem_map.1 hlabel
    rw [List.map_singleton, List.mem_singleton] at hother
    simpa [heq.trans hother] using List.find?_eq_none.1 hfind tag htag

/-- Tagging leaves a consistent library. -/
theorem Consistent.addTag {library tagged : Library} (h : library.Consistent) {id name : String}
    (hadd : library.addTag id name = .ok tagged) : tagged.Consistent := by
  rw [h.addTag_eq] at hadd
  by_cases hname : normalizeTag name = ""
  · rw [if_pos hname] at hadd
    cases hadd
  rw [if_neg hname] at hadd
  by_cases hid : id ∈ library.ids
  · rw [if_pos hid] at hadd
    obtain rfl := Except.ok.inj hadd
    refine ⟨h.idsDistinct, h.pathsDistinct, h.ordered, ?_, ?_, ?_,
      pairwise_name_tagWith h.namesAscending id _⟩
    · intro tag htag other hother
      rcases of_mem_tagWith htag with hold | ⟨-, -, hheld⟩
      · exact h.tagsLive tag hold other hother
      · rcases hheld other hother with rfl | ⟨old, hold, -, hold'⟩
        · exact hid
        · exact h.tagsLive old hold other hold'
    · intro tag htag
      rcases of_mem_tagWith htag with hold | ⟨-, hheld, -⟩
      · exact h.tagsFilled tag hold
      · exact List.ne_nil_of_mem hheld
    · intro tag htag
      rcases of_mem_tagWith htag with hold | ⟨heq, -, -⟩
      · exact h.namesNormal tag hold
      · rw [heq]
        exact ⟨hname, name, rfl⟩
  · rw [if_neg hid] at hadd
    cases hadd

/-! ## Untagging -/

/-- The tags without an identifier under a name; a tag that held no other is gone. -/
def tagWithout (id name : String) (tags : List Tag) : List Tag :=
  (tags.map fun tag => if tag.name = name then { tag with ids := tag.ids.erase id } else tag).filter
    fun tag => !tag.ids.isEmpty

/-- Untagging takes the identifier out of the tag with the name. -/
theorem Consistent.removeTag_snd {library : Library} (h : library.Consistent) (id name : String) :
    (library.removeTag id name).2 =
      { library with tags := tagWithout id (normalizeTag name) library.tags } := by
  unfold removeTag tagWithout
  rw [← updateFirst_eq_map h.namesAscending]

/-- A tag after an identifier was taken out under a name was a tag with the same name, which held
no less. -/
theorem of_mem_tagWithout {id name : String} {tags : List Tag} {tag : Tag}
    (h : tag ∈ tagWithout id name tags) :
    tag.ids.ids ≠ [] ∧ ∃ old ∈ tags, tag.name = old.name ∧
      ∀ other ∈ tag.ids.ids, other ∈ old.ids.ids := by
  unfold tagWithout at h
  obtain ⟨h, hfilled⟩ := List.mem_filter.1 h
  obtain ⟨old, hold, rfl⟩ := List.mem_map.1 h
  refine ⟨by simpa [IdSet.isEmpty] using hfilled, old, hold, ?_⟩
  by_cases hname : old.name = name
  · rw [if_pos hname]
    exact ⟨rfl, fun other hother => (List.mem_filter.1 hother).1⟩
  · rw [if_neg hname]
    exact ⟨rfl, fun other hother => hother⟩

/-- Untagging leaves a consistent library. -/
theorem Consistent.removeTag {library : Library} (h : library.Consistent) (id name : String) :
    (library.removeTag id name).2.Consistent := by
  rw [h.removeTag_snd]
  refine ⟨h.idsDistinct, h.pathsDistinct, h.ordered, ?_, ?_, ?_, ?_⟩
  · intro tag htag other hother
    obtain ⟨-, old, hold, -, hsub⟩ := of_mem_tagWithout htag
    exact h.tagsLive old hold other (hsub other hother)
  · intro tag htag
    exact (of_mem_tagWithout htag).1
  · intro tag htag
    obtain ⟨-, old, hold, heq, -⟩ := of_mem_tagWithout htag
    rw [heq]
    exact h.namesNormal old hold
  · refine List.Pairwise.filter _ (pairwise_name_map h.namesAscending fun tag => ?_)
    by_cases hname : tag.name = normalizeTag name
    · rw [if_pos hname]
    · rw [if_neg hname]

end WallpaperRotation.Library
