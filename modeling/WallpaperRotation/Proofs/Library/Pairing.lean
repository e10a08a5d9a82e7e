/-
# Tags as pairs

All that the tags of a library say is which identifiers stand under which names.  Tagging adds one
pair, untagging takes one away, and an identifier that goes out of the library takes all of its
pairs along; nothing else changes a pair.  So the pairs can be followed over a run of operations by
the identifiers of the library alone, and every view of the tags tells what the pairs are.
-/
import WallpaperRotation.Proofs.Library.Found
import WallpaperRotation.Proofs.Library.Run

namespace WallpaperRotation

open Library

/-! ## Following the pairs -/

/-- Which identifiers stand under which names. -/
abbrev Pairing := String → String → Prop

namespace Pairing

/-- No identifier stands under a name. -/
def blank : Pairing := fun _ _ => False

/-- The pairs with one more. -/
def add (pairs : Pairing) (id name : String) : Pairing :=
  fun other label => pairs other label ∨ other = id ∧ label = name

/-- The pairs but one. -/
def delete (pairs : Pairing) (id name : String) : Pairing :=
  fun other label => pairs other label ∧ ¬(other = id ∧ label = name)

/-- The pairs but those of identifiers that went out of the library. -/
def follow (pairs : Pairing) (before after : Library) : Pairing :=
  fun id name => pairs id name ∧ ¬(id ∈ before.ids ∧ id ∉ after.ids)

/-- The pairs after records were put in, one after the other. -/
def afterInserts (pairs : Pairing) (library : Library) (policy : Policy) :
    List Wallpaper → Pairing
  | [] => pairs
  | w :: records =>
    (pairs.follow library (library.apply (.insert w policy))).afterInserts
      (library.apply (.insert w policy)) policy records

/-- The pairs after an operation.  A scan puts records in, one after the other, before it drops the
lost ones, so an identifier may go out of the library and come back without its pairs. -/
def after (pairs : Pairing) (library : Library) : Operation → Pairing
  | .addTag id text =>
    match library.addTag id text with
    | .ok _ => pairs.add id (normalizeTag text)
    | .error _ => pairs
  | .removeTag id text => pairs.delete id (normalizeTag text)
  | .scan disk folders recursive policy =>
    (pairs.afterInserts library policy (disk.recordsFound recursive folders)).follow
      (library.insertEach policy (disk.recordsFound recursive folders))
      (library.apply (.scan disk folders recursive policy))
  | operation => pairs.follow library (library.apply operation)

/-- The pairs after operations, one after the other. -/
def afterRun (pairs : Pairing) (library : Library) : List Operation → Pairing
  | [] => pairs
  | operation :: operations =>
    (pairs.after library operation).afterRun (library.apply operation) operations

/-- Where the library stays as it is, so do the pairs. -/
theorem follow_self (pairs : Pairing) (library : Library) :
    pairs.follow library library = pairs := by
  funext id name
  exact propext (and_iff_left fun ⟨hin, hout⟩ => hout hin)

end Pairing

namespace Library

/-! ## The pairs in tags -/

/-- What some tags say. -/
def pairsIn (tags : List Tag) : Pairing :=
  fun id name => ∃ tag ∈ tags, tag.name = name ∧ id ∈ tag.ids.ids

/-- The pairs in tags whose sets were changed, those without members being dropped. -/
theorem pairsIn_filter_map {change : Tag → Tag} (hname : ∀ tag, (change tag).name = tag.name)
    {tags : List Tag} {id name : String} :
    pairsIn ((tags.map change).filter fun tag => !tag.ids.isEmpty) id name ↔
      ∃ tag ∈ tags, tag.name = name ∧ id ∈ (change tag).ids.ids := by
  constructor
  · rintro ⟨tag, htag, hlabel, hid⟩
    obtain ⟨old, hold, rfl⟩ := List.mem_map.1 (List.mem_filter.1 htag).1
    exact ⟨old, hold, (hname old).symm.trans hlabel, hid⟩
  · rintro ⟨old, hold, hlabel, hid⟩
    have hfilled : (change old).ids.isEmpty = false :=
      List.isEmpty_eq_false_iff.2 (List.ne_nil_of_mem hid)
    refine ⟨change old, List.mem_filter.2 ⟨List.mem_map_of_mem hold, ?_⟩,
      (hname old).trans hlabel, hid⟩
    rw [hfilled]
    rfl

/-- Taking identifiers out of the tags takes away their pairs. -/
theorem pairsIn_untagAll {gone : List String} {tags : List Tag} {id name : String} :
    pairsIn (untagAll gone tags) id name ↔ pairsIn tags id name ∧ id ∉ gone := by
  have hname (tag : Tag) : ({ tag with ids := tag.ids.without gone } : Tag).name = tag.name := rfl
  unfold untagAll
  rw [pairsIn_filter_map hname]
  simp only [IdSet.mem_without]
  constructor
  · rintro ⟨tag, htag, hlabel, hid, hgone⟩
    exact ⟨⟨tag, htag, hlabel, hid⟩, hgone⟩
  · rintro ⟨⟨tag, htag, hlabel, hid⟩, hgone⟩
    exact ⟨tag, htag, hlabel, hid, hgone⟩

/-- Taking an identifier out of the tag with a name takes away one pair. -/
theorem pairsIn_tagWithout (id name : String) (tags : List Tag) :
    pairsIn (tagWithout id name tags) = (pairsIn tags).delete id name := by
  have hkeep (tag : Tag) :
      (if tag.name = name then { tag with ids := tag.ids.erase id } else tag).name = tag.name := by
    by_cases hname : tag.name = name
    · rw [if_pos hname]
    · rw [if_neg hname]
  funext other label
  unfold tagWithout
  refine propext ((pairsIn_filter_map hkeep).trans ⟨?_, ?_⟩)
  · rintro ⟨tag, htag, rfl, hother⟩
    by_cases hname : tag.name = name
    · rw [if_pos hname] at hother
      obtain ⟨hheld, hne⟩ := List.mem_filter.1 hother
      exact ⟨⟨tag, htag, rfl, hheld⟩, fun ⟨heq, _⟩ => of_decide_eq_true hne heq⟩
    · rw [if_neg hname] at hother
      exact ⟨⟨tag, htag, rfl, hother⟩, fun ⟨_, heq⟩ => hname heq⟩
  · rintro ⟨⟨tag, htag, rfl, hother⟩, hne⟩
    refine ⟨tag, htag, rfl, ?_⟩
    by_cases hname : tag.name = name
    · rw [if_pos hname]
      exact List.mem_filter.2 ⟨hother, decide_eq_true fun heq => hne ⟨heq, hname⟩⟩
    · rw [if_neg hname]
      exact hother

/-- Putting an identifier under a name adds one pair. -/
theorem pairsIn_tagWith (id name : String) (tags : List Tag) :
    pairsIn (tagWith id name tags) = (pairsIn tags).add id name := by
  funext other label
  refine propext ⟨?_, ?_⟩
  · rintro ⟨tag, htag, rfl, hother⟩
    rcases of_mem_tagWith htag with hold | ⟨hname, -, hheld⟩
    · exact Or.inl ⟨tag, hold, rfl, hother⟩
    · rcases hheld other hother with rfl | ⟨old, hold, holdName, hold'⟩
      · exact Or.inr ⟨rfl, hname⟩
      · exact Or.inl ⟨old, hold, holdName.trans hname.symm, hold'⟩
  · unfold tagWith
    cases hfind : tags.find? fun tag => tag.name = name with
    | some first =>
      have hfirst : first ∈ tags := List.mem_of_find?_eq_some hfind
      have hfirstName : first.name = name := by simpa using List.find?_some hfind
      rintro (⟨tag, htag, rfl, hother⟩ | ⟨rfl, rfl⟩)
      · refine ⟨_, List.mem_map_of_mem htag, ?_⟩
        by_cases hname : tag.name = name
        · rw [if_pos hname]
          exact ⟨rfl, IdSet.mem_insertInto.2 (Or.inr hother)⟩
        · rw [if_neg hname]
          exact ⟨rfl, hother⟩
      · refine ⟨_, List.mem_map_of_mem hfirst, ?_⟩
        rw [if_pos hfirstName]
        exact ⟨hfirstName, IdSet.mem_insertInto.2 (Or.inl rfl)⟩
    | none =>
      simp only [sortTags]
      rintro (⟨tag, htag, hlabel, hother⟩ | ⟨rfl, rfl⟩)
      · exact ⟨tag, List.mem_mergeSort.2 (List.mem_append_left _ htag), hlabel, hother⟩
      · exact ⟨_, List.mem_mergeSort.2 (List.mem_append_right _ List.mem_cons_self), rfl,
          IdSet.mem_insertInto.2 (Or.inl rfl)⟩

/-! ## One operation -/

section Step

variable {library : Library}

/-- Only identifiers of a consistent library stand under names. -/
theorem Consistent.mem_ids_of_pairsIn (h : library.Consistent) {id name : String}
    (hpair : pairsIn library.tags id name) : id ∈ library.ids := by
  obtain ⟨tag, htag, -, hid⟩ := hpair
  exact h.tagsLive tag htag id hid

/-- Where exactly some identifiers were taken out of the tags and went out of the library, the pairs
are those that follow. -/
theorem Consistent.pairsIn_eq_follow (h : library.Consistent) {next : Library}
    {gone : List String} (htags : next.tags = untagAll gone library.tags)
    (hgone : ∀ id ∈ library.ids, id ∈ gone ↔ id ∉ next.ids) :
    pairsIn next.tags = (pairsIn library.tags).follow library next := by
  funext id name
  rw [htags]
  refine propext (pairsIn_untagAll.trans (and_congr_right fun hpair => ?_))
  have hid := h.mem_ids_of_pairsIn hpair
  rw [hgone id hid, not_not, not_and, not_not]
  exact ⟨fun hnext _ => hnext, fun hnext => hnext hid⟩

/-- Identifiers that are removed take their pairs along. -/
theorem Consistent.pairsIn_without (h : library.Consistent) (gone : List String) :
    pairsIn (library.without gone).tags =
      (pairsIn library.tags).follow library (library.without gone) := by
  refine h.pairsIn_eq_follow rfl fun id hid => ?_
  rw [mem_ids_without, not_and, not_not]
  exact ⟨fun hgone _ => hgone, fun hgone => hgone hid⟩

/-- A record that is put in leaves the pairs of its identifier, also where it takes the stead of
another one; the stale records of its file take theirs along. -/
theorem Consistent.pairsIn_put (h : library.Consistent) (w : Wallpaper) :
    pairsIn (library.put w).tags = (pairsIn library.tags).follow library (library.put w) :=
  h.pairsIn_eq_follow (h.tags_put_eq w) fun _ hid => h.mem_stale_iff w hid

/-- After an insert the pairs are those that follow. -/
theorem Consistent.pairsIn_apply_insert (h : library.Consistent) (w : Wallpaper)
    (policy : Policy) :
    pairsIn (library.apply (.insert w policy)).tags =
      (pairsIn library.tags).follow library (library.apply (.insert w policy)) := by
  cases hslot : library.slot? w policy with
  | none => rw [apply_insert_of_slot?_eq_none hslot, Pairing.follow_self]
  | some id =>
    rw [h.apply_insert_of_slot hslot]
    exact h.pairsIn_put _

/-- After inserts the pairs are those that follow. -/
theorem Consistent.pairsIn_insertEach (h : library.Consistent) (policy : Policy)
    (records : List Wallpaper) :
    pairsIn (library.insertEach policy records).tags =
      (pairsIn library.tags).afterInserts library policy records := by
  induction records generalizing library with
  | nil => rfl
  | cons w records ih =>
    rw [Pairing.afterInserts, ← h.pairsIn_apply_insert]
    exact ih (h.apply_insert w policy)

/-- A removal that may find nothing takes the pairs of what it removes along. -/
theorem Consistent.pairsIn_remove? (h : library.Consistent) (id : String) :
    pairsIn ((library.remove? id).map Prod.snd |>.getD library).tags =
      (pairsIn library.tags).follow library
        ((library.remove? id).map Prod.snd |>.getD library) := by
  by_cases hid : id ∈ library.ids
  · obtain ⟨w, hw, rfl⟩ := mem_ids.1 hid
    rw [h.remove?_eq_some hw]
    exact h.pairsIn_without _
  · rw [remove?_eq_none hid]
    exact (Pairing.follow_self _ library).symm

/-- After each operation the tags say what the pairs are. -/
theorem Consistent.pairsIn_apply (h : library.Consistent) (operation : Operation) :
    pairsIn (library.apply operation).tags = (pairsIn library.tags).after library operation := by
  cases operation with
  | insert w policy => exact h.pairsIn_apply_insert w policy
  | remove id => exact h.pairsIn_remove? id
  | removeByPath path =>
    simp only [Pairing.after, Library.apply, removeByPath?]
    cases library.byPath? path with
    | none => exact (Pairing.follow_self _ library).symm
    | some w => exact h.pairsIn_remove? w.id
  | purge disk folders =>
    simp only [Pairing.after, Library.apply, h.purge_eq]
    exact h.pairsIn_without _
  | sanitize =>
    simp only [Pairing.after, Library.apply, h.sanitize_eq]
    exact h.pairsIn_without _
  | addTag id text =>
    simp only [Pairing.after, Library.apply, h.addTag_eq]
    split_ifs with hblank hid
    · rfl
    · exact pairsIn_tagWith id (normalizeTag text) library.tags
    · rfl
  | removeTag id text =>
    simp only [Pairing.after, Library.apply, h.removeTag_snd]
    exact pairsIn_tagWithout id (normalizeTag text) library.tags
  | scan disk folders recursive policy =>
    rw [Pairing.after, ← h.pairsIn_insertEach]
    cases hfound : disk.foundInAll recursive folders with
    | error failure =>
      -- A scan that fails reads nothing and leaves the library.
      have hnone : disk.recordsFound recursive folders = [] := by rw [Disk.recordsFound, hfound]
      have hleft : library.apply (.scan disk folders recursive policy) = library := by
        simp only [Library.apply, Library.scan, hfound]
        rfl
      rw [hnone, hleft]
      exact (Pairing.follow_self _ library).symm
    | ok files =>
      have hrecords := Disk.recordsFound_eq_scanOrder hfound
      have hinserted := h.insertEach policy (scanOrder (disk.records files))
      rw [apply_scan hfound, hrecords, hinserted.purge_eq]
      exact hinserted.pairsIn_without _
  | reopen disk path =>
    simp only [Pairing.after, h.apply_reopen]
    exact (Pairing.follow_self _ library).symm

/-- After a run the tags say what the pairs are. -/
theorem Consistent.pairsIn_run (h : library.Consistent) (operations : List Operation) :
    pairsIn (library.run operations).tags =
      (pairsIn library.tags).afterRun library operations := by
  induction operations generalizing library with
  | nil => rfl
  | cons operation operations ih =>
    rw [Pairing.afterRun, ← h.pairsIn_apply]
    exact ih (h.apply operation)

end Step

/-! ## Views -/

/-- Every view of the tags of a library tells some pairs. -/
structure Shows (library : Library) (pairs : Pairing) : Prop where
  /-- There is a tag for exactly the names under which something stands. -/
  isSome_tag? : ∀ text, (library.tag? text).isSome = true ↔ ∃ id, pairs id (normalizeTag text)
  /-- A tag holds exactly the identifiers that stand under its name. -/
  contains : ∀ text tag, library.tag? text = some tag →
    ∀ id, tag.ids.contains id = true ↔ pairs id (normalizeTag text)
  /-- The names of an identifier ascend. -/
  tagsOf_ascending : ∀ id, (library.tagsOf id).Pairwise (· < ·)
  /-- The names of an identifier are those under which it stands. -/
  mem_tagsOf : ∀ id name, name ∈ library.tagsOf id ↔ pairs id name
  /-- Tagging succeeds for names that are not blank and identifiers of records. -/
  addTag : ∀ id text, (∃ tagged, library.addTag id text = .ok tagged) ↔
    normalizeTag text ≠ "" ∧ id ∈ library.ids
  /-- Untagging tells whether the pair was there. -/
  removeTag : ∀ id text, (library.removeTag id text).1 = true ↔ pairs id (normalizeTag text)
  /-- The records of a tag are in the order of the library. -/
  withIds_sublist : ∀ text tag, library.tag? text = some tag →
    (library.withIds tag.ids).Sublist library.wallpapers
  /-- The records of a tag are those whose identifiers stand under its name. -/
  mem_withIds : ∀ text tag, library.tag? text = some tag →
    ∀ w, w ∈ library.withIds tag.ids ↔ w ∈ library.wallpapers ∧ pairs w.id (normalizeTag text)
  /-- Each identifier of a tag has its record. -/
  exists_withIds : ∀ text tag, library.tag? text = some tag →
    ∀ id, pairs id (normalizeTag text) → ∃ w ∈ library.withIds tag.ids, w.id = id
  /-- A tag has records. -/
  withIds_ne_nil : ∀ text tag, library.tag? text = some tag → library.withIds tag.ids ≠ []

section Views

variable {library : Library}

/-- Tags of a consistent library with one name are one tag. -/
theorem Consistent.eq_of_name_eq (h : library.Consistent) {tag other : Tag}
    (htag : tag ∈ library.tags) (hother : other ∈ library.tags) (hname : tag.name = other.name) :
    tag = other := by
  have hnodup : (library.tags.map Tag.name).Nodup := by
    rw [List.Nodup, List.pairwise_map]
    refine h.namesAscending.imp fun hlt heq => ?_
    rw [heq] at hlt
    exact String.lt_irrefl _ hlt
  exact List.inj_on_of_nodup_map hnodup htag hother hname

/-- The tag that is found is the one with the name in its normal form. -/
theorem Consistent.tag?_eq_some_iff (h : library.Consistent) {text : String} {tag : Tag} :
    library.tag? text = some tag ↔ tag ∈ library.tags ∧ tag.name = normalizeTag text := by
  constructor
  · intro hfind
    exact ⟨List.mem_of_find?_eq_some hfind, by simpa using List.find?_some hfind⟩
  · rintro ⟨htag, hname⟩
    cases hfind : library.tag? text with
    | none =>
      have hnone := List.find?_eq_none.1 hfind tag htag
      simp [hname] at hnone
    | some other =>
      have hother : other.name = normalizeTag text := by simpa using List.find?_some hfind
      rw [h.eq_of_name_eq (List.mem_of_find?_eq_some hfind) htag (hother.trans hname.symm)]

/-- A tag that is found holds the identifiers that stand under its name. -/
theorem Consistent.contains_iff_pairsIn (h : library.Consistent) {text : String} {tag : Tag}
    (htag : library.tag? text = some tag) (id : String) :
    tag.ids.contains id = true ↔ pairsIn library.tags id (normalizeTag text) := by
  obtain ⟨hmem, hname⟩ := h.tag?_eq_some_iff.1 htag
  rw [IdSet.contains, List.contains_iff_mem]
  constructor
  · intro hid
    exact ⟨tag, hmem, hname, hid⟩
  · rintro ⟨other, hother, hotherName, hid⟩
    rw [h.eq_of_name_eq hmem hother (hname.trans hotherName.symm)]
    exact hid

/-- Where something stands under a name, its tag is found. -/
theorem Consistent.exists_tag?_of_pairsIn (h : library.Consistent) {id text : String}
    (hpair : pairsIn library.tags id (normalizeTag text)) :
    ∃ tag, library.tag? text = some tag := by
  obtain ⟨tag, htag, hname, -⟩ := hpair
  exact ⟨tag, h.tag?_eq_some_iff.2 ⟨htag, hname⟩⟩

/-- The records of a tag are those whose identifiers it holds. -/
theorem mem_withIds {ids : IdSet} {w : Wallpaper} :
    w ∈ library.withIds ids ↔ w ∈ library.wallpapers ∧ ids.contains w.id = true :=
  List.mem_filter

/-- The views of the tags of a consistent library tell the pairs in the tags. -/
theorem Consistent.shows (h : library.Consistent) : library.Shows (pairsIn library.tags) := by
  have hrecord {text : String} {tag : Tag} (htag : library.tag? text = some tag) {id : String}
      (hid : tag.ids.contains id = true) : ∃ w ∈ library.withIds tag.ids, w.id = id := by
    obtain ⟨w, hw, rfl⟩ :=
      mem_ids.1 (h.mem_ids_of_pairsIn ((h.contains_iff_pairsIn htag id).1 hid))
    exact ⟨w, mem_withIds.2 ⟨hw, hid⟩, rfl⟩
  have hfilled {text : String} {tag : Tag} (htag : library.tag? text = some tag) :
      ∃ id, tag.ids.contains id = true := by
    obtain ⟨id, hid⟩ := List.exists_mem_of_ne_nil _
      (h.tagsFilled tag (h.tag?_eq_some_iff.1 htag).1)
    exact ⟨id, List.contains_iff_mem.2 hid⟩
  refine
    { isSome_tag? := fun text => ⟨fun hsome => ?_, fun ⟨id, hpair⟩ => ?_⟩
      contains := fun text tag htag id => h.contains_iff_pairsIn htag id
      tagsOf_ascending := fun id => List.pairwise_map.2 (h.namesAscending.filter _)
      mem_tagsOf := fun id name => ?_
      addTag := fun id text => ?_
      removeTag := fun id text => ?_
      withIds_sublist := fun text tag htag => List.filter_sublist
      mem_withIds := fun text tag htag w => by rw [mem_withIds, h.contains_iff_pairsIn htag]
      exists_withIds := fun text tag htag id hpair =>
        hrecord htag ((h.contains_iff_pairsIn htag id).2 hpair)
      withIds_ne_nil := fun text tag htag => ?_ }
  · obtain ⟨tag, htag⟩ := Option.isSome_iff_exists.1 hsome
    obtain ⟨id, hid⟩ := hfilled htag
    exact ⟨id, (h.contains_iff_pairsIn htag id).1 hid⟩
  · exact Option.isSome_iff_exists.2 (h.exists_tag?_of_pairsIn hpair)
  · simp only [tagsOf, List.mem_map, List.mem_filter, IdSet.contains, List.contains_iff_mem,
      pairsIn, and_assoc, and_comm (a := id ∈ _)]
  · rw [h.addTag_eq]
    split_ifs with hblank hid
    · simp [hblank]
    · simp [hblank, hid]
    · simp [hid]
  · change (library.tag? text).any _ = true ↔ _
    rw [Option.any_eq_true]
    constructor
    · rintro ⟨tag, htag, hid⟩
      exact (h.contains_iff_pairsIn htag id).1 hid
    · intro hpair
      obtain ⟨tag, htag⟩ := h.exists_tag?_of_pairsIn hpair
      exact ⟨tag, htag, (h.contains_iff_pairsIn htag id).2 hpair⟩
  · obtain ⟨id, hid⟩ := hfilled htag
    obtain ⟨w, hw, -⟩ := hrecord htag hid
    exact List.ne_nil_of_mem hw

end Views

/-- After every run from the empty library the tags show the pairs that its operations made. -/
theorem shows_run_empty (operations : List Operation) :
    (empty.run operations).Shows (Pairing.blank.afterRun empty operations) := by
  have hblank : pairsIn empty.tags = Pairing.blank := by
    funext id name
    simp [pairsIn, empty, Pairing.blank]
  rw [← hblank, ← consistent_empty.pairsIn_run]
  exact (consistent_empty.run operations).shows

end Library

end WallpaperRotation
