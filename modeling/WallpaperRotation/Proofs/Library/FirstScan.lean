/-
# A first scan

A scan into the empty library meets the copies of each image in the order of their paths.  It keeps
the first of them, the last of them or, as numbered versions, all of them, as the policy says, and
counts one image added for each digest and the other copies as the policy treats them.  Each copy
then meets what it met before, so the next scan changes nothing.
-/
import Mathlib.Data.List.Dedup
import WallpaperRotation.Proofs.Library.Canonical
import WallpaperRotation.Proofs.Library.Insertion
import WallpaperRotation.Proofs.Library.LastFolder
import WallpaperRotation.Proofs.Library.Standing

namespace WallpaperRotation

/-! ## Copies of one image -/

/-- What is kept of the copies of one image: the first one, the last one or all of them, the second
one as version 2, the third one as version 3 and so on. -/
def Policy.kept (policy : Policy) (copies : List Wallpaper) : List Wallpaper :=
  match policy with
  | .reject => copies.head?.toList
  | .replace => copies.getLast?.toList
  | .version => copies.mapIdx fun n w => { w with id := Library.candidateId w.id n }

/-- The identifier under which one more copy is kept beside or in the stead of the others. -/
def Policy.slotAfter (policy : Policy) (copies : List Wallpaper) (w : Wallpaper) : Option String :=
  match policy with
  | .reject => if copies = [] then some w.id else none
  | .replace => some w.id
  | .version => some (Library.candidateId w.id copies.length)

/-- The report with so many copies more of images that are there already. -/
def ScanReport.countCopies (report : ScanReport) (policy : Policy) (copies : Nat) : ScanReport :=
  match policy with
  | .reject => { report with rejected := report.rejected + copies }
  | .replace => { report with updated := report.updated + copies }
  | .version => { report with versioned := report.versioned + copies }

namespace Library

/-- The copies of one image among some records. -/
def copies (id : String) (records : List Wallpaper) : List Wallpaper :=
  records.filter fun w => w.id = id

/-- The images among some records, each one once. -/
def images (records : List Wallpaper) : List String :=
  (records.map Wallpaper.id).dedup

/-- The library with what a policy keeps of the copies of each image. -/
def keeping (policy : Policy) (records : List Wallpaper) : Library :=
  sorted ⟨(images records).flatMap fun id => policy.kept (copies id records), []⟩

section Kept

variable {policy : Policy} {records : List Wallpaper} {v w : Wallpaper} {id : String}

/-- The copies of an image have its identifier. -/
theorem mem_copies : w ∈ copies id records ↔ w ∈ records ∧ w.id = id := by
  simp [copies]

/-- There are copies of the images among some records, and of no others. -/
theorem mem_images : id ∈ images records ↔ ∃ w ∈ records, w.id = id := by
  rw [images, List.mem_dedup, List.mem_map]

/-- A record is one more copy of its image. -/
theorem copies_append_self (records : List Wallpaper) (w : Wallpaper) :
    copies w.id (records ++ [w]) = copies w.id records ++ [w] := by
  simp [copies]

/-- A record is no copy of other images. -/
theorem copies_append_of_ne (h : w.id ≠ id) : copies id (records ++ [w]) = copies id records := by
  simp [copies, h]

/-- What is kept of the copies of an image are these, under candidates for its identifier. -/
theorem of_mem_kept (h : v ∈ policy.kept (copies id records)) :
    ∃ w ∈ records, w.id = id ∧ ∃ n, n < (copies id records).length ∧
      v = { w with id := candidateId id n } := by
  have hown (hv : v ∈ copies id records) : ∃ w ∈ records, w.id = id ∧
      ∃ n, n < (copies id records).length ∧ v = { w with id := candidateId id n } := by
    obtain ⟨hmem, rfl⟩ := mem_copies.1 hv
    exact ⟨v, hmem, rfl, 0, List.length_pos_of_mem hv, rfl⟩
  cases policy with
  | reject => exact hown (List.mem_of_head? (Option.mem_toList.1 h))
  | replace => exact hown (List.mem_of_getLast? (Option.mem_toList.1 h))
  | version =>
    obtain ⟨n, hn, rfl⟩ := List.mem_mapIdx.1 h
    obtain ⟨hmem, hid⟩ := mem_copies.1 (List.getElem_mem hn)
    refine ⟨_, hmem, hid, n, hn, ?_⟩
    rw [hid]

/-- Where there are copies of an image, one is kept under the image's own identifier. -/
theorem exists_mem_kept (policy : Policy) (h : copies id records ≠ []) :
    ∃ v ∈ policy.kept (copies id records), v.id = id := by
  have hid {v : Wallpaper} (hv : v ∈ copies id records) : v.id = id := (mem_copies.1 hv).2
  cases policy with
  | reject =>
    have hmem := List.head_mem h
    exact ⟨_, Option.mem_toList.2 (List.head?_eq_some_head h), hid hmem⟩
  | replace =>
    have hmem := List.getLast_mem h
    exact ⟨_, Option.mem_toList.2 (List.getLast?_eq_getLast_of_ne_nil h), hid hmem⟩
  | version =>
    have hpos := List.length_pos_of_ne_nil h
    exact ⟨_, List.mem_mapIdx.2 ⟨0, hpos, rfl⟩, hid (List.getElem_mem hpos)⟩

/-- What is kept of the copies of an image and one more. -/
theorem mem_kept_append :
    v ∈ policy.kept (copies w.id records ++ [w]) ↔
      (∃ id, policy.slotAfter (copies w.id records) w = some id ∧ v = { w with id := id }) ∨
        v ∈ policy.kept (copies w.id records) ∧
          policy.slotAfter (copies w.id records) w ≠ some v.id := by
  cases policy with
  | reject =>
    cases hcopies : copies w.id records with
    | nil => simp [Policy.kept, Policy.slotAfter]
    | cons first rest => simp [Policy.kept, Policy.slotAfter]
  | replace =>
    have hnone (hv : v ∈ Policy.replace.kept (copies w.id records)) : v.id = w.id :=
      (mem_copies.1 (List.mem_of_getLast? (Option.mem_toList.1 hv))).2
    simp only [Policy.slotAfter, Policy.kept, List.getLast?_concat, Option.toList_some,
      List.mem_singleton, Option.some.injEq, exists_eq_left', ne_eq]
    constructor
    · exact Or.inl
    · rintro (hv | ⟨hv, hne⟩)
      · exact hv
      · exact absurd (hnone hv).symm hne
  | version =>
    have hne (hv : v ∈ Policy.version.kept (copies w.id records)) :
        Policy.version.slotAfter (copies w.id records) w ≠ some v.id := by
      obtain ⟨u, -, -, n, hn, rfl⟩ := of_mem_kept hv
      intro heq
      have hlength := candidateId_injective w.id (Option.some.inj heq)
      omega
    rw [and_iff_left_of_imp hne]
    simp [Policy.kept, Policy.slotAfter, List.mapIdx_append, or_comm]

end Kept

/-! ## Copies put in one after the other -/

/-- No identifier is a candidate of two images among the records. -/
def Apart (records : List Wallpaper) : Prop :=
  ∀ f ∈ records, ∀ g ∈ records, ∀ m n, candidateId f.id m = candidateId g.id n → f.id = g.id

/-- The library holds exactly what a policy keeps of the copies among some records. -/
structure HoldsKept (library : Library) (policy : Policy) (records : List Wallpaper) : Prop where
  mem_wallpapers : ∀ v, v ∈ library.wallpapers ↔ ∃ id, v ∈ policy.kept (copies id records)
  tags : library.tags = []

section Inserts

variable {library : Library} {policy : Policy} {records : List Wallpaper} {v w : Wallpaper}

/-- The empty library holds what is kept of no records. -/
theorem holdsKept_empty (policy : Policy) : empty.HoldsKept policy [] where
  mem_wallpapers v := by cases policy <;> simp [empty, copies, Policy.kept]
  tags := rfl

/-- A candidate for an image is held by what is kept of the copies of the image only. -/
theorem HoldsKept.mem_kept_of_candidateId (hholds : library.HoldsKept policy records)
    (hapart : Apart (records ++ [w])) (hv : v ∈ library.wallpapers) {n : Nat}
    (hid : v.id = candidateId w.id n) : v ∈ policy.kept (copies w.id records) := by
  obtain ⟨id, hkept⟩ := (hholds.mem_wallpapers v).1 hv
  obtain ⟨f, hf, rfl, m, -, hvf⟩ := of_mem_kept hkept
  rw [hvf] at hid
  have himage := hapart f (List.mem_append_left _ hf) w
    (List.mem_append_right _ List.mem_cons_self) m n hid
  rw [← himage]
  exact hkept

/-- Where copies are kept as versions, as many candidates for an image are held as it has copies. -/
theorem HoldsKept.candidateId_mem_ids (hholds : library.HoldsKept .version records) {id : String}
    {n : Nat} (hn : n < (copies id records).length) : candidateId id n ∈ library.ids := by
  have hid := (mem_copies.1 (List.getElem_mem hn)).2
  refine mem_ids.2 ⟨_, (hholds.mem_wallpapers _).2 ⟨id, List.mem_mapIdx.2 ⟨n, hn, rfl⟩⟩, ?_⟩
  simp only [hid]

/-- There is a copy under a candidate for an image exactly up to the number of its copies. -/
theorem HoldsKept.candidateId_mem_ids_iff (hholds : library.HoldsKept .version records)
    (hapart : Apart (records ++ [w])) {n : Nat} :
    candidateId w.id n ∈ library.ids ↔ n < (copies w.id records).length := by
  refine ⟨fun hheld => ?_, hholds.candidateId_mem_ids⟩
  obtain ⟨v, hv, hid⟩ := mem_ids.1 hheld
  obtain ⟨f, -, -, m, hm, rfl⟩ := of_mem_kept (hholds.mem_kept_of_candidateId hapart hv hid)
  rw [← candidateId_injective w.id hid]
  exact hm

/-- The own identifier of an image of which there are copies is held. -/
theorem HoldsKept.id_mem_ids (hholds : library.HoldsKept policy records) {id : String}
    (hcopies : copies id records ≠ []) : id ∈ library.ids := by
  obtain ⟨v, hv, hid⟩ := exists_mem_kept policy hcopies
  exact mem_ids.2 ⟨v, (hholds.mem_wallpapers v).2 ⟨id, hv⟩, hid⟩

/-- An image's own identifier is held exactly when there are copies of the image. -/
theorem HoldsKept.id_mem_ids_iff (hholds : library.HoldsKept policy records)
    (hapart : Apart (records ++ [w])) : w.id ∈ library.ids ↔ copies w.id records ≠ [] := by
  refine ⟨fun hheld => ?_, hholds.id_mem_ids⟩
  obtain ⟨v, hv, hid⟩ := mem_ids.1 hheld
  obtain ⟨f, hf, hfid, -⟩ := of_mem_kept (hholds.mem_kept_of_candidateId (n := 0) hapart hv hid)
  exact List.ne_nil_of_mem (mem_copies.2 ⟨hf, hfid⟩)

/-- A file that was not put in has a path that no record of the library has. -/
theorem HoldsKept.path_same_eq_false (hholds : library.HoldsKept policy records)
    (hnew : ∀ f ∈ records, f.path.same w.path = false) (hv : v ∈ library.wallpapers) :
    v.path.same w.path = false := by
  obtain ⟨id, hkept⟩ := (hholds.mem_wallpapers v).1 hv
  obtain ⟨f, hf, -, n, -, rfl⟩ := of_mem_kept hkept
  exact hnew f hf

/-- An identifier is open to a file that was not put in only when it is free. -/
theorem HoldsKept.isOpen_eq_false_iff (hholds : library.HoldsKept policy records)
    (h : library.Consistent) (hnew : ∀ f ∈ records, f.path.same w.path = false) {id : String} :
    library.isOpen w.path id = false ↔ id ∈ library.ids := by
  rw [Library.isOpen_eq_false_iff h.idsDistinct, mem_ids]
  refine exists_congr fun v => and_congr_right fun hv => and_iff_left ?_
  exact hholds.path_same_eq_false hnew hv

/-- The slot of one more copy depends on the copies before it only. -/
theorem HoldsKept.slot?_eq (hholds : library.HoldsKept policy records) (h : library.Consistent)
    (hapart : Apart (records ++ [w])) (hnew : ∀ f ∈ records, f.path.same w.path = false) :
    library.slot? w policy = policy.slotAfter (copies w.id records) w := by
  have hheld (id : String) : library.isOpen w.path id = false ↔ id ∈ library.ids :=
    hholds.isOpen_eq_false_iff h hnew
  cases policy with
  | reject =>
    by_cases hcopies : copies w.id records = []
    · have hopen : library.isOpen w.path w.id = true := by
        rw [← Bool.not_eq_false, hheld, hholds.id_mem_ids_iff hapart, not_not]
        exact hcopies
      rw [slot?_of_isOpen hopen, Policy.slotAfter, if_pos hcopies]
    · rw [slot?_of_not_isOpen ((hheld _).2 ((hholds.id_mem_ids_iff hapart).2 hcopies)),
        Policy.slotAfter, if_neg hcopies]
  | replace => exact slot?_replace library w
  | version =>
    refine slot?_version_eq_iff.2 ⟨?_, fun m hm => ?_⟩
    · rw [← Bool.not_eq_false, hheld, hholds.candidateId_mem_ids_iff hapart]
      exact Nat.lt_irrefl _
    · rw [hheld, hholds.candidateId_mem_ids_iff hapart]
      exact hm

/-- One more copy takes the stead of what has its slot. -/
theorem HoldsKept.mem_apply_insert (hholds : library.HoldsKept policy records)
    (h : library.Consistent) (hapart : Apart (records ++ [w]))
    (hnew : ∀ f ∈ records, f.path.same w.path = false) :
    v ∈ (library.apply (.insert w policy)).wallpapers ↔
      (∃ id, policy.slotAfter (copies w.id records) w = some id ∧ v = { w with id := id }) ∨
        v ∈ library.wallpapers ∧ policy.slotAfter (copies w.id records) w ≠ some v.id := by
  rw [← hholds.slot?_eq h hapart hnew]
  cases hslot : library.slot? w policy with
  | none =>
    rw [apply_insert_of_slot?_eq_none hslot]
    simp
  | some id =>
    rw [h.apply_insert_of_slot hslot, h.mem_put]
    simp only [Option.some.injEq, exists_eq_left', ne_eq]
    refine or_congr_right (and_congr_right fun hv => ?_)
    rw [and_iff_left (hholds.path_same_eq_false hnew hv), eq_comm]

/-- What is kept of some records and one more is held after that was put in. -/
theorem HoldsKept.apply_insert (hholds : library.HoldsKept policy records)
    (h : library.Consistent) (hapart : Apart (records ++ [w]))
    (hnew : ∀ f ∈ records, f.path.same w.path = false) :
    (library.apply (.insert w policy)).HoldsKept policy (records ++ [w]) := by
  refine ⟨fun v => ?_, ?_⟩
  · rw [hholds.mem_apply_insert h hapart hnew]
    constructor
    · rintro (hlast | ⟨hv, hne⟩)
      · refine ⟨w.id, ?_⟩
        rw [copies_append_self]
        exact mem_kept_append.2 (Or.inl hlast)
      · obtain ⟨id, hkept⟩ := (hholds.mem_wallpapers v).1 hv
        refine ⟨id, ?_⟩
        by_cases hid : w.id = id
        · subst hid
          rw [copies_append_self]
          exact mem_kept_append.2 (Or.inr ⟨hkept, hne⟩)
        · rw [copies_append_of_ne hid]
          exact hkept
    · rintro ⟨id, hkept⟩
      by_cases hid : w.id = id
      · subst hid
        rw [copies_append_self] at hkept
        refine (mem_kept_append.1 hkept).imp_right fun ⟨hold, hne⟩ => ⟨?_, hne⟩
        exact (hholds.mem_wallpapers v).2 ⟨w.id, hold⟩
      · -- A copy of another image is under a candidate for that image, so it stays.
        rw [copies_append_of_ne hid] at hkept
        refine Or.inr ⟨(hholds.mem_wallpapers v).2 ⟨id, hkept⟩, fun hslot => ?_⟩
        rw [← hholds.slot?_eq h hapart hnew] at hslot
        obtain ⟨n, hn, -⟩ := exists_candidateId_of_slot? hslot
        obtain ⟨f, hf, rfl, m, -, rfl⟩ := of_mem_kept hkept
        exact hid (hapart f (List.mem_append_left _ hf) w
          (List.mem_append_right _ List.mem_cons_self) m n hn).symm
  · cases hslot : library.slot? w policy with
    | none =>
      rw [apply_insert_of_slot?_eq_none hslot]
      exact hholds.tags
    | some id =>
      rw [h.apply_insert_of_slot hslot, tags_put, h.dropStale_eq_self, hholds.tags]
      intro v hv hpath
      rw [hholds.path_same_eq_false hnew hv] at hpath
      cases hpath

/-- One more copy is counted as an image added when it is the first one, and else as the policy
treats copies. -/
theorem HoldsKept.count_insert (hholds : library.HoldsKept policy records)
    (h : library.Consistent) (hapart : Apart (records ++ [w]))
    (hnew : ∀ f ∈ records, f.path.same w.path = false) (report : ScanReport) :
    report.count ((library.insert w policy).map Prod.fst) =
      if copies w.id records = [] then { report with added := report.added + 1 }
      else report.countCopies policy 1 := by
  have hheld := hholds.id_mem_ids_iff hapart
  have hslot := hholds.slot?_eq h hapart hnew
  by_cases hcopies : copies w.id records = []
  · rw [if_pos hcopies, h.insert_of_not_mem_ids (mt hheld.1 (not_not_intro hcopies))]
    rfl
  · rw [if_neg hcopies]
    cases policy with
    | reject =>
      rw [Policy.slotAfter, if_neg hcopies] at hslot
      obtain ⟨-, existing, -, -, -, hrefused⟩ := insert_of_slot?_eq_none hslot
      rw [hrefused]
      rfl
    | replace =>
      rw [h.insert_of_slot hslot, outcome, if_pos (hheld.2 hcopies)]
      rfl
    | version =>
      have hfree := mt (hholds.candidateId_mem_ids_iff (n := (copies w.id records).length)
        hapart).1 (Nat.lt_irrefl _)
      have hne : candidateId w.id (copies w.id records).length ≠ w.id := by
        intro heq
        have hzero : (copies w.id records).length = 0 := candidateId_injective w.id heq
        exact hcopies (List.eq_nil_of_length_eq_zero hzero)
      rw [h.insert_of_slot hslot, outcome, if_neg hfree, if_neg hne]
      rfl

end Inserts

section Runs

variable {policy : Policy} {records : List Wallpaper} {w : Wallpaper}

/-- Records that are apart are so without the last one. -/
theorem Apart.of_append (h : Apart (records ++ [w])) : Apart records :=
  fun f hf g hg => h f (List.mem_append_left _ hf) g (List.mem_append_left _ hg)

/-- After records of distinct paths were put into the empty library, it holds what is kept of
them. -/
theorem holdsKept_insertEach (policy : Policy) (hapart : Apart records)
    (hpaths : PathsDistinct records) :
    (empty.insertEach policy records).HoldsKept policy records := by
  -- Induction from the end: the last record meets what is kept of the others.
  induction records using List.reverseRecOn with
  | nil => exact holdsKept_empty policy
  | append_singleton records w ih =>
    obtain ⟨hrecords, hnew⟩ := hpaths.of_append
    rw [insertEach_append_singleton]
    exact (ih hapart.of_append hrecords).apply_insert (consistent_empty.insertEach policy records)
      hapart hnew

/-- The last one of some inserts is counted after the others. -/
theorem insertAll_append_singleton (library : Library) (policy : Policy) (report : ScanReport)
    (records : List Wallpaper) (w : Wallpaper) :
    (library.insertAll policy report (records ++ [w])).1 =
      (library.insertAll policy report records).1.count
        (((library.insertEach policy records).insert w policy).map Prod.fst) := by
  induction records generalizing library report with
  | nil =>
    rw [List.nil_append, insertAll_cons]
    rfl
  | cons v records ih =>
    rw [List.cons_append, insertAll_cons, insertAll_cons]
    exact ih _ _

/-- A record is of one image more when it is the first copy. -/
theorem length_images_append (records : List Wallpaper) (w : Wallpaper) :
    (images (records ++ [w])).length =
      (images records).length + if copies w.id records = [] then 1 else 0 := by
  have hperm : ((records ++ [w]).map Wallpaper.id).Perm (w.id :: records.map Wallpaper.id) := by
    rw [List.map_append]
    exact List.perm_append_singleton _ _
  have hmem : w.id ∈ records.map Wallpaper.id ↔ copies w.id records ≠ [] := by
    rw [List.mem_map, copies, ne_eq, List.filter_eq_nil_iff]
    simp
  rw [images, hperm.dedup.length_eq]
  by_cases hcopies : copies w.id records = []
  · rw [List.dedup_cons_of_notMem (mt hmem.1 (not_not_intro hcopies)), if_pos hcopies]
    rfl
  · rw [List.dedup_cons_of_mem (hmem.2 hcopies), if_neg hcopies]
    rfl

/-- There are no more images than records. -/
theorem length_images_le (records : List Wallpaper) :
    (images records).length ≤ records.length := by
  have hsub := (List.dedup_sublist (records.map Wallpaper.id)).length_le
  rwa [List.length_map] at hsub

/-- Of records of distinct paths that are put into the empty library each image is counted as added
once, and the other copies as the policy treats them. -/
theorem insertAll_empty (report : ScanReport) (hapart : Apart records)
    (hpaths : PathsDistinct records) :
    (empty.insertAll policy report records).1 =
      ScanReport.countCopies { report with added := report.added + (images records).length } policy
        (records.length - (images records).length) := by
  induction records using List.reverseRecOn with
  | nil => cases policy <;> rfl
  | append_singleton records w ih =>
    obtain ⟨hrecords, hnew⟩ := hpaths.of_append
    have hholds := holdsKept_insertEach policy hapart.of_append hrecords
    have hle := length_images_le records
    rw [insertAll_append_singleton, ih hapart.of_append hrecords,
      hholds.count_insert (consistent_empty.insertEach policy records) hapart hnew,
      length_images_append, List.length_append, List.length_singleton]
    by_cases hcopies : copies w.id records = []
    · simp only [if_pos hcopies, Nat.add_sub_add_right]
      cases policy <;> rfl
    · have hmore : records.length + 1 - ((images records).length + 0) =
          records.length - (images records).length + 1 := by omega
      simp only [if_neg hcopies, hmore]
      cases policy <;> rfl

/-- What is kept of some copies has their paths, each one once. -/
theorem sublist_map_path_kept (policy : Policy) (copies : List Wallpaper) :
    ((policy.kept copies).map Wallpaper.path).Sublist (copies.map Wallpaper.path) := by
  cases policy with
  | reject =>
    cases copies with
    | nil => exact List.nil_sublist _
    | cons first rest => exact (List.nil_sublist _).cons_cons _
  | replace =>
    refine List.Sublist.map _ ?_
    cases hlast : copies.getLast? with
    | none =>
      rw [Policy.kept, hlast]
      exact List.nil_sublist _
    | some last =>
      rw [Policy.kept, hlast]
      exact List.singleton_sublist.2 (List.mem_of_getLast? hlast)
  | version =>
    have hpaths : (Policy.version.kept copies).map Wallpaper.path =
        copies.map Wallpaper.path := by
      refine List.ext_getElem (by simp [Policy.kept]) fun n hn hn' => ?_
      simp only [Policy.kept, List.getElem_map, List.getElem_mapIdx]
    rw [hpaths]

/-- What is kept of the copies of each image are distinct records. -/
theorem nodup_flatMap_kept (hpaths : PathsDistinct records) :
    ((images records).flatMap fun id => policy.kept (copies id records)).Nodup := by
  have hnodup : (records.map Wallpaper.path).Nodup := by
    refine List.pairwise_map.2 (hpaths.imp fun {a b} hab heq => ?_)
    rw [heq, FilePath.same_refl] at hab
    cases hab
  refine List.nodup_flatMap.2 ⟨fun id _ => List.Nodup.of_map Wallpaper.path ?_, ?_⟩
  · exact ((sublist_map_path_kept policy _).trans (List.filter_sublist.map _)).nodup hnodup
  · -- What is kept of two images has the path of a copy of each, so they are one image.
    refine (List.nodup_dedup _).imp fun {id other} hne => ?_
    intro v hv hv'
    obtain ⟨f, hf, rfl, m, -, hvf⟩ := of_mem_kept hv
    obtain ⟨g, hg, rfl, n, -, hvg⟩ := of_mem_kept hv'
    have hpath : f.path = g.path := by
      have hsame := congrArg Wallpaper.path (hvf.symm.trans hvg)
      exact hsame
    refine hne ?_
    rw [eq_of_path_same hpaths hf hg (by rw [hpath]; exact FilePath.same_refl _)]

/-- Records of distinct paths that are put into the empty library make the library of what is kept
of them. -/
theorem insertEach_empty (policy : Policy) (hapart : Apart records)
    (hpaths : PathsDistinct records) :
    empty.insertEach policy records = keeping policy records := by
  have hholds := holdsKept_insertEach policy hapart hpaths
  have h := consistent_empty.insertEach policy records
  have hperm : (empty.insertEach policy records).wallpapers.Perm
      ((images records).flatMap fun id => policy.kept (copies id records)) := by
    refine (List.perm_ext_iff_of_nodup h.idsDistinct.of_map (nodup_flatMap_kept hpaths)).2
      fun v => ?_
    rw [hholds.mem_wallpapers, List.mem_flatMap]
    refine exists_congr fun id => (and_iff_right_of_imp fun hkept => ?_).symm
    obtain ⟨f, hf, hid, -⟩ := of_mem_kept hkept
    exact mem_images.2 ⟨f, hf, hid⟩
  have hrecords := mergeSort_eq_of_perm hperm h.pathsDistinct
  rw [List.mergeSort_of_pairwise h.ordered] at hrecords
  exact congrArg₂ Library.mk hrecords hholds.tags

/-- What is kept of some records is settled: each copy meets what it met before. -/
theorem HoldsKept.settled {library : Library} (hholds : library.HoldsKept policy records) :
    library.Settled policy records := by
  cases policy with
  | replace => trivial
  | reject => exact fun f hf => hholds.id_mem_ids (List.ne_nil_of_mem (mem_copies.2 ⟨hf, rfl⟩))
  | version =>
    intro f hf
    obtain ⟨n, hn, hcopy⟩ := List.getElem_of_mem (mem_copies.2 ⟨hf, rfl⟩)
    have hkept : { f with id := candidateId f.id n } ∈
        Policy.version.kept (copies f.id records) := by
      refine List.mem_mapIdx.2 ⟨n, hn, ?_⟩
      rw [hcopy]
    refine ⟨{ f with id := candidateId f.id n }, ?_, FilePath.same_refl _, n, rfl, fun m hm => ?_⟩
    · exact (hholds.mem_wallpapers _).2 ⟨f.id, hkept⟩
    · exact hholds.candidateId_mem_ids (hm.trans hn)

end Runs

/-! ## Scans -/

section Scans

variable {disk : Disk} {folders : List FilePath} {recursive : Bool} {files : List FoundFile}

/-- The records that a scan reads are apart, as all digests are of one length. -/
theorem apart_recordsFound : Apart (disk.recordsFound recursive folders) := by
  intro f hf g hg m n h
  obtain ⟨-, -, -, bytes, -, -, hfid⟩ := Disk.of_mem_recordsFound hf
  obtain ⟨-, -, -, others, -, -, hgid⟩ := Disk.of_mem_recordsFound hg
  refine eq_of_candidateId_eq ?_ h
  rw [hfid, hgid, Blake3.length_digest, Blake3.length_digest]

/-- What is kept of the records that a scan reads was read just now, so none of it is lost. -/
theorem HoldsKept.isLost_eq_false {library : Library} {policy : Policy}
    (hholds : library.HoldsKept policy (disk.recordsFound recursive folders)) {v : Wallpaper}
    (hv : v ∈ library.wallpapers) : isLost disk folders v = false := by
  obtain ⟨id, hkept⟩ := (hholds.mem_wallpapers v).1 hv
  obtain ⟨f, hf, -, n, -, rfl⟩ := of_mem_kept hkept
  exact isLost_of_mem_recordsFound hf _

/-- Files of distinct paths make records of distinct paths. -/
theorem pathsDistinct_recordsFound (hfound : disk.foundInAll recursive folders = .ok files)
    (hdistinct : files.Pairwise fun a b => a.path.same b.path = false) :
    PathsDistinct (disk.recordsFound recursive folders) := by
  have hrecords : PathsDistinct (disk.records files) := by
    refine List.Pairwise.filterMap _ (fun a b hab v hv w hw => ?_) hdistinct
    obtain ⟨hvpath, -, -⟩ := Wallpaper.of_ofFile_eq_ok (toOption_eq_some_iff.1 hv)
    obtain ⟨hwpath, -, -⟩ := Wallpaper.of_ofFile_eq_ok (toOption_eq_some_iff.1 hw)
    rw [hvpath, hwpath]
    exact hab
  rw [Disk.recordsFound_eq_scanOrder hfound]
  exact hrecords.of_perm (List.mergeSort_perm _ _).symm

/-- Files that make no record are counted as failed. -/
theorem failed_reportFound (disk : Disk) (files : List FoundFile) :
    (reportFound disk files).failed =
      files.countP fun file => !(Wallpaper.ofFile disk file.path file.folder).isOk := by
  have hread : (disk.records files).length =
      files.countP fun file => (Wallpaper.ofFile disk file.path file.folder).isOk := by
    rw [Disk.records, List.length_filterMap_eq_countP]
    congr 1
    funext file
    cases Wallpaper.ofFile disk file.path file.folder <;> rfl
  have hall := List.length_eq_countP_add_countP
    (fun file : FoundFile => (Wallpaper.ofFile disk file.path file.folder).isOk) (l := files)
  simp only [reportFound, hread]
  simp only [Bool.not_eq_true, Bool.decide_eq_false] at hall
  omega

/-- Let a scan into the empty library find files at distinct paths.  The files that can be read are
put in in the order of their paths.  Of the copies of each image the first one is kept under the
image's digest and, where duplicates are kept as versions, the copies after it under the versions
from two on; where duplicates take each other's stead, the last one is kept in the stead of the first
one.  The report counts an image added for each digest, the other copies as the policy treats them,
and the files that cannot be read as failed.  A second scan leaves the library as it is. -/
theorem scan_empty_eq (hfound : disk.foundInAll recursive folders = .ok files)
    (hdistinct : files.Pairwise fun a b => a.path.same b.path = false) (policy : Policy) :
    ((disk.recordsFound recursive folders).Perm (disk.records files) ∧
      (disk.recordsFound recursive folders).Pairwise fun a b =>
        a.path.le b.path = true ∧ a.path.same b.path = false) ∧
    empty.scan disk folders recursive policy =
      .ok (ScanReport.countCopies
          { found := files.length
            added := (images (disk.recordsFound recursive folders)).length
            updated := 0
            versioned := 0
            rejected := 0
            failed := files.countP fun file =>
              !(Wallpaper.ofFile disk file.path file.folder).isOk
            removed := 0 }
          policy
          ((disk.recordsFound recursive folders).length -
            (images (disk.recordsFound recursive folders)).length),
        keeping policy (disk.recordsFound recursive folders)) ∧
    ∃ again, (keeping policy (disk.recordsFound recursive folders)).scan disk folders recursive
        policy = .ok (again, keeping policy (disk.recordsFound recursive folders)) ∧
      again.added = 0 ∧ again.versioned = 0 ∧ again.removed = 0 := by
  have hrecords := Disk.recordsFound_eq_scanOrder hfound
  have hpaths := pathsDistinct_recordsFound hfound hdistinct
  have hholds := holdsKept_insertEach policy apart_recordsFound hpaths
  have hscan := consistent_empty.scan_eq_of_kept hfound fun v hv => hholds.isLost_eq_false hv
  rw [insertAll_empty _ apart_recordsFound hpaths] at hscan
  have hsettled := hholds.settled
  rw [insertEach_empty policy apart_recordsFound hpaths] at hscan hsettled
  refine ⟨⟨?_, ?_⟩, ?_, consistent_empty.scan_again_of_settled hscan hsettled⟩
  · rw [hrecords]
    exact List.mergeSort_perm _ _
  · refine List.Pairwise.and ?_ hpaths
    rw [hrecords]
    exact pairwise_scanOrder _
  · rw [hscan, ← failed_reportFound]
    cases policy <;> simp [ScanReport.countCopies, reportFound, ScanReport.blank]

end Scans

/-- A disk with two copies of the image and a file that is no image. -/
def mixedDisk : Disk :=
  ⟨[(["walls"], .folder true), (["walls", "a.png"], .file imageBytes 10),
    (["walls", "b.png"], .file imageBytes 10), (["walls", "c.png"], .file ByteArray.empty 10)],
    [], 0⟩

/-- The first copy is kept under the digest and the second one as a version, and a second scan
changes nothing. -/
theorem scan_empty_eq_copies :
    empty.scan mixedDisk [⟨"walls"⟩] true .version =
        .ok (⟨3, 1, 0, 1, 0, 1, 0⟩,
          ⟨[imageRecord imageId "a.png", imageRecord (imageId ++ "-v2") "b.png"], []⟩) ∧
      ∃ again, scan ⟨[imageRecord imageId "a.png", imageRecord (imageId ++ "-v2") "b.png"], []⟩
          mixedDisk [⟨"walls"⟩] true .version =
        .ok (again, ⟨[imageRecord imageId "a.png", imageRecord (imageId ++ "-v2") "b.png"], []⟩) := by
  have hfound : mixedDisk.foundInAll true [⟨"walls"⟩] =
      .ok [⟨⟨"walls/a.png"⟩, ⟨"walls"⟩⟩, ⟨⟨"walls/b.png"⟩, ⟨"walls"⟩⟩,
        ⟨⟨"walls/c.png"⟩, ⟨"walls"⟩⟩] := by decide +kernel
  have hrecords : mixedDisk.recordsFound true [⟨"walls"⟩] =
      [imageRecord imageId "a.png", imageRecord imageId "b.png"] :=
    Disk.recordsFound_eq hfound (by decide +kernel) (by decide +kernel)
  have hkeeping : keeping .version [imageRecord imageId "a.png", imageRecord imageId "b.png"] =
      ⟨[imageRecord imageId "a.png", imageRecord (imageId ++ "-v2") "b.png"], []⟩ := by
    have hkept : (images [imageRecord imageId "a.png", imageRecord imageId "b.png"]).flatMap
        (fun id => Policy.version.kept
          (copies id [imageRecord imageId "a.png", imageRecord imageId "b.png"])) =
        [imageRecord imageId "a.png", imageRecord (imageId ++ "-v2") "b.png"] := by decide +kernel
    have horder : precedes (imageRecord imageId "a.png")
      (imageRecord (imageId ++ "-v2") "b.png") = true := by decide +kernel
    rw [keeping, hkept, sorted_pair, if_pos horder]
  obtain ⟨-, hscan, again, hagain, -⟩ := scan_empty_eq hfound (by decide +kernel) .version
  rw [hrecords, hkeeping] at hscan hagain
  refine ⟨?_, again, hagain⟩
  rw [hscan]
  decide +kernel

end Library

end WallpaperRotation
