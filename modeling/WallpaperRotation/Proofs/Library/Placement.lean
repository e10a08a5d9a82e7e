/-
# What an insert does

Every insert that succeeds does the same thing: it finds a slot, the identifier under which the
record is to be kept, drops the other records of the file and of the slot, and puts the record in.
Only the choice of the slot and the name of the outcome depend on the policy.
-/
import WallpaperRotation.Proofs.Library.Candidate
import WallpaperRotation.Proofs.Library.Removal

namespace WallpaperRotation.Library

/-! ## Stale records -/

/-- The record belongs to the file of an incoming one, under another identifier. -/
def isStale (incoming w : Wallpaper) : Bool :=
  w.path.same incoming.path && w.id ≠ incoming.id

/-- A record that belongs to the file of an incoming one and is not stale has its identifier. -/
theorem isStale_eq_false_iff {incoming w : Wallpaper} :
    isStale incoming w = false ↔ (w.path.same incoming.path = true → w.id = incoming.id) := by
  simp [isStale]

/-- The records left are those that are not stale. -/
theorem Consistent.dropStale_eq {library : Library} (h : library.Consistent)
    (incoming : Wallpaper) : library.dropStale incoming = library.withoutWhere (isStale incoming) :=
  h.removeAll_snd _

/-- Dropping stale records leaves a consistent library. -/
theorem Consistent.dropStale {library : Library} (h : library.Consistent)
    (incoming : Wallpaper) : (library.dropStale incoming).Consistent := by
  rw [h.dropStale_eq]
  exact h.without _

/-- The records left are those that are not stale. -/
theorem Consistent.mem_dropStale {library : Library} (h : library.Consistent)
    {incoming w : Wallpaper} :
    w ∈ (library.dropStale incoming).wallpapers ↔
      w ∈ library.wallpapers ∧ (w.path.same incoming.path = true → w.id = incoming.id) := by
  rw [h.dropStale_eq, h.mem_wallpapers_withoutWhere, isStale_eq_false_iff]

/-- Where all records of the file have the incoming identifier, nothing is dropped. -/
theorem Consistent.dropStale_eq_self {library : Library} (h : library.Consistent)
    {incoming : Wallpaper}
    (hall : ∀ v ∈ library.wallpapers, v.path.same incoming.path = true → v.id = incoming.id) :
    library.dropStale incoming = library := by
  rw [h.dropStale_eq]
  exact h.withoutWhere_eq_self fun v hv => isStale_eq_false_iff.2 (hall v hv)

/-- Where the file is kept under the incoming identifier, nothing is dropped. -/
theorem Consistent.dropStale_eq_self_of_mem {library : Library} (h : library.Consistent)
    {incoming w : Wallpaper} (hw : w ∈ library.wallpapers) (hid : w.id = incoming.id)
    (hpath : w.path.same incoming.path = true) : library.dropStale incoming = library := by
  refine h.dropStale_eq_self fun v hv hsame => ?_
  rw [eq_of_path_same h.pathsDistinct hv hw (by rw [FilePath.same_congr_right hpath, hsame]), hid]

/-! ## Putting a record in -/

/-- The library with a record in the stead of those that have its path or its identifier. -/
def put (library : Library) (w : Wallpaper) : Library :=
  let rest := library.dropStale w
  sorted ⟨(rest.wallpapers.filter fun v => v.id ≠ w.id) ++ [w], rest.tags⟩

/-- Only the tags of dropped records change. -/
@[simp] theorem tags_put (library : Library) (w : Wallpaper) :
    (library.put w).tags = (library.dropStale w).tags :=
  rfl

/-- The records other than the one put in are those with other paths and identifiers. -/
theorem Consistent.mem_put {library : Library} (h : library.Consistent) {v w : Wallpaper} :
    v ∈ (library.put w).wallpapers ↔
      v = w ∨ v ∈ library.wallpapers ∧ v.id ≠ w.id ∧ v.path.same w.path = false := by
  simp only [put, sorted, List.mem_mergeSort, List.mem_append, List.mem_filter,
    List.mem_singleton, decide_eq_true_eq, h.mem_dropStale]
  constructor
  · rintro (⟨⟨hv, hstale⟩, hid⟩ | rfl)
    · exact Or.inr ⟨hv, hid, by simpa using fun hpath => hid (hstale hpath)⟩
    · exact Or.inl rfl
  · rintro (rfl | ⟨hv, hid, hpath⟩)
    · exact Or.inr rfl
    · exact Or.inl ⟨⟨hv, fun hsame => by rw [hpath] at hsame; cases hsame⟩, hid⟩

/-- The identifiers after a record was put in. -/
theorem Consistent.mem_ids_put {library : Library} (h : library.Consistent) {w : Wallpaper}
    {id : String} :
    id ∈ (library.put w).ids ↔
      id = w.id ∨ ∃ v ∈ library.wallpapers, v.id = id ∧ v.path.same w.path = false := by
  simp only [mem_ids, h.mem_put]
  constructor
  · rintro ⟨v, rfl | ⟨hv, -, hpath⟩, rfl⟩
    · exact Or.inl rfl
    · exact Or.inr ⟨v, hv, rfl, hpath⟩
  · rintro (rfl | ⟨v, hv, rfl, hpath⟩)
    · exact ⟨w, Or.inl rfl, rfl⟩
    · by_cases hid : v.id = w.id
      · exact ⟨w, Or.inl rfl, hid.symm⟩
      · exact ⟨v, Or.inr ⟨hv, hid, hpath⟩, rfl⟩

/-- The records after one was put in are those with other paths and identifiers, and this one, in
order. -/
theorem Consistent.wallpapers_put {library : Library} (h : library.Consistent) (w : Wallpaper) :
    (library.put w).wallpapers =
      ((library.wallpapers.filter fun v => v.id ≠ w.id && !v.path.same w.path) ++ [w]).mergeSort
        precedes := by
  have hfilter : ((library.dropStale w).wallpapers.filter fun v => v.id ≠ w.id) =
      library.wallpapers.filter fun v => v.id ≠ w.id && !v.path.same w.path := by
    rw [h.dropStale_eq, h.wallpapers_withoutWhere, List.filter_filter]
    refine List.filter_congr fun v _ => ?_
    by_cases hid : v.id = w.id <;> simp [isStale, hid]
  unfold Library.put sorted
  simp only [hfilter]

/-- The tags after a record was put in are without the identifiers of its stale records. -/
theorem Consistent.tags_put_eq {library : Library} (h : library.Consistent) (w : Wallpaper) :
    (library.put w).tags =
      untagAll ((library.wallpapers.filter (isStale w)).map Wallpaper.id) library.tags := by
  rw [tags_put, h.dropStale_eq]
  rfl

/-- Of the identifiers that were there, those of stale records go. -/
theorem Consistent.mem_stale_iff {library : Library} (h : library.Consistent) (w : Wallpaper)
    {id : String} (hid : id ∈ library.ids) :
    id ∈ (library.wallpapers.filter (isStale w)).map Wallpaper.id ↔ id ∉ (library.put w).ids := by
  obtain ⟨v, hv, rfl⟩ := mem_ids.1 hid
  have hstale : v.id ∈ (library.wallpapers.filter (isStale w)).map Wallpaper.id ↔
      isStale w v = true := by
    constructor
    · intro hgone
      obtain ⟨u, hu, huid⟩ := List.mem_map.1 hgone
      obtain ⟨hu, hmeets⟩ := List.mem_filter.1 hu
      rw [← eq_of_id_eq h.idsDistinct hu hv huid]
      exact hmeets
    · intro hmeets
      exact List.mem_map_of_mem (List.mem_filter.2 ⟨hv, hmeets⟩)
  rw [hstale, h.mem_ids_put, not_or, isStale, Bool.and_eq_true, decide_eq_true_eq, and_comm]
  refine and_congr_right fun _ => ⟨?_, ?_⟩
  · rintro hpath ⟨u, hu, huid, hother⟩
    rw [eq_of_id_eq h.idsDistinct hu hv huid, hpath] at hother
    cases hother
  · intro hnone
    by_contra hpath
    exact hnone ⟨v, hv, rfl, by simpa using hpath⟩

/-- Before it is put in order, the list of records has distinct paths. -/
theorem Consistent.pathsDistinct_append {library : Library} (h : library.Consistent)
    (w : Wallpaper) :
    PathsDistinct (((library.dropStale w).wallpapers.filter fun v => v.id ≠ w.id) ++ [w]) := by
  refine List.pairwise_append.2 ⟨(h.dropStale w).pathsDistinct.filter _,
    List.pairwise_singleton _ w, fun v hv u hu => ?_⟩
  obtain ⟨hv, hid⟩ := List.mem_filter.1 hv
  obtain ⟨-, hstale⟩ := h.mem_dropStale.1 hv
  rw [List.mem_singleton.1 hu]
  simpa using fun hpath => (of_decide_eq_true hid) (hstale hpath)

/-- Putting a record into a consistent library leaves a consistent one. -/
theorem Consistent.put {library : Library} (h : library.Consistent) (w : Wallpaper) :
    (library.put w).Consistent := by
  have hrest := h.dropStale w
  have hperm := List.mergeSort_perm
    (((library.dropStale w).wallpapers.filter fun v => v.id ≠ w.id) ++ [w]) precedes
  refine ⟨?_, ?_, pairwise_sorted _, ?_, hrest.tagsFilled, hrest.namesNormal,
    hrest.namesAscending⟩
  · refine (hperm.map Wallpaper.id).nodup_iff.2 ?_
    rw [List.map_append, List.map_singleton, List.nodup_append]
    refine ⟨(List.filter_sublist.map Wallpaper.id).nodup hrest.idsDistinct,
      List.nodup_singleton w.id, fun id hid other hother => ?_⟩
    obtain ⟨v, hv, rfl⟩ := List.mem_map.1 hid
    rw [List.mem_singleton.1 hother]
    simpa using (List.mem_filter.1 hv).2
  · exact (h.pathsDistinct_append w).of_perm hperm.symm
  · -- A tagged record that is overwritten leaves its identifier to the new one.
    intro tag htag id hid
    obtain ⟨v, hv, rfl⟩ := mem_ids.1 (hrest.tagsLive tag htag id hid)
    obtain ⟨hv, hstale⟩ := h.mem_dropStale.1 hv
    refine h.mem_ids_put.2 ?_
    by_cases hpath : v.path.same w.path = true
    · exact Or.inl (hstale hpath)
    · exact Or.inr ⟨v, hv, rfl, by simpa using hpath⟩

/-- Putting in a record under an identifier that no other record has is adding it. -/
theorem Consistent.sorted_append_eq_put {library : Library} (h : library.Consistent)
    {w : Wallpaper} (hfree : w.id ∉ library.ids) :
    ((library.dropStale w).append w).sorted = library.put w := by
  have hfilter : ((library.dropStale w).wallpapers.filter fun v => v.id ≠ w.id) =
      (library.dropStale w).wallpapers := by
    rw [List.filter_eq_self]
    intro v hv
    refine decide_eq_true fun hid => hfree ?_
    rw [← hid]
    exact id_mem_ids (h.mem_dropStale.1 hv).1
  unfold Library.put
  simp only
  rw [hfilter]
  rfl

/-- Putting in a record under an identifier that a record has is overwriting that record. -/
theorem Consistent.sorted_overwrite_eq_put {library : Library} (h : library.Consistent)
    {w : Wallpaper} (hheld : w.id ∈ library.ids) :
    ((library.dropStale w).overwrite w).sorted = library.put w := by
  have hrest := h.dropStale w
  have hmeets : ∃ v ∈ (library.dropStale w).wallpapers, decide (v.id = w.id) = true := by
    obtain ⟨v, hv, hid⟩ := mem_ids.1 hheld
    exact ⟨v, h.mem_dropStale.2 ⟨hv, fun _ => hid⟩, by simpa using hid⟩
  have hperm := perm_replaceFirst w hmeets
  rw [eraseP_id_eq_filter hrest.idsDistinct] at hperm
  unfold Library.put overwrite sorted
  simp only [Library.mk.injEq, and_true]
  exact (mergeSort_eq_of_perm hperm.symm (h.pathsDistinct_append w)).symm

/-- Putting in a record of a file that is kept under its identifier is overwriting it. -/
theorem Consistent.sorted_overwrite_eq_put_of_same {library : Library} (h : library.Consistent)
    {v w : Wallpaper} (hv : v ∈ library.wallpapers) (hid : v.id = w.id)
    (hpath : v.path.same w.path = true) : (library.overwrite w).sorted = library.put w := by
  have hput := h.sorted_overwrite_eq_put (hid ▸ id_mem_ids hv)
  rw [h.dropStale_eq_self_of_mem hv hid hpath] at hput
  exact hput

/-! ## The slot of a record -/

/-- The identifier under which an insert keeps a record, unless it refuses it. -/
def slot? (library : Library) (w : Wallpaper) (policy : Policy) : Option String :=
  match library.get? w.id with
  | none => some w.id
  | some existing =>
    if existing.path.same w.path then some w.id
    else
      match policy with
      | .reject => none
      | .replace => some w.id
      | .version => some (versionId w.id (library.openVersion w.path w.id))

/-- What an insert says that keeps a record under an identifier. -/
def outcome (library : Library) (w : Wallpaper) (id : String) : Inserted :=
  if id ∈ library.ids then .updated id else if id = w.id then .new id else .versioned id

/-- The identifier is open to a path when all the records that have it have the path. -/
theorem isOpen_iff {library : Library} (h : library.ids.Nodup) {path : FilePath} {id : String} :
    library.isOpen path id = true ↔
      ∀ v ∈ library.wallpapers, v.id = id → v.path.same path = true := by
  unfold isOpen
  cases hget : library.get? id with
  | none =>
    refine iff_of_true rfl fun v hv hid => ?_
    exact absurd (hid ▸ id_mem_ids hv) (get?_eq_none_iff.1 hget)
  | some w =>
    obtain ⟨hw, hid⟩ := (get?_eq_some_iff h).1 hget
    constructor
    · intro hpath v hv hvid
      rw [eq_of_id_eq h hv hw (hvid.trans hid.symm)]
      exact hpath
    · intro hall
      exact hall w hw hid

/-- An identifier that is not open to a path belongs to a record with another path. -/
theorem isOpen_eq_false_iff {library : Library} (h : library.ids.Nodup) {path : FilePath}
    {id : String} :
    library.isOpen path id = false ↔
      ∃ v ∈ library.wallpapers, v.id = id ∧ v.path.same path = false := by
  rw [← Bool.not_eq_true, isOpen_iff h]
  constructor
  · intro hshut
    by_contra hnone
    refine hshut fun v hv hid => ?_
    by_contra hpath
    exact hnone ⟨v, hv, hid, by simpa using hpath⟩
  · rintro ⟨v, hv, hid, hpath⟩ hall
    rw [hall v hv hid] at hpath
    cases hpath

/-- An insert under a version puts the record under the first version that is open. -/
theorem Consistent.insertVersion_eq {library : Library} (h : library.Consistent) {w : Wallpaper}
    {version : String} (hversion : versionId w.id (library.openVersion w.path w.id) = version) :
    (library.insertVersion w).1 = library.outcome w version ∧
      (library.insertVersion w).2.sorted = library.put { w with id := version } := by
  have hopen := (openVersion_spec library w.path w.id).2.1
  have hne := versionId_ne w.id (library.openVersion w.path w.id)
  rw [hversion] at hopen hne
  unfold insertVersion outcome
  cases hget : library.get? version with
  | none =>
    have hfree := get?_eq_none_iff.1 hget
    simp only [hversion, hget, if_neg hfree, if_neg hne, true_and]
    exact h.sorted_append_eq_put (w := { w with id := version }) hfree
  | some other =>
    obtain ⟨hother, hid⟩ := of_get?_eq_some hget
    have hheld : version ∈ library.ids := hid ▸ id_mem_ids hother
    have hpath := (isOpen_iff h.idsDistinct).1 hopen other hother hid
    simp only [hversion, hget, if_pos hheld, true_and]
    exact h.sorted_overwrite_eq_put_of_same (w := { w with id := version }) hother hid hpath

/-- An insert that finds a slot puts the record there. -/
theorem Consistent.insert_of_slot {library : Library} (h : library.Consistent) {w : Wallpaper}
    {policy : Policy} {id : String} (hslot : library.slot? w policy = some id) :
    library.insert w policy = .ok (library.outcome w id, library.put { w with id := id }) := by
  unfold slot? at hslot
  unfold insert
  cases hget : library.get? w.id with
  | none =>
    rw [hget] at hslot
    obtain rfl : w.id = id := Option.some.inj hslot
    have hfree := get?_eq_none_iff.1 hget
    simp only [outcome, if_neg hfree, if_true, h.sorted_append_eq_put hfree]
  | some existing =>
    rw [hget] at hslot
    obtain ⟨hexisting, hid⟩ := of_get?_eq_some hget
    have hheld : w.id ∈ library.ids := hid ▸ id_mem_ids hexisting
    by_cases hpath : existing.path.same w.path = true
    · simp only [hpath, if_true, Option.some.injEq] at hslot ⊢
      subst hslot
      simp only [outcome, if_pos hheld, h.sorted_overwrite_eq_put_of_same hexisting hid hpath]
    · simp only [hpath, if_false, Bool.false_eq_true] at hslot ⊢
      cases policy with
      | reject => cases hslot
      | replace =>
        obtain rfl : w.id = id := Option.some.inj hslot
        simp only [outcome, if_pos hheld, h.sorted_overwrite_eq_put hheld]
      | version =>
        obtain ⟨houtcome, hput⟩ := h.insertVersion_eq (Option.some.inj hslot)
        simp only [houtcome, hput]

/-- An insert that finds no slot is refused, as the identifier belongs to another file. -/
theorem insert_of_slot?_eq_none {library : Library} {w : Wallpaper} {policy : Policy}
    (hslot : library.slot? w policy = none) :
    policy = .reject ∧ ∃ existing ∈ library.wallpapers, existing.id = w.id ∧
      existing.path.same w.path = false ∧
      library.insert w policy = .error (.duplicateId w.id existing.path) := by
  unfold slot? at hslot
  unfold insert
  cases hget : library.get? w.id with
  | none => rw [hget] at hslot; cases hslot
  | some existing =>
    rw [hget] at hslot
    obtain ⟨hexisting, hid⟩ := of_get?_eq_some hget
    by_cases hpath : existing.path.same w.path = true
    · simp [hpath] at hslot
    · simp only [hpath, if_false, Bool.false_eq_true] at hslot ⊢
      cases policy with
      | reject => exact ⟨rfl, existing, hexisting, hid, by simpa using hpath, rfl⟩
      | replace => cases hslot
      | version => cases hslot

/-- Where duplicates are kept as versions, the slot is the first candidate that is open. -/
theorem slot?_version (library : Library) (w : Wallpaper) :
    ∃ n, library.slot? w .version = some (candidateId w.id n) ∧
      library.isOpen w.path (candidateId w.id n) = true ∧
      ∀ m, m < n → library.isOpen w.path (candidateId w.id m) = false := by
  unfold slot?
  cases hget : library.get? w.id with
  | none =>
    refine ⟨0, rfl, ?_, fun m hm => absurd hm (Nat.not_lt_zero m)⟩
    exact isOpen_of_not_mem_ids w.path (get?_eq_none_iff.1 hget)
  | some existing =>
    by_cases hpath : existing.path.same w.path = true
    · refine ⟨0, by simp [hpath, candidateId], ?_, fun m hm => absurd hm (Nat.not_lt_zero m)⟩
      simp only [isOpen, candidateId, hget, hpath]
    · obtain ⟨htwo, hopen, hfirst⟩ := openVersion_spec library w.path w.id
      obtain ⟨n, hn⟩ : ∃ n, library.openVersion w.path w.id = n + 2 :=
        ⟨library.openVersion w.path w.id - 2, by omega⟩
      rw [hn] at hopen hfirst
      refine ⟨n + 1, by simp [hpath, candidateId, hn], hopen, fun m hm => ?_⟩
      cases m with
      | zero => simp [isOpen, candidateId, hget, hpath]
      | succ m => exact hfirst (m + 2) (by omega) (by omega)

/-- Where duplicates are kept as versions, a candidate is the slot when it is open and none before
it is. -/
theorem slot?_version_eq_iff {library : Library} {w : Wallpaper} {n : Nat} :
    library.slot? w .version = some (candidateId w.id n) ↔
      library.isOpen w.path (candidateId w.id n) = true ∧
        ∀ m, m < n → library.isOpen w.path (candidateId w.id m) = false := by
  obtain ⟨k, hslot, hopen, hfirst⟩ := slot?_version library w
  constructor
  · intro h
    rw [h] at hslot
    obtain rfl := candidateId_injective w.id (Option.some.inj hslot)
    exact ⟨hopen, hfirst⟩
  · rintro ⟨hopen', hfirst'⟩
    rcases Nat.lt_trichotomy k n with hlt | rfl | hlt
    · rw [hfirst' k hlt] at hopen
      cases hopen
    · exact hslot
    · rw [hfirst n hlt] at hopen'
      cases hopen'

/-- An identifier other than that of the file at a path is not open to the path when a record has
it. -/
theorem Consistent.isOpen_eq_false_iff_mem_ids {library : Library} (h : library.Consistent)
    {v : Wallpaper} (hv : v ∈ library.wallpapers) {path : FilePath}
    (hpath : v.path.same path = true) {id : String} (hid : v.id ≠ id) :
    library.isOpen path id = false ↔ id ∈ library.ids := by
  rw [isOpen_eq_false_iff h.idsDistinct, mem_ids]
  constructor
  · rintro ⟨u, hu, hid', -⟩
    exact ⟨u, hu, hid'⟩
  · rintro ⟨u, hu, rfl⟩
    refine ⟨u, hu, rfl, ?_⟩
    by_contra hsame
    rw [Bool.not_eq_false] at hsame
    rw [eq_of_path_same h.pathsDistinct hv hu
      (by rw [FilePath.same_congr_left hpath, FilePath.same_comm]; exact hsame)] at hid
    exact hid rfl

/-- A file that is kept under a candidate is given the same slot again when all candidates before
it are taken. -/
theorem Consistent.slot?_version_of_mem {library : Library} (h : library.Consistent)
    {v w : Wallpaper} (hv : v ∈ library.wallpapers) (hpath : v.path.same w.path = true) {n : Nat}
    (hid : v.id = candidateId w.id n) :
    library.slot? w .version = some v.id ↔ ∀ m, m < n → candidateId w.id m ∈ library.ids := by
  rw [hid, slot?_version_eq_iff]
  have hopen : library.isOpen w.path (candidateId w.id n) = true := by
    refine (isOpen_iff h.idsDistinct).2 fun u hu huid => ?_
    rw [eq_of_id_eq h.idsDistinct hu hv (huid.trans hid.symm)]
    exact hpath
  rw [and_iff_right hopen]
  refine forall₂_congr fun m hm => h.isOpen_eq_false_iff_mem_ids hv hpath fun heq => ?_
  exact (Nat.ne_of_lt hm) (candidateId_injective w.id (heq.symm.trans hid))

end WallpaperRotation.Library
