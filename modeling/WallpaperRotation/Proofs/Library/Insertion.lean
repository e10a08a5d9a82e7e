/-
# Inserts in full

An insert is refused only where duplicates are refused and the identifier belongs to another file.
Every other insert keeps the record under its own identifier or, where duplicates are kept as
versions and that one belongs to another file, under the first version that does not; the records of
the same path and of the same identifier give way to it.  Nothing else changes, the tags of all
other identifiers included.
-/
import WallpaperRotation.Proofs.Library.Restriction
import WallpaperRotation.Proofs.Library.Run

namespace WallpaperRotation.Library

/-! ## Slots -/

/-- The identifier is free, or belongs to the file at the path. -/
def IsOpenTo (library : Library) (path : FilePath) (id : String) : Prop :=
  id ∉ library.ids ∨ ∃ v ∈ library.wallpapers, v.id = id ∧ v.path.same path = true

/-- The identifier under which a record is to be kept. -/
inductive IsSlot (library : Library) (w : Wallpaper) : Policy → String → Prop where
  /-- The record's own identifier, where that is open to it. -/
  | own (policy : Policy) (hopen : library.IsOpenTo w.path w.id) : IsSlot library w policy w.id
  /-- The record's own identifier, where it may be taken from another file. -/
  | taken : IsSlot library w .replace w.id
  /-- The first version of the record's identifier, from two on, that is open to it. -/
  | version (n : Nat) (hheld : ¬library.IsOpenTo w.path w.id) (htwo : 2 ≤ n)
    (hopen : library.IsOpenTo w.path (versionId w.id n))
    (hfirst : ∀ m, 2 ≤ m → m < n → ¬library.IsOpenTo w.path (versionId w.id m)) :
    IsSlot library w .version (versionId w.id n)

section Slots

variable {library : Library} {w : Wallpaper} {policy : Policy} {path : FilePath} {id : String}

/-- An identifier is open to a path when a search takes it to be. -/
theorem isOpenTo_iff (h : library.ids.Nodup) :
    library.IsOpenTo path id ↔ library.isOpen path id = true := by
  rw [isOpen_iff h]
  constructor
  · rintro (hfree | ⟨v, hv, hid, hpath⟩) u hu huid
    · exact absurd (huid ▸ id_mem_ids hu) hfree
    · rw [eq_of_id_eq h hu hv (huid.trans hid.symm)]
      exact hpath
  · intro hall
    by_cases hid : id ∈ library.ids
    · obtain ⟨v, hv, hvid⟩ := mem_ids.1 hid
      exact Or.inr ⟨v, hv, hvid, hall v hv hvid⟩
    · exact Or.inl hid

/-- An identifier that is not open to a path belongs to a file at another one. -/
theorem not_isOpenTo_iff (h : library.ids.Nodup) :
    ¬library.IsOpenTo path id ↔ ∃ v ∈ library.wallpapers, v.id = id ∧ v.path.same path = false := by
  rw [isOpenTo_iff h, Bool.not_eq_true, isOpen_eq_false_iff h]

/-- A record whose identifier is open to it is kept under it. -/
theorem slot?_of_isOpen (hopen : library.isOpen w.path w.id = true) (policy : Policy) :
    library.slot? w policy = some w.id := by
  unfold isOpen at hopen
  unfold slot?
  cases hget : library.get? w.id with
  | none => rfl
  | some existing =>
    rw [hget] at hopen
    exact if_pos hopen

/-- What becomes of a record whose identifier is not open to it is up to the policy. -/
theorem slot?_of_not_isOpen (hheld : library.isOpen w.path w.id = false) (policy : Policy) :
    library.slot? w policy =
      match policy with
      | .reject => none
      | .replace => some w.id
      | .version => some (versionId w.id (library.openVersion w.path w.id)) := by
  unfold isOpen at hheld
  unfold slot?
  cases hget : library.get? w.id with
  | none =>
    rw [hget] at hheld
    cases hheld
  | some existing =>
    rw [hget] at hheld
    exact if_neg (Bool.eq_false_iff.1 hheld)

/-- The first version that is open is the one that a search finds. -/
theorem openVersion_eq {n : Nat} (htwo : 2 ≤ n)
    (hopen : library.isOpen path (versionId id n) = true)
    (hfirst : ∀ m, 2 ≤ m → m < n → library.isOpen path (versionId id m) = false) :
    library.openVersion path id = n := by
  obtain ⟨htwo', hopen', hfirst'⟩ := openVersion_spec library path id
  rcases Nat.lt_trichotomy (library.openVersion path id) n with hlt | heq | hlt
  · rw [hfirst _ htwo' hlt] at hopen'
    cases hopen'
  · exact heq
  · rw [hfirst' n htwo hlt] at hopen
    cases hopen

/-- An insert finds the slots of a record, and no others. -/
theorem slot?_eq_some_iff (h : library.ids.Nodup) :
    library.slot? w policy = some id ↔ library.IsSlot w policy id := by
  have hiff (other : String) : library.IsOpenTo w.path other ↔ library.isOpen w.path other = true :=
    isOpenTo_iff h
  have hnot (other : String) :
      ¬library.IsOpenTo w.path other ↔ library.isOpen w.path other = false := by
    rw [hiff, Bool.not_eq_true]
  constructor
  · intro hslot
    by_cases hopen : library.isOpen w.path w.id = true
    · rw [slot?_of_isOpen hopen] at hslot
      obtain rfl := Option.some.inj hslot
      exact .own policy ((hiff w.id).2 hopen)
    · rw [Bool.not_eq_true] at hopen
      rw [slot?_of_not_isOpen hopen] at hslot
      cases policy with
      | reject => cases hslot
      | replace =>
        obtain rfl := Option.some.inj hslot
        exact .taken
      | version =>
        obtain ⟨htwo, hversion, hfirst⟩ := openVersion_spec library w.path w.id
        obtain rfl := Option.some.inj hslot
        exact .version _ ((hnot w.id).2 hopen) htwo ((hiff _).2 hversion)
          fun m hm hlt => (hnot _).2 (hfirst m hm hlt)
  · intro hslot
    cases hslot with
    | own policy hopen => exact slot?_of_isOpen ((hiff w.id).1 hopen) policy
    | taken =>
      by_cases hopen : library.isOpen w.path w.id = true
      · exact slot?_of_isOpen hopen .replace
      · exact slot?_of_not_isOpen (Bool.not_eq_true _ ▸ hopen) .replace
    | version n hheld htwo hopen hfirst =>
      rw [slot?_of_not_isOpen ((hnot w.id).1 hheld),
        openVersion_eq htwo ((hiff _).1 hopen) fun m hm hlt => (hnot _).1 (hfirst m hm hlt)]

/-- A record has no slot only where duplicates are refused and its identifier belongs to another
file. -/
theorem slot?_eq_none_iff (h : library.ids.Nodup) :
    library.slot? w policy = none ↔ policy = .reject ∧ ¬library.IsOpenTo w.path w.id := by
  rw [isOpenTo_iff h, Bool.not_eq_true]
  by_cases hopen : library.isOpen w.path w.id = true
  · rw [slot?_of_isOpen hopen, hopen]
    simp
  · rw [Bool.not_eq_true] at hopen
    rw [slot?_of_not_isOpen hopen, and_iff_left hopen]
    cases policy <;> simp

end Slots

/-! ## Records put in -/

/-- The library is another one with a record put in under its identifier, and nothing else
changed. -/
structure HasTaken (next library : Library) (w : Wallpaper) : Prop where
  /-- The record stands, in its order, beside the old ones of other paths and identifiers. -/
  wallpapers : next.wallpapers =
    ((library.wallpapers.filter fun v => v.id ≠ w.id && !v.path.same w.path) ++ [w]).mergeSort
      precedes
  /-- Of the old tags there is what they held of the identifiers that are still there. -/
  tags : next.tags = tagsAmong next.ids library.tags
  /-- So each identifier has the tags that it had before. -/
  tagsOf_eq : ∀ id ∈ next.ids, next.tagsOf id = library.tagsOf id
  /-- If there was no record under the identifier, the record has no tags. -/
  tagsOf_new : w.id ∉ library.ids → next.tagsOf w.id = []

section Inserts

variable {library next : Library} {w : Wallpaper} {policy : Policy} {id : String}

/-- Putting a record in changes nothing else. -/
theorem Consistent.hasTaken_put (h : library.Consistent) (w : Wallpaper) :
    (library.put w).HasTaken library w := by
  have htags : (library.put w).tags = tagsAmong (library.put w).ids library.tags := by
    rw [h.tags_put_eq]
    refine untagAll_eq_tagsAmong fun tag htag id hid => ?_
    rw [h.mem_stale_iff w (h.tagsLive tag htag id hid), not_not]
  have hkept (id : String) (hid : id ∈ (library.put w).ids) :
      (library.put w).tagsOf id = library.tagsOf id := by
    rw [tagsOf, htags]
    exact filter_contains_tagsAmong hid library.tags
  refine ⟨h.wallpapers_put w, htags, hkept, fun hnew => ?_⟩
  rw [hkept w.id (h.mem_ids_put.2 (Or.inl rfl))]
  exact tagsOf_eq_nil fun tag htag hid => hnew (h.tagsLive tag htag w.id hid)

/-- There is one library with a record put in. -/
theorem HasTaken.eq {other : Library} (h : next.HasTaken library w)
    (hother : other.HasTaken library w) : next = other := by
  have hrecords : next.wallpapers = other.wallpapers := h.wallpapers.trans hother.wallpapers.symm
  have htags : next.tags = other.tags := by
    rw [h.tags, hother.tags, ids, ids, hrecords]
  cases next
  cases other
  exact congrArg₂ Library.mk hrecords htags

/-- An insert is refused for the record of another file that has the identifier. -/
theorem Consistent.insert_eq_error_iff (h : library.Consistent) {error : StoreError} :
    library.insert w policy = .error error ↔
      policy = .reject ∧ ∃ v ∈ library.wallpapers,
        v.id = w.id ∧ v.path.same w.path = false ∧ error = .duplicateId w.id v.path := by
  constructor
  · intro hrefused
    cases hslot : library.slot? w policy with
    | none =>
      obtain ⟨hpolicy, v, hv, hid, hpath, herror⟩ := insert_of_slot?_eq_none hslot
      exact ⟨hpolicy, v, hv, hid, hpath, Except.error.inj (hrefused.symm.trans herror)⟩
    | some id =>
      rw [h.insert_of_slot hslot] at hrefused
      cases hrefused
  · rintro ⟨hpolicy, v, hv, hid, hpath, rfl⟩
    have hslot := (slot?_eq_none_iff h.idsDistinct).2
      ⟨hpolicy, (not_isOpenTo_iff h.idsDistinct).2 ⟨v, hv, hid, hpath⟩⟩
    obtain ⟨-, u, hu, huid, -, herror⟩ := insert_of_slot?_eq_none hslot
    rw [herror, eq_of_id_eq h.idsDistinct hu hv (huid.trans hid.symm)]

/-- An insert that is not refused puts the record in under its slot. -/
theorem Consistent.insert_eq_ok_iff (h : library.Consistent) {result : Inserted} :
    library.insert w policy = .ok (result, next) ↔
      ∃ id, library.IsSlot w policy id ∧ result = library.outcome w id ∧
        next.HasTaken library { w with id := id } := by
  constructor
  · intro hinsert
    cases hslot : library.slot? w policy with
    | none =>
      obtain ⟨-, v, -, -, -, herror⟩ := insert_of_slot?_eq_none hslot
      rw [herror] at hinsert
      cases hinsert
    | some id =>
      rw [h.insert_of_slot hslot] at hinsert
      obtain ⟨rfl, rfl⟩ := Prod.mk.inj (Except.ok.inj hinsert)
      exact ⟨id, (slot?_eq_some_iff h.idsDistinct).1 hslot, rfl, h.hasTaken_put _⟩
  · rintro ⟨id, hslot, rfl, htaken⟩
    rw [h.insert_of_slot ((slot?_eq_some_iff h.idsDistinct).2 hslot),
      htaken.eq (h.hasTaken_put _)]

end Inserts

/-- A record is put into a library that operations have made.  That is refused exactly where
duplicates are refused and the record's identifier belongs to a record of another path.  Otherwise
the record is kept under its slot: its own identifier where that is free, belongs to the file or may
be taken, and else the first version of it that is free or belongs to the file.  It takes the stead
of the records of its path and of its slot; all other records and the tags of all identifiers that
are still there stay as they are.  The outcome says whether the slot was taken before and whether it
is the record's own identifier. -/
theorem insert_iff_run_empty (operations : List Operation) (w : Wallpaper) (policy : Policy) :
    (∀ error, (empty.run operations).insert w policy = .error error ↔
      policy = .reject ∧ ∃ v ∈ (empty.run operations).wallpapers,
        v.id = w.id ∧ v.path.same w.path = false ∧ error = .duplicateId w.id v.path) ∧
    ∀ result next, (empty.run operations).insert w policy = .ok (result, next) ↔
      ∃ id, (empty.run operations).IsSlot w policy id ∧
        result =
          (if id ∈ (empty.run operations).ids then .updated id
          else if id = w.id then .new id
          else .versioned id) ∧
        next.HasTaken (empty.run operations) { w with id := id } := by
  have h := consistent_empty.run operations
  exact ⟨fun error => h.insert_eq_error_iff, fun result next => h.insert_eq_ok_iff⟩

end WallpaperRotation.Library
