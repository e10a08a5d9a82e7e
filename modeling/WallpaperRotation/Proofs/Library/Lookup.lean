/-
# Looking up what a query stands for

A query stands for the record with that identifier; else for the record at that path; else for the
record whose identifier starts with it, if there is one only.  Where records have identifiers and
paths of their own, the answer is told by which records there are, in whatever order they stand.
-/
import Mathlib.Data.Finset.Card
import WallpaperRotation.Proofs.Library.Settled

namespace WallpaperRotation.Library

/-! ## Answers -/

/-- The record is at the path that the query stands for. -/
def IsAt (home : FilePath) (query : String) (w : Wallpaper) : Prop :=
  w.path.same (FilePath.expandTilde home ⟨query⟩) = true

/-- The identifiers that start with the query. -/
def idsFrom (library : Library) (query : String) : Finset String :=
  library.ids.toFinset.filter fun id => query.toList <+: id.toList

/-- How a query is answered: an identifier goes before a path, and a path before the start of an
identifier. -/
inductive Answers (library : Library) (home : FilePath) (query : String) :
    Except StoreError Wallpaper → Prop
  | id (w : Wallpaper) (hw : w ∈ library.wallpapers) (hid : w.id = query) :
      Answers library home query (.ok w)
  | path (w : Wallpaper) (hw : w ∈ library.wallpapers) (hid : query ∉ library.ids)
      (hat : IsAt home query w) : Answers library home query (.ok w)
  | start (w : Wallpaper) (hw : w ∈ library.wallpapers) (hid : query ∉ library.ids)
      (hat : ∀ v ∈ library.wallpapers, ¬IsAt home query v)
      (hstart : library.idsFrom query = {w.id}) : Answers library home query (.ok w)
  | none (hid : query ∉ library.ids) (hat : ∀ v ∈ library.wallpapers, ¬IsAt home query v)
      (hstart : library.idsFrom query = ∅) :
      Answers library home query (.error (.notFound query))
  | many (hid : query ∉ library.ids) (hat : ∀ v ∈ library.wallpapers, ¬IsAt home query v)
      (hstart : 2 ≤ (library.idsFrom query).card) :
      Answers library home query (.error (.ambiguous query (library.idsFrom query).card))

section Lookup

variable {library other : Library} {home : FilePath} {query : String} {w : Wallpaper}

/-- The identifiers that start with the query are those of the records that are looked through. -/
theorem idsFrom_eq (library : Library) (query : String) :
    library.idsFrom query =
      ((library.wallpapers.filter fun w => startsWith w.id query).map Wallpaper.id).toFinset := by
  ext id
  unfold idsFrom ids startsWith
  simp only [Finset.mem_filter, List.mem_toFinset, List.mem_map, List.mem_filter,
    List.isPrefixOf_iff_prefix]
  constructor
  · rintro ⟨⟨w, hw, rfl⟩, hstart⟩
    exact ⟨w, ⟨hw, hstart⟩, rfl⟩
  · rintro ⟨w, ⟨hw, hstart⟩, rfl⟩
    exact ⟨⟨w, hw, rfl⟩, hstart⟩

/-- Where identifiers are distinct, as many start with the query as records are found by it. -/
theorem card_idsFrom (h : library.ids.Nodup) (query : String) :
    (library.idsFrom query).card =
      (library.wallpapers.filter fun w => startsWith w.id query).length := by
  have hnodup : ((library.wallpapers.filter fun w => startsWith w.id query).map
      Wallpaper.id).Nodup := h.sublist (List.filter_sublist.map _)
  rw [idsFrom_eq, List.toFinset_card_of_nodup hnodup, List.length_map]

/-- Nothing is found at a path that no record is at. -/
theorem byPath?_eq_none_of_not_isAt (h : ∀ v ∈ library.wallpapers, ¬IsAt home query v) :
    library.byPath? (FilePath.expandTilde home ⟨query⟩) = none :=
  byPath?_eq_none_iff.2 fun v hv => Bool.eq_false_iff.2 (h v hv)

/-- A query is answered. -/
theorem answers_find (h : library.ids.Nodup) (home : FilePath) (query : String) :
    Answers library home query (library.find home query) := by
  unfold find
  cases hget : library.get? query with
  | some w =>
    obtain ⟨hw, hid⟩ := of_get?_eq_some hget
    exact .id w hw hid
  | none =>
    have hid := get?_eq_none_iff.1 hget
    cases hpath : library.byPath? (FilePath.expandTilde home ⟨query⟩) with
    | some w =>
      obtain ⟨hw, hat⟩ := of_byPath?_eq_some hpath
      exact .path w hw hid hat
    | none =>
      have hat : ∀ v ∈ library.wallpapers, ¬IsAt home query v :=
        fun v hv => Bool.eq_false_iff.1 (byPath?_eq_none_iff.1 hpath v hv)
      have hids := idsFrom_eq library query
      have hcard := card_idsFrom h query
      cases hmatching : library.wallpapers.filter fun w => startsWith w.id query with
      | nil =>
        rw [hmatching] at hids
        exact .none hid hat hids
      | cons w others =>
        have hw : w ∈ library.wallpapers :=
          List.mem_of_mem_filter (hmatching ▸ List.mem_cons_self)
        rw [hmatching] at hids hcard
        cases others with
        | nil => exact .start w hw hid hat hids
        | cons v others =>
          show Answers library home query (.error (.ambiguous query (w :: v :: others).length))
          rw [← hcard]
          refine .many hid hat ?_
          rw [hcard, List.length_cons, List.length_cons]
          omega

/-- Where identifiers and paths are distinct, a query is answered in one way only. -/
theorem find_eq_of_answers (hids : library.ids.Nodup) (hpaths : PathsDistinct library.wallpapers)
    {answer : Except StoreError Wallpaper} (h : Answers library home query answer) :
    library.find home query = answer := by
  have hcard := card_idsFrom hids query
  cases h with
  | id w hw hid =>
    have hget : library.get? query = some w := (get?_eq_some_iff hids).2 ⟨hw, hid⟩
    simp only [find, hget]
  | path w hw hid hat =>
    have hpath := (byPath?_eq_some_iff hpaths).2 ⟨hw, hat⟩
    simp only [find, get?_eq_none_iff.2 hid, hpath]
  | start w hw hid hat hstart =>
    rw [hstart, Finset.card_singleton] at hcard
    obtain ⟨v, hmatching⟩ := List.length_eq_one_iff.1 hcard.symm
    have hsame := idsFrom_eq library query
    rw [hstart, hmatching] at hsame
    have hv : v ∈ library.wallpapers := List.mem_of_mem_filter (hmatching ▸ List.mem_cons_self)
    obtain rfl : w = v := eq_of_id_eq hids hw hv (Finset.singleton_inj.1 hsame)
    simp only [find, get?_eq_none_iff.2 hid, byPath?_eq_none_of_not_isAt hat, hmatching]
  | none hid hat hstart =>
    rw [hstart, Finset.card_empty] at hcard
    have hmatching := List.length_eq_zero_iff.1 hcard.symm
    simp only [find, get?_eq_none_iff.2 hid, byPath?_eq_none_of_not_isAt hat, hmatching]
  | many hid hat hstart =>
    rw [hcard] at hstart ⊢
    cases hmatching : library.wallpapers.filter fun w => startsWith w.id query with
    | nil =>
      rw [hmatching] at hstart
      cases hstart
    | cons v others =>
      cases others with
      | nil =>
        rw [hmatching, List.length_singleton] at hstart
        exact absurd hstart (by decide)
      | cons w others =>
        simp only [find, get?_eq_none_iff.2 hid, byPath?_eq_none_of_not_isAt hat, hmatching]

/-- Where identifiers and paths are distinct, an answer is told by what it says of the records. -/
theorem find_eq_iff (hids : library.ids.Nodup) (hpaths : PathsDistinct library.wallpapers)
    {answer : Except StoreError Wallpaper} :
    library.find home query = answer ↔ Answers library home query answer := by
  refine ⟨?_, find_eq_of_answers hids hpaths⟩
  rintro rfl
  exact answers_find hids home query

/-- Answers do not depend on the order of the records. -/
theorem Answers.of_mem_iff (hmem : ∀ w, w ∈ other.wallpapers ↔ w ∈ library.wallpapers)
    {answer : Except StoreError Wallpaper} (h : Answers library home query answer) :
    Answers other home query answer := by
  have hids (id : String) : id ∈ other.ids ↔ id ∈ library.ids := by
    simp only [mem_ids, hmem]
  have hfrom : other.idsFrom query = library.idsFrom query := by
    ext id
    simp only [idsFrom, Finset.mem_filter, List.mem_toFinset, hids]
  have hnowhere (hat : ∀ v ∈ library.wallpapers, ¬IsAt home query v) :
      ∀ v ∈ other.wallpapers, ¬IsAt home query v := fun v hv => hat v ((hmem v).1 hv)
  cases h with
  | id w hw hid => exact .id w ((hmem w).2 hw) hid
  | path w hw hid hat => exact .path w ((hmem w).2 hw) (mt (hids query).1 hid) hat
  | start w hw hid hat hstart =>
    rw [← hfrom] at hstart
    exact .start w ((hmem w).2 hw) (mt (hids query).1 hid) (hnowhere hat) hstart
  | none hid hat hstart =>
    rw [← hfrom] at hstart
    exact .none (mt (hids query).1 hid) (hnowhere hat) hstart
  | many hid hat hstart =>
    rw [← hfrom] at hstart ⊢
    exact .many (mt (hids query).1 hid) (hnowhere hat) hstart

/-- Where identifiers and paths are distinct, the same records in another order give the same
answers. -/
theorem find_eq_of_mem_iff (hids : library.ids.Nodup) (hpaths : PathsDistinct library.wallpapers)
    (hnodup : other.wallpapers.Nodup)
    (hmem : ∀ w, w ∈ other.wallpapers ↔ w ∈ library.wallpapers) :
    other.find home query = library.find home query := by
  have hperm : library.wallpapers.Perm other.wallpapers :=
    (List.perm_ext_iff_of_nodup hids.of_map hnodup).2 fun w => (hmem w).symm
  have hotherIds : other.ids.Nodup := (hperm.map Wallpaper.id).nodup_iff.1 hids
  exact find_eq_of_answers hotherIds (hpaths.of_perm hperm)
    ((answers_find hids home query).of_mem_iff hmem)

/-- The record that a query stands for has the query as its identifier; or no record has, and it is
at the path of the query; or no record is there either, and its identifier is the only one that
starts with the query. -/
theorem find_eq_ok_iff (hids : library.ids.Nodup) (hpaths : PathsDistinct library.wallpapers) :
    library.find home query = .ok w ↔
      w ∈ library.wallpapers ∧ (w.id = query ∨ query ∉ library.ids ∧ (IsAt home query w ∨
        (∀ v ∈ library.wallpapers, ¬IsAt home query v) ∧ library.idsFrom query = {w.id})) := by
  rw [find_eq_iff hids hpaths]
  constructor
  · intro h
    cases h with
    | id _ hw hid => exact ⟨hw, Or.inl hid⟩
    | path _ hw hid hat => exact ⟨hw, Or.inr ⟨hid, Or.inl hat⟩⟩
    | start _ hw hid hat hstart => exact ⟨hw, Or.inr ⟨hid, Or.inr ⟨hat, hstart⟩⟩⟩
  · rintro ⟨hw, hid | ⟨hid, hat | ⟨hat, hstart⟩⟩⟩
    · exact .id w hw hid
    · exact .path w hw hid hat
    · exact .start w hw hid hat hstart

/-- Nothing is found exactly when no identifier is the query or starts with it and no record is at
its path. -/
theorem find_eq_notFound_iff (hids : library.ids.Nodup)
    (hpaths : PathsDistinct library.wallpapers) :
    library.find home query = .error (.notFound query) ↔
      query ∉ library.ids ∧ (∀ v ∈ library.wallpapers, ¬IsAt home query v) ∧
        library.idsFrom query = ∅ := by
  rw [find_eq_iff hids hpaths]
  constructor
  · intro h
    cases h with
    | none hid hat hstart => exact ⟨hid, hat, hstart⟩
  · rintro ⟨hid, hat, hstart⟩
    exact .none hid hat hstart

/-- A query is ambiguous exactly when no identifier is the query, no record is at its path and more
than one identifier starts with it; it is told how many. -/
theorem find_eq_ambiguous_iff (hids : library.ids.Nodup)
    (hpaths : PathsDistinct library.wallpapers) (n : Nat) :
    library.find home query = .error (.ambiguous query n) ↔
      query ∉ library.ids ∧ (∀ v ∈ library.wallpapers, ¬IsAt home query v) ∧
        2 ≤ n ∧ (library.idsFrom query).card = n := by
  rw [find_eq_iff hids hpaths]
  constructor
  · intro h
    cases h with
    | many hid hat hstart => exact ⟨hid, hat, hstart, rfl⟩
  · rintro ⟨hid, hat, hstart, rfl⟩
    exact .many hid hat hstart

/-- A query finds a record, or nothing, or is ambiguous. -/
theorem eq_of_find_eq_error (hids : library.ids.Nodup) {error : StoreError}
    (h : library.find home query = .error error) :
    error = .notFound query ∨ ∃ n, error = .ambiguous query n := by
  have hanswers := answers_find hids home query
  rw [h] at hanswers
  cases hanswers with
  | none hid hat hstart => exact Or.inl rfl
  | many hid hat hstart => exact Or.inr ⟨_, rfl⟩

end Lookup

/-! ## Libraries that operations make -/

/-- In a library that operations make from the empty one, a query stands for the record that has it
as its identifier, else for the record at its path, else for the record whose identifier is the only
one that starts with it.  Nothing is found exactly when there is none of these and no identifier
starts with the query; and the query is ambiguous, with the number of identifiers that start with it,
exactly when these are more than one and there is no record of that identifier or path.  There are
no other answers.  The answer is the same whatever order the records stand in, and every record is
found by its identifier. -/
theorem find_iff_run_empty (operations : List Operation) (home : FilePath) (query : String) :
    (∀ w, (empty.run operations).find home query = .ok w ↔
      w ∈ (empty.run operations).wallpapers ∧
        (w.id = query ∨ query ∉ (empty.run operations).ids ∧
          (IsAt home query w ∨
            (∀ v ∈ (empty.run operations).wallpapers, ¬IsAt home query v) ∧
              (empty.run operations).idsFrom query = {w.id}))) ∧
    ((empty.run operations).find home query = .error (.notFound query) ↔
      query ∉ (empty.run operations).ids ∧
        (∀ v ∈ (empty.run operations).wallpapers, ¬IsAt home query v) ∧
        (empty.run operations).idsFrom query = ∅) ∧
    (∀ n, (empty.run operations).find home query = .error (.ambiguous query n) ↔
      query ∉ (empty.run operations).ids ∧
        (∀ v ∈ (empty.run operations).wallpapers, ¬IsAt home query v) ∧
        2 ≤ n ∧ ((empty.run operations).idsFrom query).card = n) ∧
    (∀ error, (empty.run operations).find home query = .error error →
      error = .notFound query ∨ ∃ n, error = .ambiguous query n) ∧
    (∀ other : Library, other.wallpapers.Nodup →
      (∀ w, w ∈ other.wallpapers ↔ w ∈ (empty.run operations).wallpapers) →
      other.find home query = (empty.run operations).find home query) ∧
    ∀ w ∈ (empty.run operations).wallpapers, (empty.run operations).find home w.id = .ok w := by
  have hconsistent := consistent_empty.run operations
  have hids := hconsistent.idsDistinct
  have hpaths := hconsistent.pathsDistinct
  refine ⟨fun w => find_eq_ok_iff hids hpaths, find_eq_notFound_iff hids hpaths,
    find_eq_ambiguous_iff hids hpaths, fun error => eq_of_find_eq_error hids, ?_, ?_⟩
  · intro other hnodup hmem
    exact find_eq_of_mem_iff hids hpaths hnodup hmem
  · intro w hw
    exact (find_eq_ok_iff hids hpaths).2 ⟨hw, Or.inl rfl⟩

/-- An image is put in, and a version of it. -/
def versionedOperations : List Operation :=
  [.insert (imageRecord "ab" "a.png") .version, .insert (imageRecord "ab-v2" "b.png") .version]

/-- The image and its version stand beside each other. -/
theorem run_versionedOperations :
    empty.run versionedOperations =
      ⟨[imageRecord "ab" "a.png", imageRecord "ab-v2" "b.png"], []⟩ := by
  have hfirst : empty.apply (.insert (imageRecord "ab" "a.png") .version) =
      imageLibrary "ab" "a.png" := by decide +kernel
  have hsecond := apply_insert_beside (v := imageRecord "ab" "a.png")
    (w := imageRecord "ab-v2" "b.png") (by decide) (by decide +kernel) .version
  unfold versionedOperations run
  rw [List.foldl_cons, hfirst]
  exact hsecond.trans (by decide +kernel)

/-- An image is found by its identifier, though that of its version starts with it; and what both
start with is ambiguous. -/
theorem find_iff_run_empty_versioned :
    imageRecord "ab" "a.png" ∈ (empty.run versionedOperations).wallpapers ∧
    (empty.run versionedOperations).find ⟨"/W/home"⟩ "ab" = .ok (imageRecord "ab" "a.png") ∧
    (empty.run versionedOperations).find ⟨"/W/home"⟩ "a" = .error (.ambiguous "a" 2) := by
  have hmem : imageRecord "ab" "a.png" ∈ (empty.run versionedOperations).wallpapers := by
    rw [run_versionedOperations]
    exact List.mem_cons_self
  obtain ⟨-, -, -, -, -, hself⟩ := find_iff_run_empty versionedOperations ⟨"/W/home"⟩ "ab"
  obtain ⟨-, -, hmany, -⟩ := find_iff_run_empty versionedOperations ⟨"/W/home"⟩ "a"
  refine ⟨hmem, hself _ hmem, (hmany 2).2 ?_⟩
  rw [run_versionedOperations]
  refine ⟨by decide, ?_, by decide, by decide +kernel⟩
  unfold IsAt
  decide +kernel

end WallpaperRotation.Library
