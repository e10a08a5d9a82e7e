/-
# Candidate identifiers

An identifier and its versions, numbered from two on, are the identifiers under which a wallpaper
may be kept.  They are pairwise distinct, so among one more of them than there are records at
least one is free: the search for an open version always ends with one.
-/
import Mathlib.Data.List.Perm.Subperm
import WallpaperRotation.Proofs.Library.Record
import WallpaperRotation.Proofs.Text.Decimal

namespace WallpaperRotation.Library

/-! ## Versions -/

/-- Versions with different numbers are different. -/
theorem versionId_injective (id : String) : Function.Injective (versionId id) := by
  intro m n h
  unfold versionId at h
  rw [String.append_right_inj] at h
  exact Text.toString_injective h

/-- A version of an identifier is longer than the identifier. -/
theorem versionId_ne (id : String) (n : Nat) : versionId id n ≠ id := by
  intro h
  have hlength := congrArg String.length h
  simp only [versionId, String.length_append] at hlength
  have : "-v".length = 2 := by decide
  omega

/-- The identifiers under which a wallpaper may be kept, in the order in which they are tried: its
own and then its versions from two on. -/
def candidateId (id : String) : Nat → String
  | 0 => id
  | n + 1 => versionId id (n + 2)

/-- Different candidates are different identifiers. -/
theorem candidateId_injective (id : String) : Function.Injective (candidateId id) := by
  intro m n h
  cases m with
  | zero =>
    cases n with
    | zero => rfl
    | succ n => exact absurd h.symm (versionId_ne id (n + 2))
  | succ m =>
    cases n with
    | zero => exact absurd h (versionId_ne id (m + 2))
    | succ n =>
      have : m + 2 = n + 2 := versionId_injective id h
      omega

/-- Identifiers of one length, such as digests, have no candidates in common. -/
theorem eq_of_candidateId_eq {id other : String} (hlength : id.length = other.length) {m n : Nat}
    (h : candidateId id m = candidateId other n) : id = other := by
  have hprefix (text : String) (k : Nat) :
      ∃ rest, (candidateId text k).toList = text.toList ++ rest := by
    cases k with
    | zero => exact ⟨[], (List.append_nil _).symm⟩
    | succ k =>
      refine ⟨"-v".toList ++ (toString (k + 2)).toList, ?_⟩
      simp only [candidateId, versionId, String.toList_append, List.append_assoc]
  obtain ⟨rest, hid⟩ := hprefix id m
  obtain ⟨rest', hother⟩ := hprefix other n
  rw [h, hother] at hid
  refine String.toList_injective (List.append_inj_left hid.symm ?_)
  rw [String.length_toList, String.length_toList, hlength]

/-! ## The search for an open version -/

/-- An identifier that no record has is open. -/
theorem isOpen_of_not_mem_ids {library : Library} (path : FilePath) {id : String}
    (h : id ∉ library.ids) : library.isOpen path id = true := by
  unfold isOpen
  rw [get?_eq_none_iff.2 h]

/-- An identifier that is not open is that of a record. -/
theorem mem_ids_of_not_isOpen {library : Library} {path : FilePath} {id : String}
    (h : library.isOpen path id = false) : id ∈ library.ids := by
  by_contra hfree
  rw [isOpen_of_not_mem_ids path hfree] at h
  cases h

/-- No more versions are identifiers of records than there are records. -/
theorem length_le_size_of_mem_ids (library : Library) (id : String) {numbers : List Nat}
    (hnodup : numbers.Nodup) (htaken : ∀ n ∈ numbers, versionId id n ∈ library.ids) :
    numbers.length ≤ library.size := by
  have hsub : numbers.map (versionId id) ⊆ library.ids := by
    intro candidate hcandidate
    obtain ⟨n, hn, rfl⟩ := List.mem_map.1 hcandidate
    exact htaken n hn
  have hversions : (numbers.map (versionId id)).Nodup :=
    List.Nodup.map (versionId_injective id) hnodup
  have hlength := (hversions.subperm hsub).length_le
  rwa [List.length_map, ids, List.length_map] at hlength

/-- One of as many versions as there are records, and one more, is open. -/
theorem exists_isOpen_versionId (library : Library) (path : FilePath) (id : String) :
    ∃ n ∈ List.range' 2 (library.size + 1), library.isOpen path (versionId id n) = true := by
  by_contra hnone
  -- Otherwise more versions than there are records would be identifiers of records.
  have hlength := library.length_le_size_of_mem_ids id List.nodup_range' fun n hn =>
    mem_ids_of_not_isOpen (Bool.eq_false_iff.2 fun hopen => hnone ⟨n, hn, hopen⟩)
  rw [List.length_range'] at hlength
  omega

/-- The version that is found is open, and none with a lower number from two on is. -/
theorem openVersion_spec (library : Library) (path : FilePath) (id : String) :
    2 ≤ library.openVersion path id ∧
      library.isOpen path (versionId id (library.openVersion path id)) = true ∧
      ∀ n, 2 ≤ n → n < library.openVersion path id →
        library.isOpen path (versionId id n) = false := by
  obtain ⟨n, hn, hopen⟩ := exists_isOpen_versionId library path id
  cases hfind : (List.range' 2 (library.size + 1)).find? fun n =>
      library.isOpen path (versionId id n) with
  | none => exact absurd hopen (List.find?_eq_none.1 hfind n hn)
  | some found =>
    have heq : library.openVersion path id = found := by
      unfold openVersion
      rw [hfind, Option.getD_some]
    obtain ⟨hfound, hmem, hfirst⟩ := List.find?_range'_eq_some.1 hfind
    rw [heq]
    refine ⟨(List.mem_range'_1.1 hmem).1, hfound, fun m hm hlt => ?_⟩
    simpa using hfirst m hm hlt

end WallpaperRotation.Library
