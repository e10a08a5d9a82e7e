/-
# How long the search for a version takes

The search for an open version counts up from two until it comes to one.  The versions are distinct,
and those that are not open are identifiers of records; so it looks at one version more than there
are records at the most, and a counter that goes a little beyond the number of records is enough.
This is so of every library, also of one in which records share identifiers.
-/
import WallpaperRotation.Proofs.Library.Insertion
import WallpaperRotation.Proofs.Library.Settled

namespace WallpaperRotation.Library

/-! ## Searches -/

/-- A search for a version that is open to a path looks at the versions from `number` on, one after
the other, and stops at `last`, the first one that is open; `tried` is how many it looks at.  It can
count up only to numbers that fit its counter. -/
inductive Search (library : Library) (path : FilePath) (id : String) (fits : Nat → Prop) :
    (number tried last : Nat) → Prop where
  | stop {number : Nat} (hopen : library.isOpen path (versionId id number) = true) :
    Search library path id fits number 1 number
  | next {number tried last : Nat} (hheld : library.isOpen path (versionId id number) = false)
    (hfits : fits (number + 1)) (hrest : Search library path id fits (number + 1) tried last) :
    Search library path id fits number (tried + 1) last

section Searches

variable {library : Library} {path : FilePath} {id : String} {fits : Nat → Prop}
  {number tried last : Nat}

/-- A search goes through versions that are not open up to one that is. -/
theorem search_iff :
    library.Search path id fits number tried last ↔
      number + tried = last + 1 ∧ number ≤ last ∧
        library.isOpen path (versionId id last) = true ∧
        (∀ n, number ≤ n → n < last → library.isOpen path (versionId id n) = false) ∧
        ∀ n, number < n → n ≤ last → fits n := by
  constructor
  · intro h
    induction h with
    | stop hopen =>
      exact ⟨rfl, Nat.le_refl _, hopen, fun n hn hlt => by omega, fun n hn hle => by omega⟩
    | next hheld hfits hrest ih =>
      obtain ⟨htried, hle, hopen, hshut, hall⟩ := ih
      refine ⟨by omega, by omega, hopen, fun n hn hlt => ?_, fun n hn hle => ?_⟩
      · rcases Nat.eq_or_lt_of_le hn with rfl | hn
        · exact hheld
        · exact hshut n hn hlt
      · rcases Nat.eq_or_lt_of_le (Nat.succ_le_of_lt hn) with rfl | hn
        · exact hfits
        · exact hall n hn hle
  · rintro ⟨htried, hle, hopen, hshut, hall⟩
    -- Induction on how many versions are left to be tried; the last one is where the search stops.
    obtain ⟨more, rfl⟩ := Nat.exists_eq_add_of_le hle
    obtain rfl : tried = more + 1 := by omega
    clear htried hle
    induction more generalizing number with
    | zero => exact .stop hopen
    | succ more ih =>
      refine .next (hshut number (Nat.le_refl _) (by omega))
        (hall (number + 1) (by omega) (by omega)) ?_
      have heq : number + 1 + more = number + (more + 1) := by omega
      rw [← heq] at hopen hshut hall ⊢
      exact ih hopen (fun n hn hlt => hshut n (by omega) hlt) fun n hn hle => hall n (by omega) hle

/-- The version that a search finds is not beyond the number of records by more than two. -/
theorem openVersion_le (library : Library) (path : FilePath) (id : String) :
    library.openVersion path id ≤ library.size + 2 := by
  obtain ⟨htwo, -, hfirst⟩ := openVersion_spec library path id
  have hlength := library.length_le_size_of_mem_ids id
    (List.nodup_range' (s := 2) (n := library.openVersion path id - 2)) fun n hn =>
      mem_ids_of_not_isOpen (hfirst n (List.mem_range'_1.1 hn).1 (by
        have := (List.mem_range'_1.1 hn).2
        omega))
  rw [List.length_range'] at hlength
  omega

/-- A search from two on stops at the open version, if its counter goes that far. -/
theorem search_two_iff :
    library.Search path id fits 2 tried last ↔
      last = library.openVersion path id ∧ tried + 1 = last ∧ ∀ n, 2 < n → n ≤ last → fits n := by
  obtain ⟨htwo, hopen, hfirst⟩ := openVersion_spec library path id
  rw [search_iff]
  constructor
  · rintro ⟨htried, hle, hlast, hshut, hall⟩
    exact ⟨(openVersion_eq hle hlast hshut).symm, by omega, hall⟩
  · rintro ⟨rfl, htried, hall⟩
    exact ⟨by omega, htwo, hopen, hfirst, hall⟩

end Searches

/-- Putting in a record whose identifier belongs to another file, where duplicates are kept as
versions, keeps it under the open version. -/
theorem exists_insert_eq_of_held {library : Library} {w existing : Wallpaper}
    (hheld : library.get? w.id = some existing) (hother : existing.path.same w.path = false) :
    ∃ outcome next, library.insert w .version = .ok (outcome, next) ∧
      outcome.id = versionId w.id (library.openVersion w.path w.id) := by
  simp only [insert, hheld, hother, Bool.false_eq_true, if_false]
  refine ⟨_, _, rfl, ?_⟩
  unfold insertVersion
  dsimp only
  split <;> rfl

/-- The search for a version ends, in any library, whatever identifiers its records have.  Let the
identifier of a record that is to be kept belong to another file.  The versions of it are distinct,
and no more of them than there are records are taken.  So the search from two on stops at one
version and has looked at one more than there are records at the most, and the record is kept under
that version.  With fewer records than 2³¹ - 3 a signed counter of 32 bits is enough. -/
theorem search_ends (library : Library) {w existing : Wallpaper}
    (hheld : library.get? w.id = some existing) (hother : existing.path.same w.path = false) :
    Function.Injective (versionId w.id) ∧
    (∀ numbers : List Nat, numbers.Nodup → (∀ n ∈ numbers, versionId w.id n ∈ library.ids) →
      numbers.length ≤ library.size) ∧
    ∃ tried last,
      (∀ k n, library.Search w.path w.id (fun _ => True) 2 k n ↔ k = tried ∧ n = last) ∧
      tried ≤ library.size + 1 ∧
      (library.size < 2 ^ 31 - 3 → library.Search w.path w.id (· < 2 ^ 31) 2 tried last) ∧
      ∃ outcome next, library.insert w .version = .ok (outcome, next) ∧
        outcome.id = versionId w.id last := by
  have htwo := (openVersion_spec library w.path w.id).1
  have hle := library.openVersion_le w.path w.id
  refine ⟨versionId_injective w.id, fun numbers => library.length_le_size_of_mem_ids w.id,
    library.openVersion w.path w.id - 1, library.openVersion w.path w.id, fun k n => ?_, by omega,
    fun hfew => ?_, exists_insert_eq_of_held hheld hother⟩
  · rw [search_two_iff]
    constructor
    · rintro ⟨rfl, hk, -⟩
      exact ⟨by omega, rfl⟩
    · rintro ⟨rfl, rfl⟩
      exact ⟨rfl, by omega, fun _ _ _ => trivial⟩
  · exact search_two_iff.2 ⟨rfl, by omega, fun n _ hn => by omega⟩

/-- A library in which two records share an identifier and a third one has a version of it. -/
def sharingLibrary : Library :=
  ⟨[imageRecord "a" "x.png", imageRecord "a" "y.png", imageRecord "a-v2" "x.png"], []⟩

/-- Where records share an identifier the search passes over the version that is taken, and the
record is kept under the next one. -/
theorem search_ends_sharing :
    sharingLibrary.get? (imageRecord "a" "z.png").id = some (imageRecord "a" "x.png") ∧
      (imageRecord "a" "x.png").path.same (imageRecord "a" "z.png").path = false ∧
      sharingLibrary.Search (imageRecord "a" "z.png").path "a" (· < 2 ^ 31) 2 2 3 ∧
      ∃ outcome next,
        sharingLibrary.insert (imageRecord "a" "z.png") .version = .ok (outcome, next) ∧
          outcome.id = "a-v3" := by
  have hheld : sharingLibrary.get? (imageRecord "a" "z.png").id =
      some (imageRecord "a" "x.png") := by decide +kernel
  have hother : (imageRecord "a" "x.png").path.same (imageRecord "a" "z.png").path = false := by
    decide +kernel
  have hsearch : sharingLibrary.Search (imageRecord "a" "z.png").path "a" (fun _ => True) 2 2 3 :=
    .next (by decide +kernel) trivial (.stop (by decide +kernel))
  obtain ⟨-, -, tried, last, honly, -, hcounter, hinsert⟩ := search_ends sharingLibrary hheld hother
  obtain ⟨rfl, rfl⟩ := (honly 2 3).1 hsearch
  exact ⟨hheld, hother, hcounter (by decide), hinsert⟩

end WallpaperRotation.Library
